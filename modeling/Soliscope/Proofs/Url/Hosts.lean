import Mathlib.Data.List.Infix
import Soliscope.Proofs.Outcomes
import Soliscope.Proofs.Url.Characters
import Soliscope.Url.Host

/-! # What hosts are made of

A host is written with plain characters only, in whatever form it is kept or shown. For names this
comes from the rules for labels: a label that passes them has letters, digits and hyphens among its
ASCII characters, and what is written in ASCII for a label with others is made of its ASCII
characters and of digits.
-/

namespace Soliscope.Url

open Soliscope.Text

/-- All characters of a text are plain. -/
def IsPlain (text : List Char) : Prop :=
  ∀ c ∈ text, isPlain c = true

/-- Plain texts are joined to a plain text. -/
theorem IsPlain.append {first second : List Char} (one : IsPlain first) (two : IsPlain second) :
    IsPlain (first ++ second) := by
  intro c member
  rcases List.mem_append.mp member with within | within
  · exact one c within
  · exact two c within

/-- Parts of a plain text are plain. -/
theorem IsPlain.of_subset {part text : List Char} (plain : IsPlain text) (within : part ⊆ text) :
    IsPlain part :=
  fun c member => plain c (within member)

/-- Only ASCII has characters that are not plain. -/
theorem isPlain_of_le {c : Char} (beyond : 128 ≤ c.toNat) : isPlain c = true := by
  have noControl : isControl c = false := by
    simp only [isControl, Bool.or_eq_false_iff, decide_eq_false_iff_not, beq_eq_false_iff_ne]
    omega
  have noQuestion : c ≠ '?' := by
    rintro rfl
    exact absurd beyond (by decide)
  have noHash : c ≠ '#' := by
    rintro rfl
    exact absurd beyond (by decide)
  simp [isPlain, noControl, noQuestion, noHash]

/-- A capital letter and its small one are both plain. -/
theorem isPlain_of_toLower {c : Char} (plain : isPlain c.toLower = true) : isPlain c = true := by
  by_cases ascii : c.toNat < 128
  · have all : ∀ code < 128,
        (!isPlain (Char.ofNat code).toLower || isPlain (Char.ofNat code)) = true := by
      decide
    have found := ascii_all (fun c => !isPlain c.toLower || isPlain c) all ascii
    simpa [plain] using found
  · exact isPlain_of_le (Nat.le_of_not_lt ascii)

/-- Lower case keeps a character plain. -/
theorem isPlain_toLower {c : Char} (plain : isPlain c = true) : isPlain c.toLower = true := by
  by_cases ascii : c.toNat < 128
  · have all : ∀ code < 128,
        (!isPlain (Char.ofNat code) || isPlain (Char.ofNat code).toLower) = true := by
      decide
    have found := ascii_all (fun c => !isPlain c || isPlain c.toLower) all ascii
    simpa [plain] using found
  · refine isPlain_of_le ?_
    have same : c.toLower = c := by
      delta Char.toLower
      refine dif_neg fun capital => ascii ?_
      have small : c.val.toNat ≤ 90 := capital.2
      change c.val.toNat < 128
      omega
    rw [same]
    exact Nat.le_of_not_lt ascii

section Labels

/-- A character that may stand in some places of a label only. -/
def isPlaced (c : Char) : Bool :=
  isJoiner c || c == '\u00B7' || c == '\u0375' || (c == '\u05F3' || c == '\u05F4') ||
    c == '\u30FB' || isArabicDigit c || isEasternDigit c

/-- A character that is no flaw in a name is plain. -/
theorem isPlain_of_characterFlaw? {before after : List Char} {c : Char}
    (fine : characterFlaw? before c after = none) : isPlain c = true := by
  by_cases ascii : c.toNat < 128
  · have letters : ∀ code < 128,
        (isPlain (Char.ofNat code) || !isDomainLetter (Char.ofNat code)) = true := by
      decide +kernel
    have others : ∀ code < 128, (!isPlaced (Char.ofNat code)) = true := by
      decide +kernel
    have letter := ascii_all (fun c => isPlain c || !isDomainLetter c) letters ascii
    have other := ascii_all (fun c => !isPlaced c) others ascii
    cases isLetter : isDomainLetter c with
    | true => simpa [isLetter] using letter
    | false =>
        simp only [isPlaced, Bool.not_eq_true', Bool.or_eq_false_iff] at other
        obtain ⟨⟨⟨⟨⟨⟨noJoiner, noDot⟩, noKeraia⟩, noGeresh, noGershayim⟩, noMiddle⟩, noArabic⟩,
          noEastern⟩ := other
        simp [characterFlaw?, fitsPlace?, isLetter, noJoiner, noDot, noKeraia, noGeresh,
          noGershayim, noMiddle, noArabic, noEastern] at fine
  · exact isPlain_of_le (Nat.le_of_not_lt ascii)

theorem isPlain_of_checkCharacters {label : List Nat} {before rest : List Char}
    (fine : checkCharacters label before rest = .ok ()) : IsPlain rest := by
  induction rest generalizing before with
  | nil => exact fun c member => (by cases member)
  | cons c after ih =>
      rw [checkCharacters] at fine
      cases flaw : characterFlaw? before c after with
      | some wrong =>
          rw [flaw] at fine
          cases fine
      | none =>
          rw [flaw] at fine
          intro other member
          rcases List.mem_cons.mp member with rfl | later
          · exact isPlain_of_characterFlaw? flaw
          · exact ih fine other later

/-- A checked label has the characters of its code points, and they are plain. -/
theorem isPlain_of_checkLabel {points : List Nat} {label : List Char}
    (checked : checkLabel points = .ok label) :
    label = points.map Char.ofNat ∧ IsPlain label := by
  simp only [checkLabel, check_eq_ok, bind_eq_ok] at checked
  obtain ⟨-, -, -, _, -, -, _, characters, _, -, made⟩ := checked
  cases made
  exact ⟨rfl, isPlain_of_checkCharacters characters⟩

end Labels

section Punycode

open Punycode

/-- The digits of the encoding are plain. -/
theorem isPlain_digitChar {digit : Nat} (small : digit < 36) :
    isPlain (digitChar digit) = true := by
  have all : ∀ value < 36, isPlain (digitChar value) = true := by decide
  exact all digit small

/-- Thresholds are digits of the encoding. -/
theorem threshold_lt (bias place : Nat) : threshold bias place < 36 := by
  unfold threshold
  omega

/-- A number in writing is plain. -/
theorem isPlain_writeNumber (bias steps place number : Nat) :
    IsPlain (writeNumber bias steps place number) := by
  induction steps generalizing place number with
  | zero => exact fun c member => (by cases member)
  | succ steps ih =>
      have least := threshold_lt bias place
      intro c member
      rw [writeNumber] at member
      split at member
      · rename_i last
        rw [List.mem_singleton] at member
        rw [member]
        exact isPlain_digitChar (by omega)
      · rcases List.mem_cons.mp member with rfl | later
        · have digit := Nat.mod_lt (number - threshold bias place)
            (show 36 - threshold bias place > 0 by omega)
          exact isPlain_digitChar (by omega)
        · exact ih _ _ c later

/-- A step over one character writes plain text. -/
theorem isPlain_pass {basicCount point : Nat} {writing : Writing}
    (plain : IsPlain writing.written) (c : Char) :
    IsPlain (writing.pass basicCount point c).written := by
  unfold Writing.pass
  split
  · exact plain
  · split
    · exact plain.append (isPlain_writeNumber _ _ _ _)
    · exact plain

theorem isPlain_writePoints (text : List Char) (basicCount next : Nat) {writing : Writing}
    (plain : IsPlain writing.written) (points : List Nat) :
    IsPlain (writePoints text basicCount next writing points) := by
  induction points generalizing next writing with
  | nil => exact plain
  | cons point points ih =>
      rw [writePoints]
      refine ih _ ?_
      exact List.foldlRecOn text _ (motive := fun writing : Writing => IsPlain writing.written)
        plain fun writing plain c _ => isPlain_pass plain c

/-- What is written in ASCII for a plain text is plain. -/
theorem isPlain_encode {text : List Char} (plain : IsPlain text) : IsPlain (encode text) := by
  have nothing : IsPlain [] := fun c member => (by cases member)
  have basic : IsPlain (text.filter (·.toNat < 128)) :=
    plain.of_subset (List.filter_subset_self _)
  unfold encode
  dsimp only
  split
  · exact isPlain_writePoints _ _ _ nothing _
  · refine basic.append ?_
    intro c member
    rcases List.mem_cons.mp member with rfl | later
    · decide
    · exact isPlain_writePoints _ _ _ nothing _ c later

end Punycode

section Names

/-- The mark of an encoded label is plain. -/
theorem isPlain_asciiMark : IsPlain asciiMark := by
  have all : asciiMark.all isPlain = true := by decide +kernel
  exact List.all_eq_true.mp all

/-- Characters are kept through their codes. -/
theorem map_ofNat_toNat (text : List Char) : (text.map Char.toNat).map Char.ofNat = text := by
  rw [List.map_map]
  exact List.map_id'' (fun c => Char.ofNat_toNat c) text

/-- What an ASCII label stands for is plain, and so is the label itself. -/
theorem isPlain_of_decodeAsciiLabel {written label : List Char}
    (decoded : decodeAsciiLabel written = .ok label) : IsPlain label ∧ IsPlain written := by
  unfold decodeAsciiLabel at decoded
  cases found : asciiMark.isPrefixOf? written with
  | none =>
      rw [found] at decoded
      obtain ⟨same, plain⟩ := isPlain_of_checkLabel decoded
      rw [map_ofNat_toNat] at same
      exact ⟨plain, same ▸ plain⟩
  | some encoded =>
      rw [found] at decoded
      simp only [check_eq_ok] at decoded
      obtain ⟨-, -, decoded⟩ := decoded
      cases points : Punycode.decode? encoded with
      | none =>
          rw [points] at decoded
          cases decoded
      | some points' =>
          simp only [points, bind_eq_ok] at decoded
          obtain ⟨checked, passed, decoded⟩ := decoded
          have plain := (isPlain_of_checkLabel passed).2
          split at decoded
          · rename_i same
            cases decoded
            have split := List.isPrefixOf?_eq_some_iff_append_eq.mp found
            rw [← split, ← beq_iff_eq.mp same]
            exact ⟨plain, IsPlain.append isPlain_asciiMark (isPlain_encode plain)⟩
          · cases decoded

/-- A decoded label is plain, for it has been checked. -/
theorem isPlain_of_decodeLabel {written label : List Char}
    (decoded : decodeLabel written = .ok label) : IsPlain label := by
  unfold decodeLabel at decoded
  split at decoded
  · exact (isPlain_of_decodeAsciiLabel decoded).1
  · exact (isPlain_of_checkLabel decoded).2

/-- An encoded label is plain. -/
theorem isPlain_of_encodeLabel {label written : List Char}
    (encoded : encodeLabel label = .ok written) : IsPlain written := by
  unfold encodeLabel at encoded
  split at encoded
  · rename_i ascii
    simp only [check_eq_ok, bind_eq_ok] at encoded
    obtain ⟨meaning, decoded, _, same, -, made⟩ := encoded
    cases same
    cases made
    rw [decodeLabel, ascii] at decoded
    have plain := (isPlain_of_decodeAsciiLabel decoded).2
    intro c member
    exact isPlain_of_toLower (plain c.toLower (List.mem_map_of_mem member))
  · simp only [check_eq_ok, bind_eq_ok] at encoded
    obtain ⟨checked, passed, _, same, -, made⟩ := encoded
    cases same
    cases made
    have plain := (isPlain_of_checkLabel passed).2
    exact IsPlain.append isPlain_asciiMark (isPlain_encode plain)

/-- Points between plain labels make a plain name. -/
theorem isPlain_intercalate {parts : List (List Char)} (plain : ∀ part ∈ parts, IsPlain part) :
    IsPlain (['.'].intercalate parts) := by
  intro c member
  rcases mem_intercalate member with rfl | ⟨part, inParts, within⟩
  · decide
  · exact plain part inParts c within

/-- A change that gives plain labels gives plain names. -/
theorem isPlain_of_mapLabels {change : List Char → Except NameFlaw (List Char)}
    (changes : ∀ label changed, change label = .ok changed → IsPlain changed)
    {name mapped : List Char} (isMapped : mapLabels change name = .ok mapped) :
    IsPlain mapped := by
  have all {labels changed : List (List Char)} (made : labels.mapM change = .ok changed) :
      ∀ part ∈ changed, IsPlain part := by
    intro part member
    obtain ⟨label, -, isChanged⟩ := exists_of_mem_mapM made member
    exact changes label part isChanged
  simp only [mapLabels, check_eq_ok] at isMapped
  obtain ⟨-, -, isMapped⟩ := isMapped
  split at isMapped
  · obtain ⟨changed, made, result⟩ := bind_eq_ok.mp isMapped
    cases result
    refine isPlain_intercalate fun part member => ?_
    rcases List.mem_append.mp member with inChanged | last
    · exact all made part inChanged
    · rw [List.mem_singleton.mp last]
      exact fun c inside => (by cases inside)
  · obtain ⟨changed, made, result⟩ := bind_eq_ok.mp isMapped
    cases result
    exact isPlain_intercalate (all made)

/-- An encoded name is plain. -/
theorem isPlain_of_encodeName {name written : List Char}
    (encoded : encodeName name = .ok written) : IsPlain written := by
  simp only [encodeName, check_eq_ok, bind_eq_ok] at encoded
  obtain ⟨found, mapped, -, made⟩ := encoded
  cases made
  exact isPlain_of_mapLabels (fun _ _ => isPlain_of_encodeLabel) mapped

theorem isPlain_of_decodeName {written name : List Char}
    (decoded : decodeName written = .ok name) : IsPlain name :=
  isPlain_of_mapLabels (fun _ _ => isPlain_of_decodeLabel) decoded

end Names

/-- **Kept hosts are plain**, if they were written with plain characters. -/
theorem isPlain_of_keptHost {host kept : List Char} (plain : IsPlain host)
    (isKept : keptHost host = .ok kept) : IsPlain kept := by
  unfold keptHost at isKept
  split at isKept
  · cases isKept
    exact fun c member => (by cases member)
  · split at isKept
    · split at isKept
      · cases isKept
        exact plain
      · cases isKept
    · split at isKept
      · dsimp only at isKept
        split at isKept
        · cases isKept
          exact plain.of_subset fun c member =>
            List.mem_of_mem_drop (List.mem_of_mem_dropLast member)
        · cases isKept
      · split at isKept
        · cases isKept
          exact fun c member => isPlain_of_mem_escape (fun _ => isPlain_of_isNameSafe) member
        · cases encoded : encodeName (Text.lower (String.ofList host)).toList with
          | error flaw =>
              rw [encoded] at isKept
              cases isKept
          | ok name =>
              rw [encoded] at isKept
              cases isKept
              exact isPlain_of_encodeName encoded

/-- **Shown hosts are plain**, as kept ones are. -/
theorem isPlain_of_shownHost {kept shown : List Char} (plain : IsPlain kept)
    (isShown : shownHost kept = .ok shown) : IsPlain shown := by
  unfold shownHost at isShown
  split at isShown
  · exact isPlain_of_decodeName isShown
  · cases isShown
    exact plain

end Soliscope.Url
