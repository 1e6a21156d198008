import Soliscope.Proofs.Explorer.Masking
import Soliscope.Proofs.Text.Runs

/-! # Redaction masks the keys and nothing else

What redaction makes of a text is settled by two things that can be asked of any text shown in its
place: no mark in it shows a key, and it differs from the given text only in that whole keys behind
marks are replaced by the mask. Redaction does both, and nothing else does
(`redact_isRedaction`).

Keys end at the same characters in every text, so that redaction can be done on both sides of such a
character (`masked_append_delimiter`); with the secrecy of a single key (`redactFrom_key`) this
carries what is said of one key to all of them.
-/

namespace Soliscope.Explorer

open Soliscope.Text

section Delimiters

variable {front back : List Char} {c : Char}

/-- A key runs up to what ends it, whatever stands behind. -/
theorem keyRun_append_delimiter (ends : endsKey c = true) (front back : List Char) :
    keyRun (front ++ c :: back) = keyRun front :=
  takeWhile_append_stop (by rw [ends]; rfl) front back

/-- What stands behind the end of a key is left over. -/
theorem afterKey_append_delimiter (ends : endsKey c = true) (front back : List Char) :
    afterKey (front ++ c :: back) = afterKey front ++ c :: back :=
  dropWhile_append_stop (by rw [ends]; rfl) front back

/-- A character that stays does so whatever stands behind a character that ends keys. -/
theorem keyAt?_append_delimiter (ends : endsKey c = true) (none : keyAt? front = .none)
    (back : List Char) : keyAt? (front ++ c :: back) = .none := by
  by_cases marked : keyMark <+: front
  · obtain ⟨more, rfl⟩ := marked
    rw [List.append_assoc]
    apply keyAt?_bareMark
    rw [keyRun_append_delimiter ends]
    exact keyRun_of_stays none
  · apply keyAt?_of_no_mark
    intro starts
    exact marked (prefix_append_break (notMem_keyMark ends) starts)

/-- **A character that ends keys parts a text for redaction.** -/
theorem masked_append_delimiter (ends : endsKey c = true) (front back : List Char) :
    masked (front ++ c :: back) = masked front ++ c :: masked back := by
  induction front using redaction_induction with
  | nil => exact masked_delimiter ends back
  | mark rest given ih =>
      have longer : keyRun (rest ++ c :: back) ≠ [] := by
        rwa [keyRun_append_delimiter ends]
      rw [List.append_assoc, masked_mark longer, afterKey_append_delimiter ends, ih,
        masked_mark given, List.append_assoc, List.append_assoc]
  | keep first rest none ih =>
      have stays := keyAt?_append_delimiter ends none back
      rw [List.cons_append] at stays
      rw [List.cons_append, masked_keep stays, ih, masked_keep none]
      rfl

/-- Two texts are masked apart if the second begins with the end of a key. -/
theorem masked_append_ended (front : List Char) (ends : EndsRun back) :
    masked (front ++ back) = masked front ++ masked back := by
  cases back with
  | nil =>
      rw [List.append_nil]
      exact (List.append_nil (masked front)).symm
  | cons c back =>
      rw [masked_append_delimiter ends, masked_delimiter ends]

end Delimiters

/-- **Texts that differ only in their keys**: what stands behind a mark may be another key, of any
length, at each place where there is one. -/
inductive SameButKeys : List Char → List Char → Prop
  | nothing : SameButKeys [] []
  | kept {one other : List Char} (c : Char) (later : SameButKeys one other) :
      SameButKeys (c :: one) (c :: other)
  | key {one other first second : List Char} (firstKey : IsKey first) (secondKey : IsKey second)
      (later : SameButKeys one other) :
      SameButKeys (keyMark ++ (first ++ one)) (keyMark ++ (second ++ other))

/-- **A text with some of its keys masked.** A key that is masked stands behind a mark and is whole:
nothing of it is left. All else is kept, one character after the other. -/
inductive MasksOnlyKeys : List Char → List Char → Prop
  | kept (text : List Char) : MasksOnlyKeys text text
  | key {front key rest shown : List Char} (marked : keyMark <:+ front) (isKey : IsKey key)
      (whole : EndsRun rest) (later : MasksOnlyKeys rest shown) :
      MasksOnlyKeys (front ++ (key ++ rest)) (front ++ (keyMask ++ shown))

/-- Some mark in a text has a key behind it. -/
def HasKey (text : List Char) : Prop :=
  ∃ before key after, IsKey key ∧ text = before ++ (keyMark ++ (key ++ after))

/-- **A text is what redaction shows of another one.** -/
structure IsRedaction (text shown : String) : Prop where
  /-- Every mark is followed by nothing, by a character that ends keys, or by the mask and then one
  of these. -/
  covered : IsMasked shown.toList
  /-- Redaction finds nothing more to do. -/
  settled : redact shown = shown
  /-- Other keys at the same places make no difference. -/
  hidden : ∀ other : String, SameButKeys text.toList other.toList → redact other = shown
  /-- What is no key is kept. -/
  kept : MasksOnlyKeys text.toList shown.toList
  /-- No other text covers every mark and keeps what is no key. -/
  only : ∀ other : String, IsMasked other.toList → MasksOnlyKeys text.toList other.toList →
    other = shown
  unchanged : ¬ HasKey text.toList → shown = text

section Keys

/-- The mask itself passes for a key. -/
theorem isKey_keyMask : IsKey keyMask :=
  ⟨List.cons_ne_nil _ _, keyMask_runs⟩

/-- A run that is not empty is a key. -/
theorem isKey_keyRun {rest : List Char} (given : keyRun rest ≠ []) : IsKey (keyRun rest) := by
  refine ⟨given, fun c member => ?_⟩
  have passed := List.mem_takeWhile_imp member
  simpa using passed

/-- The keys are changed one after the other, the first one first. What stands in front of the place
that is looked at is the same in both texts. -/
theorem SameButKeys.masked_append_eq {one other : List Char} (same : SameButKeys one other)
    (before : List Char) : masked (before ++ one) = masked (before ++ other) := by
  induction same generalizing before with
  | nothing => rfl
  | @kept one other c later ih =>
      have moved := ih (before ++ [c])
      rwa [List.append_assoc, List.append_assoc, List.singleton_append,
        List.singleton_append] at moved
  | @key one other first second firstKey secondKey later ih =>
      have moved := ih (before ++ (keyMark ++ first))
      calc
        masked (before ++ (keyMark ++ (first ++ one))) =
            masked (before ++ (keyMark ++ (first ++ other))) := by
          simpa only [List.append_assoc] using moved
        _ = masked (before ++ (keyMark ++ (second ++ other))) :=
          redactFrom_key firstKey secondKey [] before other

end Keys

section Parts

variable {text shown : List Char}

/-- A character in front of a text stays. -/
theorem MasksOnlyKeys.cons (masks : MasksOnlyKeys text shown) (c : Char) :
    MasksOnlyKeys (c :: text) (c :: shown) := by
  cases masks with
  | kept => exact .kept (c :: text)
  | @key front key rest shown marked isKey whole later =>
      have longer : keyMark <:+ c :: front := marked.trans (List.suffix_cons c front)
      exact .key longer isKey whole later

/-- Masking puts masks for keys and changes nothing else. -/
theorem masked_masksOnlyKeys (text : List Char) : MasksOnlyKeys text (masked text) := by
  induction text using redaction_induction with
  | nil => exact .kept []
  | mark rest given ih =>
      have split : keyRun rest ++ afterKey rest = rest := List.takeWhile_append_dropWhile
      have masks := MasksOnlyKeys.key List.suffix_rfl (isKey_keyRun given) (endsRun_afterKey rest) ih
      rw [split] at masks
      rw [masked_mark given]
      exact masks
  | keep c rest none ih =>
      rw [masked_keep none]
      exact ih.cons c

/-- What covers every mark and keeps what is no key is what redaction makes of the text. -/
theorem MasksOnlyKeys.eq_masked (masks : MasksOnlyKeys text shown) (isMasked : IsMasked shown) :
    shown = masked text := by
  induction masks with
  | kept text => exact (masked_eq_self isMasked).symm
  | @key front key rest shown marked isKey whole later ih =>
      rw [← List.append_assoc] at isMasked
      have isRest : shown = masked rest := ih isMasked.of_append
      -- The mask is a key itself, so that the given key may be thought to be masked already.
      have replaced : masked (front ++ (key ++ rest)) = masked (front ++ (keyMask ++ rest)) := by
        obtain ⟨before, rfl⟩ := marked
        rw [List.append_assoc, List.append_assoc]
        exact redactFrom_key isKey isKey_keyMask [] before rest
      have settled : masked (front ++ keyMask) ++ shown = front ++ keyMask ++ shown := by
        have ends : EndsRun shown := by
          rw [isRest]
          exact endsRun_masked whole
        have again := masked_append_ended (front ++ keyMask) ends
        rwa [masked_eq_self isMasked, masked_eq_self isMasked.of_append, eq_comm] at again
      calc
        front ++ (keyMask ++ shown) = masked (front ++ keyMask) ++ shown := by
          rw [settled, List.append_assoc]
        _ = masked (front ++ keyMask) ++ masked rest := by rw [isRest]
        _ = masked (front ++ (key ++ rest)) := by
          rw [replaced, ← List.append_assoc, masked_append_ended _ whole]

/-- A text without a key is masked as it is. -/
theorem isMasked_of_not_hasKey (keyless : ¬ HasKey text) : IsMasked text := by
  intro before after split
  apply IsCovered.bare
  apply endsRun_of_keyRun
  by_contra given
  have whole : keyRun after ++ afterKey after = after := List.takeWhile_append_dropWhile
  refine keyless ⟨before, keyRun after, afterKey after, isKey_keyRun given, ?_⟩
  rw [whole]
  exact split

end Parts

/-- **Redaction is complete, least and settled**: it covers every mark, changes nothing but keys,
shows nothing of them and has nothing to do a second time. -/
theorem redact_isRedaction (text : String) : IsRedaction text (redact text) where
  covered := isMasked_redact text
  settled := (redact_eq_self_iff _).mpr (isMasked_redact text)
  hidden := by
    intro other same
    apply String.toList_injective
    rw [toList_redact, toList_redact]
    exact (same.masked_append_eq []).symm
  kept := by
    rw [toList_redact]
    exact masked_masksOnlyKeys text.toList
  only := by
    intro other isMasked masks
    apply String.toList_injective
    rw [toList_redact]
    exact masks.eq_masked isMasked
  unchanged := fun keyless => (redact_eq_self_iff text).mpr (isMasked_of_not_hasKey keyless)

/-- A key that holds a mark itself, a mark without a key, a key that an ideographic space ends, and
a key that is masked already. -/
example : redact "apikey=apikey=K&apikey=&apikey=L\u3000apikey=[REDACTED]'" =
    "apikey=[REDACTED]&apikey=&apikey=[REDACTED]\u3000apikey=[REDACTED]'" := by
  decide +kernel

end Soliscope.Explorer
