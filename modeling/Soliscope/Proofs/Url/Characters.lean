import Soliscope.Url.Basic
import Soliscope.Url.Form

/-! # What escaped text is made of

Escaped text is made of the characters that stand for themselves where it stands, and of percent
signs and hexadecimal digits. None of these is a control character, and none would end the part of
the address that the text belongs to. A form in writing has the characters of its entries and its
own marks only, all of which may stand in a query as they are (`escape_render`).
-/

namespace Soliscope.Url

open Soliscope.Text

/-- A character that neither ends a path nor is a control character. -/
def isPlain (c : Char) : Bool :=
  !isControl c && c != '?' && c != '#'

/-- What can be seen of every ASCII character holds of all of them. -/
theorem ascii_all (property : Char → Bool) (all : ∀ code < 128, property (Char.ofNat code) = true)
    {c : Char} (ascii : c.toNat < 128) : property c = true := by
  have found := all c.toNat ascii
  rwa [Char.ofNat_toNat] at found

/-- Unreserved characters are in ASCII. -/
theorem toNat_lt_of_isUnreserved {c : Char} (free : isUnreserved c = true) : c.toNat < 128 := by
  have letters : c.isAlphanum = true → c.toNat < 128 := by
    intro letter
    delta Char.isAlphanum Char.isAlpha Char.isUpper Char.isLower Char.isDigit at letter
    simp only [Bool.or_eq_true, Bool.and_eq_true, decide_eq_true_eq, UInt32.le_iff_toNat_le,
      ge_iff_le] at letter
    change ((65 ≤ c.toNat ∧ c.toNat ≤ 90) ∨ (97 ≤ c.toNat ∧ c.toNat ≤ 122)) ∨
      (48 ≤ c.toNat ∧ c.toNat ≤ 57) at letter
    omega
  simp only [isUnreserved, Bool.or_eq_true, beq_iff_eq] at free
  rcases free with (((letter | rfl) | rfl) | rfl) | rfl
  · exact letters letter
  all_goals decide

/-- A property of all unreserved characters, checked one by one. -/
theorem of_isUnreserved (property : Char → Bool)
    (all : ∀ code < 128, (!isUnreserved (Char.ofNat code) || property (Char.ofNat code)) = true)
    {c : Char} (free : isUnreserved c = true) : property c = true := by
  have found := ascii_all (fun c => !isUnreserved c || property c) all
    (toNat_lt_of_isUnreserved free)
  simpa [free] using found

theorem isPlain_of_isUnreserved {c : Char} (free : isUnreserved c = true) : isPlain c = true :=
  of_isUnreserved isPlain (by decide) free

/-- Hexadecimal digits are unreserved. -/
theorem isUnreserved_hexDigit {value : Nat} (small : value < 16) :
    isUnreserved (hexDigit value) = true := by
  have all : ∀ digit < 16, isUnreserved (hexDigit digit) = true := by decide
  exact all value small

/-- An escape is made of unreserved characters and percent signs. -/
theorem mem_escapeByte {byte : UInt8} {c : Char} (member : c ∈ escapeByte byte) :
    isUnreserved c = true ∨ c = '%' := by
  have bound : byte.toNat < 256 := byte.toNat_lt
  simp only [escapeByte, List.mem_cons, List.not_mem_nil, or_false] at member
  rcases member with rfl | rfl | rfl
  · exact Or.inr rfl
  · exact Or.inl (isUnreserved_hexDigit (by omega))
  · exact Or.inl (isUnreserved_hexDigit (by omega))

theorem mem_escapeChar {c other : Char} (member : c ∈ escapeChar other) :
    isUnreserved c = true ∨ c = '%' := by
  obtain ⟨byte, -, within⟩ := List.mem_flatMap.mp member
  exact mem_escapeByte within

/-- What escaped text is made of. -/
theorem mem_escape {safe : Char → Bool} {text : List Char} {c : Char}
    (member : c ∈ escape safe text) : isUnreserved c = true ∨ c = '%' ∨ safe c = true := by
  obtain ⟨other, -, within⟩ := List.mem_flatMap.mp member
  split at within
  · rename_i kept
    rw [List.mem_singleton] at within
    subst within
    rw [Bool.or_eq_true] at kept
    exact kept.imp_right Or.inr
  · exact (mem_escapeChar within).imp_right Or.inl

/-- Text whose characters all stand for themselves is not changed by escaping. -/
theorem escape_eq_self {safe : Char → Bool} {text : List Char}
    (all : ∀ c ∈ text, isUnreserved c = true ∨ safe c = true) : escape safe text = text := by
  induction text with
  | nil => rfl
  | cons c rest ih =>
      have kept : (isUnreserved c || safe c) = true := by
        rw [Bool.or_eq_true]
        exact all c List.mem_cons_self
      have others := ih fun other member => all other (List.mem_cons_of_mem c member)
      simp only [escape, List.flatMap_cons, kept, ↓reduceIte, List.singleton_append]
      exact congrArg (c :: ·) others

/-- An escaped text is plain if the characters that are left are. -/
theorem isPlain_of_mem_escape {safe : Char → Bool}
    (plain : ∀ c, safe c = true → isPlain c = true) {text : List Char} {c : Char}
    (member : c ∈ escape safe text) : isPlain c = true := by
  rcases mem_escape member with free | rfl | isSafe
  · exact isPlain_of_isUnreserved free
  · decide
  · exact plain c isSafe

/-- No control character is plain. -/
theorem isControl_of_isPlain {c : Char} (plain : isPlain c = true) : isControl c = false := by
  simp only [isPlain, Bool.and_eq_true, Bool.not_eq_true'] at plain
  exact plain.1.1

theorem not_control_of_isPrintableAscii {c : Char} (printable : isPrintableAscii c = true) :
    isControl c = false := by
  simp only [isPrintableAscii, Bool.and_eq_true, decide_eq_true_eq] at printable
  simp only [isControl, Bool.or_eq_false_iff, decide_eq_false_iff_not, beq_eq_false_iff_ne]
  omega

/-- A fragment leaves no control character unescaped. -/
theorem not_control_of_isFragmentSafe {c : Char} (safe : isFragmentSafe c = true) :
    isControl c = false := by
  simp only [isFragmentSafe, Bool.and_eq_true] at safe
  exact not_control_of_isPrintableAscii safe.1

theorem not_control_of_isQuerySafe {c : Char} (safe : isQuerySafe c = true) :
    isControl c = false := by
  simp only [isQuerySafe, Bool.and_eq_true] at safe
  exact not_control_of_isPrintableAscii safe.1

/-- A path leaves plain characters alone. -/
theorem isPlain_of_isPathSafe {c : Char} (safe : isPathSafe c = true) : isPlain c = true := by
  simp only [isPathSafe, Bool.and_eq_true, Bool.not_eq_true'] at safe
  obtain ⟨querySafe, noMark⟩ := safe
  have noControl := not_control_of_isQuerySafe querySafe
  simp only [isQuerySafe, Bool.and_eq_true, Bool.not_eq_true'] at querySafe
  have noHash : c ≠ '#' := by
    rintro rfl
    exact absurd querySafe.2 (by decide)
  have noQuestion : c ≠ '?' := by
    rintro rfl
    exact absurd noMark (by decide)
  simp [isPlain, noControl, noHash, noQuestion]

theorem isPlain_of_isUserinfoSafe {c : Char} (safe : isUserinfoSafe c = true) :
    isPlain c = true := by
  simp only [isUserinfoSafe, Bool.and_eq_true] at safe
  exact isPlain_of_isPathSafe safe.1

theorem isPlain_of_isNameSafe {c : Char} (safe : isNameSafe c = true) : isPlain c = true := by
  have all : "!$&'()*+,;=\"\x60%|\\\x7b\x7d".toList.all isPlain = true := by decide +kernel
  exact List.all_eq_true.mp all c (List.contains_iff_mem.mp safe)

/-- A character that escaping leaves, or that an escape is made of, is no control character if those
that stand for themselves are none. -/
theorem not_control_of_mem_escape {safe : Char → Bool}
    (printable : ∀ c, safe c = true → isControl c = false) {text : List Char} {c : Char}
    (member : c ∈ escape safe text) : isControl c = false := by
  rcases mem_escape member with free | rfl | isSafe
  · exact isControl_of_isPlain (isPlain_of_isUnreserved free)
  · decide
  · exact printable c isSafe

section Forms

/-- A character that a value in a form is written with. -/
def isValueChar (c : Char) : Bool :=
  isUnreserved c || c == '%' || c == '+'

/-- A character that a form is written with. -/
def isFormChar (c : Char) : Bool :=
  isValueChar c || c == '=' || c == '&'

/-- An encoded value is made of the characters for values. -/
theorem isValueChar_of_mem_encode {text : String} {c : Char} (member : c ∈ Form.encode text) :
    isValueChar c = true := by
  obtain ⟨other, -, within⟩ := List.mem_flatMap.mp member
  unfold Form.encodeChar at within
  split at within
  · rename_i free
    rw [List.mem_singleton] at within
    simp [isValueChar, within, free]
  · split at within
    · rw [List.mem_singleton] at within
      rw [within]
      decide
    · rcases mem_escapeChar within with free | rfl
      · simp [isValueChar, free]
      · decide

/-- A text is written with at least one character for each of its own. -/
theorem encode_ne_nil {text : String} (given : text ≠ "") : Form.encode text ≠ [] := by
  have some : text.toList ≠ [] := fun none => given (String.toList_eq_nil_iff.mp none)
  obtain ⟨c, rest, isCons⟩ := List.exists_cons_of_ne_nil some
  have first : Form.encodeChar c ≠ [] := by
    unfold Form.encodeChar
    split
    · simp
    · split
      · simp
      · simp only [escapeChar, utf8Char]
        split
        · simp [escapeByte]
        · split
          · simp [escapeByte]
          · split <;> simp [escapeByte]
  rw [Form.encode, isCons, List.flatMap_cons]
  exact fun empty => first (List.append_eq_nil_iff.mp empty).1

/-- An encoded entry has only the mark between name and value besides. -/
theorem isFormChar_of_mem_encodeEntry {entry : String × String} {c : Char}
    (member : c ∈ Form.encodeEntry entry) : isFormChar c = true := by
  rw [Form.encodeEntry, List.mem_append, List.mem_cons] at member
  rcases member with name | rfl | value
  · simp [isFormChar, isValueChar_of_mem_encode name]
  · decide
  · simp [isFormChar, isValueChar_of_mem_encode value]

/-- What stands between the parts of a list joined by a mark is the mark. -/
theorem mem_intercalate {mark c : Char} {parts : List (List Char)}
    (member : c ∈ [mark].intercalate parts) : c = mark ∨ ∃ part ∈ parts, c ∈ part := by
  induction parts with
  | nil => simp at member
  | cons first rest ih =>
      cases rest with
      | nil =>
          rw [List.intercalate_singleton] at member
          exact Or.inr ⟨first, List.mem_cons_self, member⟩
      | cons second others =>
          rw [List.intercalate_cons_cons, List.mem_append, List.mem_append,
            List.mem_singleton] at member
          rcases member with (inFirst | isMark) | inRest
          · exact Or.inr ⟨first, List.mem_cons_self, inFirst⟩
          · exact Or.inl isMark
          · rcases ih inRest with isMark | ⟨part, inParts, within⟩
            · exact Or.inl isMark
            · exact Or.inr ⟨part, List.mem_cons_of_mem _ inParts, within⟩

/-- A form has only the mark between entries besides. -/
theorem isFormChar_of_mem_render {entries : List (String × String)} {c : Char}
    (member : c ∈ Form.render entries) : isFormChar c = true := by
  rcases mem_intercalate member with rfl | ⟨part, inParts, within⟩
  · decide
  · obtain ⟨entry, -, rfl⟩ := List.mem_map.mp inParts
    exact isFormChar_of_mem_encodeEntry within

/-- What holds of the unreserved characters and of the four marks holds of a form. Both can be
checked by evaluation. -/
theorem of_isFormChar {property : Char → Bool}
    (all : ∀ code < 128, (!isUnreserved (Char.ofNat code) || property (Char.ofNat code)) = true)
    (marks : (property '%' && property '+' && property '=' && property '&') = true) {c : Char}
    (isForm : isFormChar c = true) : property c = true := by
  simp only [Bool.and_eq_true] at marks
  simp only [isFormChar, isValueChar, Bool.or_eq_true, beq_iff_eq] at isForm
  rcases isForm with (((free | rfl) | rfl) | rfl) | rfl
  · exact of_isUnreserved property all free
  · exact marks.1.1.1
  · exact marks.1.1.2
  · exact marks.1.2
  · exact marks.2

/-- A form is not escaped again in a query. -/
theorem isQuerySafe_of_isFormChar {c : Char} (isForm : isFormChar c = true) :
    isQuerySafe c = true :=
  of_isFormChar (by decide) (by decide) isForm

/-- A form is written with characters that may stand in a query as they are. -/
theorem escape_render (entries : List (String × String)) :
    escape isQuerySafe (Form.render entries) = Form.render entries :=
  escape_eq_self fun _ member =>
    Or.inr (isQuerySafe_of_isFormChar (isFormChar_of_mem_render member))

end Forms

end Soliscope.Url
