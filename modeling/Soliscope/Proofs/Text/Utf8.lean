import Soliscope.Text.Utf8

/-! # Text in bytes is read back

Every character starts with a byte that tells how many others follow, none of which starts a
character itself. Reading a character off the front of its bytes therefore does not depend on what
follows (`Utf8.step_utf8Char`), and bytes that were made from a text give the text again
(`Utf8.decodeLossy_utf8`).
-/

namespace Soliscope.Text

namespace Utf8

section Step

/-- A small number is kept in a byte. -/
theorem toNat_byte {value : Nat} (small : value < 256) : (UInt8.ofNat value).toNat = value :=
  UInt8.toNat_ofNat_of_lt' small

/-- Six bits behind the mark of a tail byte are a tail byte. -/
theorem isTail_tail (code shift : Nat) : isTail (0x80 + code / shift % 64) = true := by
  simp only [isTail, Bool.and_eq_true, decide_eq_true_eq]
  omega

/-- Which bytes may follow a lead byte. The bounds keep out overlong forms, surrogates and what is
beyond Unicode. -/
theorem followsLead_eq_true_iff {lead second : Nat} :
    followsLead lead second = true ↔
      (0x80 ≤ second ∧ second < 0xC0) ∧ ¬ (lead = 0xE0 ∧ second < 0xA0) ∧
        ¬ (lead = 0xED ∧ 0xA0 ≤ second) ∧ ¬ (lead = 0xF0 ∧ second < 0x90) ∧
        ¬ (lead = 0xF4 ∧ 0x90 ≤ second) := by
  simp only [followsLead, isTail, Bool.and_eq_true, Bool.not_eq_true', Bool.and_eq_false_iff,
    beq_eq_false_iff_ne, decide_eq_true_eq, decide_eq_false_iff_not]
  omega

/-- Only one lead byte with a high second byte is read as a surrogate. -/
theorem surrogate?_eq_false {lead second third : Nat} (apart : ¬ (lead = 0xED ∧ 0xA0 ≤ second)) :
    surrogate? lead second third = false := by
  rw [Bool.eq_false_iff]
  intro found
  simp only [surrogate?, Bool.and_eq_true, beq_iff_eq, decide_eq_true_eq] at found
  exact apart found.1.1

/-- No character is a surrogate. -/
theorem toNat_cases (c : Char) :
    c.toNat < 0xD800 ∨ (0xDFFF < c.toNat ∧ c.toNat < 0x110000) := c.valid

variable (surrogates : Bool) (rest : List UInt8) {code : Nat}

/-- A character below 128 is read from its one byte. -/
theorem step_one (small : code < 0x80) :
    step surrogates (UInt8.ofNat code) rest = .char (Char.ofNat code) 1 := by
  have value : (UInt8.ofNat code).toNat = code := toNat_byte (by omega)
  simp only [step, value, small, ↓reduceIte]

/-- A character below 2048 is read from its two bytes. -/
theorem step_two (some : 0x80 ≤ code) (small : code < 0x800) :
    step surrogates (UInt8.ofNat (0xC0 + code / 64))
        (UInt8.ofNat (0x80 + code / 1 % 64) :: rest) = .char (Char.ofNat code) 2 := by
  have lead : (UInt8.ofNat (0xC0 + code / 64)).toNat = 0xC0 + code / 64 := toNat_byte (by omega)
  have second : (UInt8.ofNat (0x80 + code / 1 % 64)).toNat = 0x80 + code / 1 % 64 :=
    toNat_byte (by omega)
  have notOne : ¬ 0xC0 + code / 64 < 0x80 := by omega
  have started : ¬ 0xC0 + code / 64 < 0xC2 := by omega
  have two : 0xC0 + code / 64 < 0xE0 := by omega
  have whole : (0xC0 + code / 64 - 0xC0) * 64 + (0x80 + code / 1 % 64 - 0x80) = code := by omega
  simp only [step, lead, second, notOne, started, two, isTail_tail, whole, ↓reduceIte]

/-- A character of three bytes is read from them, for it is no surrogate. -/
theorem step_three (some : 0x800 ≤ code) (small : code < 0x10000)
    (apart : code < 0xD800 ∨ 0xDFFF < code) :
    step surrogates (UInt8.ofNat (0xE0 + code / 4096))
        (UInt8.ofNat (0x80 + code / 64 % 64) :: UInt8.ofNat (0x80 + code / 1 % 64) :: rest) =
      .char (Char.ofNat code) 3 := by
  have lead : (UInt8.ofNat (0xE0 + code / 4096)).toNat = 0xE0 + code / 4096 :=
    toNat_byte (by omega)
  have second : (UInt8.ofNat (0x80 + code / 64 % 64)).toNat = 0x80 + code / 64 % 64 :=
    toNat_byte (by omega)
  have third : (UInt8.ofNat (0x80 + code / 1 % 64)).toNat = 0x80 + code / 1 % 64 :=
    toNat_byte (by omega)
  have notOne : ¬ 0xE0 + code / 4096 < 0x80 := by omega
  have started : ¬ 0xE0 + code / 4096 < 0xC2 := by omega
  have notTwo : ¬ 0xE0 + code / 4096 < 0xE0 := by omega
  have three : 0xE0 + code / 4096 < 0xF0 := by omega
  have follows : followsLead (0xE0 + code / 4096) (0x80 + code / 64 % 64) = true := by
    rw [followsLead_eq_true_iff]
    omega
  have noSurrogate (last : Nat) :
      surrogate? (0xE0 + code / 4096) (0x80 + code / 64 % 64) last = false :=
    surrogate?_eq_false (by omega)
  have whole : (0xE0 + code / 4096 - 0xE0) * 4096 + (0x80 + code / 64 % 64 - 0x80) * 64 +
      (0x80 + code / 1 % 64 - 0x80) = code := by
    omega
  simp only [step, lead, second, third, notOne, started, notTwo, three, follows, noSurrogate,
    isTail_tail, whole, Bool.and_false, Bool.not_true, Bool.false_eq_true, ↓reduceIte]

/-- A character of four bytes is read from them. -/
theorem step_four (some : 0x10000 ≤ code) (small : code < 0x110000) :
    step surrogates (UInt8.ofNat (0xF0 + code / 262144))
        (UInt8.ofNat (0x80 + code / 4096 % 64) :: UInt8.ofNat (0x80 + code / 64 % 64) ::
          UInt8.ofNat (0x80 + code / 1 % 64) :: rest) =
      .char (Char.ofNat code) 4 := by
  have lead : (UInt8.ofNat (0xF0 + code / 262144)).toNat = 0xF0 + code / 262144 :=
    toNat_byte (by omega)
  have second : (UInt8.ofNat (0x80 + code / 4096 % 64)).toNat = 0x80 + code / 4096 % 64 :=
    toNat_byte (by omega)
  have third : (UInt8.ofNat (0x80 + code / 64 % 64)).toNat = 0x80 + code / 64 % 64 :=
    toNat_byte (by omega)
  have fourth : (UInt8.ofNat (0x80 + code / 1 % 64)).toNat = 0x80 + code / 1 % 64 :=
    toNat_byte (by omega)
  have notOne : ¬ 0xF0 + code / 262144 < 0x80 := by omega
  have started : ¬ 0xF0 + code / 262144 < 0xC2 := by omega
  have notTwo : ¬ 0xF0 + code / 262144 < 0xE0 := by omega
  have notThree : ¬ 0xF0 + code / 262144 < 0xF0 := by omega
  have four : 0xF0 + code / 262144 < 0xF5 := by omega
  have follows : followsLead (0xF0 + code / 262144) (0x80 + code / 4096 % 64) = true := by
    rw [followsLead_eq_true_iff]
    omega
  have whole : (0xF0 + code / 262144 - 0xF0) * 262144 + (0x80 + code / 4096 % 64 - 0x80) * 4096 +
      (0x80 + code / 64 % 64 - 0x80) * 64 + (0x80 + code / 1 % 64 - 0x80) = code := by
    omega
  simp only [step, lead, second, third, fourth, notOne, started, notTwo, notThree, four, follows,
    isTail_tail, whole, Bool.not_true, Bool.false_eq_true, ↓reduceIte]

end Step

/-- The front of a character in bytes is the character again, whatever follows. -/
theorem step_utf8Char (surrogates : Bool) (c : Char) :
    ∃ first more, utf8Char c = first :: more ∧
      ∀ rest, step surrogates first (more ++ rest) = .char c (more.length + 1) := by
  have isChar : Char.ofNat c.toNat = c := Char.ofNat_toNat c
  unfold utf8Char
  dsimp only
  split
  case isTrue small =>
    refine ⟨_, [], rfl, fun rest => ?_⟩
    rw [List.nil_append, step_one surrogates rest small, isChar]
    rfl
  case isFalse notOne =>
    split
    case isTrue small =>
      refine ⟨_, [_], rfl, fun rest => ?_⟩
      have two := step_two surrogates rest (Nat.not_lt.mp notOne) small
      rwa [isChar] at two
    case isFalse notTwo =>
      split
      case isTrue small =>
        refine ⟨_, [_, _], rfl, fun rest => ?_⟩
        have apart : c.toNat < 0xD800 ∨ 0xDFFF < c.toNat :=
          (toNat_cases c).imp_right And.left
        have three := step_three surrogates rest (Nat.not_lt.mp notTwo) small apart
        rwa [isChar] at three
      case isFalse notThree =>
        refine ⟨_, [_, _, _], rfl, fun rest => ?_⟩
        have small : c.toNat < 0x110000 := by
          rcases toNat_cases c with low | ⟨-, high⟩
          · omega
          · exact high
        have four := step_four surrogates rest (Nat.not_lt.mp notThree) small
        rwa [isChar] at four

/-- Bytes that were read already are skipped. -/
theorem decodeLossyFrom_skip (read : List Char) (skipped rest : List UInt8) :
    decodeLossyFrom skipped.length read (skipped ++ rest) = decodeLossyFrom 0 read rest := by
  induction skipped with
  | nil => rfl
  | cons byte skipped ih => exact ih

/-- Bytes of a text are read back as the text behind what was read before. -/
theorem decodeLossyFrom_utf8 (read text : List Char) :
    decodeLossyFrom 0 read (utf8 text) = read.reverse ++ text := by
  induction text generalizing read with
  | nil => simp [utf8, decodeLossyFrom]
  | cons c text ih =>
      obtain ⟨first, more, isBytes, found⟩ := step_utf8Char false c
      have bytes : utf8 (c :: text) = first :: (more ++ utf8 text) := by
        rw [utf8, List.flatMap_cons, isBytes]
        rfl
      rw [bytes, decodeLossyFrom, found]
      dsimp only
      rw [Nat.add_sub_cancel, decodeLossyFrom_skip, ih, List.reverse_cons, List.append_assoc]
      rfl

/-- **A text in bytes is read back**, whether or not it is expected that bytes are replaced. -/
theorem decodeLossy_utf8 (text : List Char) : decodeLossy (utf8 text) = text := by
  rw [decodeLossy, decodeLossyFrom_utf8]
  rfl

end Utf8

end Soliscope.Text
