import Mathlib.Data.List.Infix
import Soliscope.Json.Reader
import Soliscope.Json.Writer

/-!
# Integers written and read back

The text of an integer is read as one numeral, if what follows cannot go on with it
(`numeral?_int`), and the value of the numeral is the integer (`value_int`). Inside a document a
value is followed by its end or by one of three marks (`EndsValue`).
-/

namespace Soliscope.Json

open Soliscope.Number

/-- A text that may follow a value: nothing, or what separates or closes values. -/
def EndsValue : List Char → Prop
  | [] => True
  | c :: _ => c = ',' ∨ c = ']' ∨ c = '}'

/-- At the end of a value there is no fraction. -/
theorem EndsValue.fractionPart {rest : List Char} (ends : EndsValue rest) :
    fractionPart rest = ([], rest) := by
  cases rest with
  | nil => rfl
  | cons c rest => rcases ends with rfl | rfl | rfl <;> rfl

theorem EndsValue.exponentPart {rest : List Char} (ends : EndsValue rest) :
    exponentPart rest = (none, rest) := by
  cases rest with
  | nil => rfl
  | cons c rest => rcases ends with rfl | rfl | rfl <;> rfl

/-- The digits of a run are read up to what may follow a value. -/
theorem digitRun_append {digits rest : List Char} (all : ∀ c ∈ digits, c.isDigit = true)
    (ends : EndsValue rest) : digitRun (digits ++ rest) = (digits, rest) := by
  have stop : rest.takeWhile Char.isDigit = [] ∧ rest.dropWhile Char.isDigit = rest := by
    cases rest with
    | nil => exact ⟨rfl, rfl⟩
    | cons c rest => rcases ends with rfl | rfl | rfl <;> exact ⟨rfl, rfl⟩
  rw [digitRun, List.takeWhile_append_of_pos all, List.dropWhile_append_of_pos all, stop.1, stop.2,
    List.append_nil]

/-- A number in writing is made of digits. -/
theorem isDigit_decimal (value : Nat) : ∀ c ∈ Nat.toDigits 10 value, c.isDigit = true :=
  fun _ member => Nat.isDigit_of_mem_toDigits (by decide) (by decide) member

theorem decimal_eq_cons (value : Nat) :
    ∃ first more, Nat.toDigits 10 value = first :: more ∧ first.isDigit = true := by
  obtain ⟨first, more, digits⟩ :=
    List.exists_cons_of_ne_nil (Nat.toDigits_ne_nil (n := value) (b := 10))
  exact ⟨first, more, digits, isDigit_decimal value first (digits ▸ List.mem_cons_self)⟩

theorem ne_of_isDigit {first c : Char} (digit : first.isDigit = true) (other : c.isDigit = false) :
    first ≠ c := by
  rintro rfl
  rw [digit] at other
  cases other

/-- Only zero is written with a zero in front. -/
theorem head_decimal {value : Nat} (positive : 0 < value) :
    ∃ first more, Nat.toDigits 10 value = first :: more ∧ first ≠ '0' ∧ first.isDigit = true := by
  induction value using Nat.strongRecOn with
  | ind value ih =>
      by_cases small : value < 10
      · refine ⟨value.digitChar, [], Nat.toDigits_of_lt_base small, ?_, ?_⟩
        · rw [Ne, Nat.digitChar_eq_zero]
          omega
        · rw [Nat.isDigit_digitChar]
          exact decide_eq_true small
      · obtain ⟨first, more, digits, nonzero, digit⟩ := ih (value / 10) (by omega) (by omega)
        refine ⟨first, more ++ [(value % 10).digitChar], ?_, nonzero, digit⟩
        rw [Nat.toDigits_of_base_le (by decide) (Nat.le_of_not_lt small), digits]
        rfl

/-- All its digits are read, for it does not begin with a needless zero. -/
theorem wholePart?_decimal (value : Nat) {rest : List Char} (ends : EndsValue rest) :
    wholePart? (Nat.toDigits 10 value ++ rest) = some (Nat.toDigits 10 value, rest) := by
  rcases Nat.eq_zero_or_pos value with rfl | positive
  · rfl
  · obtain ⟨first, more, digits, nonzero, digit⟩ := head_decimal positive
    have run := digitRun_append (isDigit_decimal value) ends
    rw [digits, List.cons_append] at run ⊢
    simp [wholePart?, digit, run]

/-- A natural number is read as a numeral of these digits. -/
theorem numeral?_decimal (value : Nat) {rest : List Char} (ends : EndsValue rest) :
    numeral? (Nat.toDigits 10 value ++ rest) =
      some (⟨false, Nat.toDigits 10 value, [], none⟩, rest) := by
  have whole := wholePart?_decimal value ends
  obtain ⟨first, more, digits, digit⟩ := decimal_eq_cons value
  have unsigned : first ≠ '-' := ne_of_isDigit digit rfl
  rw [digits, List.cons_append] at whole ⊢
  unfold numeral?
  split
  next negative unsignedText sign =>
    split at sign
    · next same => exact absurd (List.cons.inj same).1 unsigned
    · cases sign
      simp [whole, ends.fractionPart, ends.exponentPart]

/-- Behind a minus sign it is read as negative. -/
theorem numeral?_negative (value : Nat) {rest : List Char} (ends : EndsValue rest) :
    numeral? ('-' :: (Nat.toDigits 10 value ++ rest)) =
      some (⟨true, Nat.toDigits 10 value, [], none⟩, rest) := by
  have whole := wholePart?_decimal value ends
  simp [numeral?, whole, ends.fractionPart, ends.exponentPart]

/-- The text of an integer: its digits, after a minus sign if it is negative. -/
theorem toList_toString_int (value : Int) :
    (toString value).toList =
      if value < 0 then '-' :: Nat.toDigits 10 value.natAbs else Nat.toDigits 10 value.natAbs := by
  cases value with
  | ofNat value =>
      have text : toString (Int.ofNat value) = value.repr := rfl
      rw [text, Nat.toList_repr]
      exact (if_neg (Int.not_lt.mpr (Int.natCast_nonneg value))).symm
  | negSucc value =>
      have text : toString (Int.negSucc value) = "-" ++ (value + 1).repr := rfl
      rw [text, String.toList_append, Nat.toList_repr, if_pos (Int.negSucc_lt_zero value)]
      rfl

/-- An integer in writing is a numeral without fraction and exponent. -/
theorem numeral?_int (value : Int) {rest : List Char} (ends : EndsValue rest) :
    numeral? ((toString value).toList ++ rest) =
      some (⟨decide (value < 0), Nat.toDigits 10 value.natAbs, [], none⟩, rest) := by
  rw [toList_toString_int]
  by_cases negative : value < 0
  · rw [if_pos negative, decide_eq_true negative]
    exact numeral?_negative value.natAbs ends
  · rw [if_neg negative, decide_eq_false negative]
    exact numeral?_decimal value.natAbs ends

/-- No word for a value begins like a number, with a digit or with a minus sign and a digit. -/
theorem literal?_digit {first : Char} (digit : first.isDigit = true) (more : List Char) :
    literal? (first :: more) = none ∧ literal? ('-' :: first :: more) = none := by
  have other {c : Char} (letter : c.isDigit = false) : (c == first) = false :=
    beq_eq_false_iff_ne.mpr (ne_of_isDigit digit letter).symm
  have n := other (c := 'n') rfl
  have t := other (c := 't') rfl
  have f := other (c := 'f') rfl
  have N := other (c := 'N') rfl
  have I := other (c := 'I') rfl
  have minus := other (c := '-') rfl
  simp [literal?, literals, List.isPrefixOf?, n, t, f, N, I, minus]

/-- No integer is written as a word. -/
theorem literal?_int (value : Int) (rest : List Char) :
    literal? ((toString value).toList ++ rest) = none := by
  obtain ⟨first, more, digits, digit⟩ := decimal_eq_cons value.natAbs
  have none := literal?_digit digit (more ++ rest)
  rw [toList_toString_int, digits]
  by_cases negative : value < 0
  · rw [if_pos negative]
    exact none.2
  · rw [if_neg negative]
    exact none.1

/-- The integer is one that the reader takes. -/
def IsTakenInteger (value : Int) : Prop :=
  (Nat.toDigits 10 value.natAbs).length ≤ integerDigitLimit

instance (value : Int) : Decidable (IsTakenInteger value) :=
  inferInstanceAs (Decidable (_ ≤ _))

/-- The value of that numeral is the integer. -/
theorem value_int {value : Int} (taken : IsTakenInteger value) :
    Numeral.value ⟨decide (value < 0), Nat.toDigits 10 value.natAbs, [], none⟩ =
      .ok (.int value) := by
  have short : ¬ integerDigitLimit < (Nat.toDigits 10 value.natAbs).length := Nat.not_lt.mpr taken
  have magnitude : digitsValue (Nat.toDigits 10 value.natAbs) = value.natAbs :=
    Nat.ofDigitChars_toDigits (by decide) (by decide)
  simp only [Numeral.value, List.isEmpty_nil, Option.isNone_none, Bool.and_self, ↓reduceIte, short,
    magnitude]
  by_cases negative : value < 0
  · rw [if_pos (decide_eq_true negative)]
    congr 2
    omega
  · rw [if_neg (by simp [negative])]
    congr 2
    omega

end Soliscope.Json
