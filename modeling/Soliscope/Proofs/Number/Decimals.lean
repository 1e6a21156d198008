/-! # Natural numbers in writing

A natural number is written with digits only, and its text tells which number it is.
-/

namespace Soliscope.Number

/-- A number in writing holds digits alone. -/
theorem isDigit_of_mem_toString {number : Nat} {c : Char}
    (member : c ∈ (toString number).toList) : c.isDigit = true := by
  rw [Nat.toString_eq_repr, Nat.toList_repr] at member
  exact Nat.isDigit_of_mem_toDigits (by decide) (by decide) member

theorem notMem_toString {c : Char} (noDigit : c.isDigit = false) (number : Nat) :
    c ∉ (toString number).toList := by
  intro member
  rw [isDigit_of_mem_toString member] at noDigit
  cases noDigit

/-- A number can be told from its writing. -/
theorem eq_of_toString_eq {first second : Nat} (same : toString first = toString second) :
    first = second := by
  have read := congrArg (fun text : String => Nat.ofDigitChars 10 text.toList 0) same
  simpa only [Nat.toString_eq_repr, Nat.toList_repr,
    Nat.ofDigitChars_toDigits (b := 10) (by decide) (by decide)] using read

end Soliscope.Number
