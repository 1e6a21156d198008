/-! # Sets of code points given by ranges

A property of characters is a list of inclusive code point ranges.  Tables of this form stand in
the modules named for the property; this one says what such a table means.
-/

namespace Soliscope.Text

/-- Inclusive ranges of code points, in ascending order. -/
abbrev CodeRanges := List (Nat × Nat)

namespace CodeRanges

/-- A code point belongs to the set when one of the ranges holds it. -/
def has (ranges : CodeRanges) (codePoint : Nat) : Bool :=
  ranges.any fun range => range.1 ≤ codePoint && codePoint ≤ range.2

theorem has_iff {ranges : CodeRanges} {codePoint : Nat} :
    ranges.has codePoint = true ↔
      ∃ range ∈ ranges, range.1 ≤ codePoint ∧ codePoint ≤ range.2 := by
  simp [has, List.any_eq_true]

end CodeRanges

end Soliscope.Text
