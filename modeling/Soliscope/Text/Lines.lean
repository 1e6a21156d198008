/-! # Lines

Findings are numbered by the lines between newline characters; a carriage return belongs to its
line.  The size of a source is told in lines of running text instead, which end at any of the
Unicode line boundaries.
-/

namespace Soliscope.Text

/-- The segments between newline characters: one more than there are newlines. -/
def segments (text : List Char) : List (List Char) :=
  text.splitOn '\n'

/-- The segments of a text between its newline characters. -/
def lines (text : String) : List String :=
  (segments text.toList).map String.ofList

/-- A character that ends a line of running text. -/
def isLineBoundary (c : Char) : Bool :=
  (0x0A ≤ c.toNat && c.toNat ≤ 0x0D) || (0x1C ≤ c.toNat && c.toNat ≤ 0x1E) ||
    c.toNat == 0x85 || c.toNat == 0x2028 || c.toNat == 0x2029

/-- The number of lines of running text.  A carriage return and the newline after it are one
boundary, and a boundary at the very end starts no further line. -/
def countLines (text : String) : Nat :=
  go false 0 text.toList
where
  go (unfinished : Bool) (count : Nat) : List Char → Nat
    | [] => if unfinished then count + 1 else count
    | '\r' :: '\n' :: rest => go false (count + 1) rest
    | c :: rest => if isLineBoundary c then go false (count + 1) rest else go true count rest

end Soliscope.Text
