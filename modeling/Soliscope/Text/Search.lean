/-! # Finding text in text

The first occurrence of one text in another, and what lies before and after it.
-/

namespace Soliscope.Text

/-- How many characters of `text` stand before the first occurrence of `needle`. -/
def occurrence? (needle text : List Char) : Option Nat :=
  go 0 text
where
  go (offset : Nat) : List Char → Option Nat
    | [] => if needle.isEmpty then some offset else none
    | c :: rest => if needle.isPrefixOf (c :: rest) then some offset else go (offset + 1) rest

/-- The text occurs somewhere. -/
def occurs (needle text : List Char) : Bool :=
  (occurrence? needle text).isSome

/-- What lies before and after the first occurrence. -/
def cut? (needle text : List Char) : Option (List Char × List Char) :=
  (occurrence? needle text).map fun offset =>
    (text.take offset, text.drop (offset + needle.length))

/-- Put `replacement` in the place of the first occurrence, if there is one. -/
def replaceFirst (needle replacement text : List Char) : List Char :=
  match cut? needle text with
  | some (before, after) => before ++ (replacement ++ after)
  | none => text

/-- `text` contains `needle`. -/
def contains (text needle : String) : Bool :=
  occurs needle.toList text.toList

end Soliscope.Text
