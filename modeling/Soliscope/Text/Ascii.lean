import Soliscope.Text.Quoted

/-! # ASCII

The characters of ASCII, and what is said about a text that has others.
-/

namespace Soliscope.Text

/-- A text is ASCII. -/
def isAscii (text : List Char) : Bool :=
  text.all (·.toNat < 128)

/-- The first run of characters of a text that are not ASCII: where it starts, and the run. -/
structure ForeignRun where
  position : Nat
  run : List Char
  deriving DecidableEq, Repr

/-- Find the characters of a text that are not ASCII. -/
def foreignRun? (text : List Char) : Option ForeignRun :=
  let plain := text.takeWhile (·.toNat < 128)
  match (text.drop plain.length).takeWhile (128 ≤ ·.toNat) with
  | [] => none
  | run => some ⟨plain.length, run⟩

/-- The text about characters that are not ASCII. -/
def ForeignRun.message (foreign : ForeignRun) : String :=
  let characters :=
    match foreign.run with
    | [c] => "character '" ++ String.ofList (escapePoint c.toNat) ++ "' in position " ++
        toString foreign.position
    | run => "characters in position " ++ toString foreign.position ++ "-" ++
        toString (foreign.position + run.length - 1)
  "'ascii' codec can't encode " ++ characters ++ ": ordinal not in range(128)"

end Soliscope.Text
