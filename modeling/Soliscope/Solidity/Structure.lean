import Soliscope.Text.Search

/-! # Structural checks

Checks on a Solidity source that need no compiler: there is a pragma, something is declared, and
braces and parentheses come in equal numbers.
-/

namespace Soliscope.Solidity

open Soliscope.Text

/-- What the structure of a source lacks. -/
inductive StructureFlaw where
  | noPragma
  | noDeclaration
  | braces (opening closing : Nat)
  | parentheses (opening closing : Nat)
  deriving DecidableEq, Repr

/-- The text of a flaw. -/
def StructureFlaw.message : StructureFlaw → String
  | .noPragma => "Missing pragma solidity statement"
  | .noDeclaration => "No contract, interface, or library definition found"
  | .braces opening closing =>
    "Mismatched braces: " ++ toString opening ++ " opening, " ++ toString closing ++ " closing"
  | .parentheses opening closing =>
    "Mismatched parentheses: " ++ toString opening ++ " opening, " ++ toString closing ++ " closing"

/-- The words of which one introduces every declaration. -/
def declarationWords : List String :=
  ["contract ", "interface ", "library "]

/-- The numbers of two kinds of brackets, if they differ. -/
def imbalance (opening closing : Char) (source : List Char) : Option (Nat × Nat) :=
  if source.count opening == source.count closing then none
  else some (source.count opening, source.count closing)

/-- The flaws in the structure of a source. -/
def structureFlaws (source : String) : List StructureFlaw :=
  let text := source.toList
  (if contains source "pragma solidity" then [] else [.noPragma]) ++
    (if declarationWords.any (contains source) then [] else [.noDeclaration]) ++
    ((imbalance '{' '}' text).map fun found => .braces found.1 found.2).toList ++
    ((imbalance '(' ')' text).map fun found => .parentheses found.1 found.2).toList

end Soliscope.Solidity
