import Soliscope.Text.Blank
import Soliscope.Text.Word

/-! # Declared names

A declaration is one of the words `contract`, `interface` and `library`, blank space, and a name.
The words count wherever they stand, inside longer words and in comments, too.  Names are found
from left to right, and the search goes on after each declaration found.
-/

namespace Soliscope.Solidity

open Soliscope.Text

/-- The words that introduce a name. -/
def declarationKeywords : List (List Char) :=
  ["contract".toList, "interface".toList, "library".toList]

/-- The name after blank space at the front of a text, and the size of both. -/
def nameAfterBlanks? (text : List Char) : Option (List Char × Nat) :=
  let blanks := text.takeWhile isBlank
  if blanks.isEmpty then none
  else
    let name := (text.dropWhile isBlank).takeWhile isWord
    if name.isEmpty then none else some (name, blanks.length + name.length)

/-- The name of a declaration at the front of a text, and the size of the declaration. -/
def declaration? (text : List Char) : Option (List Char × Nat) :=
  declarationKeywords.findSome? fun keyword =>
    (keyword.isPrefixOf? text).bind fun rest =>
      (nameAfterBlanks? rest).map fun found => (found.1, keyword.length + found.2)

/-- The names declared in a text, where `skip` characters still belong to a declaration already
found. -/
def declaredNamesFrom (skip : Nat) : List Char → List (List Char)
  | [] => []
  | c :: rest =>
    match skip with
    | skip + 1 => declaredNamesFrom skip rest
    | 0 =>
      match declaration? (c :: rest) with
      | some (name, size) => name :: declaredNamesFrom (size - 1) rest
      | none => declaredNamesFrom 0 rest

/-- The names of all contracts, interfaces and libraries declared in a source, in order. -/
def declaredNames (source : String) : List String :=
  (declaredNamesFrom 0 source.toList).map String.ofList

end Soliscope.Solidity
