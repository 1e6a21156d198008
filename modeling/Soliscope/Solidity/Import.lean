import Soliscope.Text.Blank
import Soliscope.Text.Search

/-! # Imports

An import statement is the word `import`, blank space, a path in quotes of either kind and a
semicolon.  Flattening a source puts the code of imported files into it: the statement goes, and the
code comes right after the first semicolon of the text, which normally ends the pragma.  Imports
whose code is not given stay as they are.
-/

namespace Soliscope.Solidity

open Soliscope.Text

/-- An import statement: its whole text and its path. -/
structure Import where
  statement : List Char
  path : List Char
  deriving DecidableEq, Repr

/-- A quotation mark of a path. -/
def isQuote (c : Char) : Bool :=
  c == '"' || c == '\''

/-- The word that begins an import statement. -/
def importKeyword : List Char := "import".toList

/-- The import statement at the front of a text. -/
def importAt? (text : List Char) : Option Import :=
  match importKeyword.isPrefixOf? text with
  | none => none
  | some afterWord =>
    let blanks := afterWord.takeWhile isBlank
    match afterWord.dropWhile isBlank with
    | opening :: afterQuote =>
      let path := afterQuote.takeWhile (!isQuote ·)
      match afterQuote.dropWhile (!isQuote ·) with
      | closing :: ';' :: _ =>
        if blanks.isEmpty || !isQuote opening || path.isEmpty then none
        else some ⟨importKeyword ++ blanks ++ opening :: path ++ [closing, ';'], path⟩
      | _ => none
    | [] => none

/-- The import statements of a text, where `skip` characters still belong to a statement already
found. -/
def importsFrom (skip : Nat) : List Char → List Import
  | [] => []
  | c :: rest =>
    match skip with
    | skip + 1 => importsFrom skip rest
    | 0 =>
      match importAt? (c :: rest) with
      | some found => found :: importsFrom (found.statement.length - 1) rest
      | none => importsFrom 0 rest

/-- The import statements of a source, in order. -/
def imports (source : List Char) : List Import :=
  importsFrom 0 source

/-- The code given for an import; empty code counts as none. -/
def Import.code? (files : List (String × String)) (statement : Import) : Option (List Char) :=
  (files.lookup (String.ofList statement.path)).bind fun code =>
    if code.isEmpty then none else some code.toList

/-- The text up to the first semicolon, and the text after it.  Without a semicolon the first part
is empty. -/
def splitAtTerminator (text : List Char) : List Char × List Char :=
  match text.dropWhile (· != ';') with
  | [] => ([], text)
  | terminator :: rest => (text.takeWhile (· != ';') ++ [terminator], rest)

/-- Put code after the first semicolon. -/
def insertCode (code text : List Char) : List Char :=
  let (before, after) := splitAtTerminator text
  before ++ ('\n' :: '\n' :: (code ++ ('\n' :: after)))

/-- Put the code of an import in the place of its statement. -/
def inlineImport (files : List (String × String)) (text : List Char) (statement : Import) :
    List Char :=
  match statement.code? files with
  | none => text
  | some code => insertCode code (replaceFirst statement.statement [] text)

/-- The source with the code of its imports put in. -/
def flatten (source : String) (files : List (String × String)) : String :=
  String.ofList ((imports source.toList).foldl (inlineImport files) source.toList)

end Soliscope.Solidity
