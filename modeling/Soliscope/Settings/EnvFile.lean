import Soliscope.Text.Blank
import Soliscope.Text.Search

/-! # Environment files

An environment file sets names to values, one on each line: `NAME=value`.  There may be `export` in
front, blank space around the equals sign, and a comment at the end.  A value in quotes keeps its
blank space and may go over several lines.  A name by itself has no value.  A line that is none of
this is left out.  Last, `${NAME}` in a value stands for an earlier value or one of the environment.
A byte order mark at the start of the file does not count.
-/

namespace Soliscope.EnvFile

open Soliscope.Text

/-- A name and its value, if it has one. -/
abbrev Binding := String × Option String

/-- A character that ends a line. -/
def endsLine (c : Char) : Bool :=
  c == '\n' || c == '\r'

/-- Blank space within a line. -/
def isInnerBlank (c : Char) : Bool :=
  isBlank c && !endsLine c

/-- Every line ending as a newline. -/
def unifyLines : List Char → List Char
  | [] => []
  | '\r' :: '\n' :: rest => '\n' :: unifyLines rest
  | '\r' :: rest => '\n' :: unifyLines rest
  | c :: rest => c :: unifyLines rest

/-- The text after a leading `export`. -/
def skipExport (text : List Char) : List Char :=
  match "export".toList.isPrefixOf? text with
  | some rest =>
    if (rest.takeWhile isInnerBlank).isEmpty then text else rest.dropWhile isInnerBlank
  | none => text

/-- Where reading goes on, with or without something read.  After a mistake it goes on with the
rest of the line. -/
inductive Step (α : Type) where
  | read (value : α) (rest : List Char)
  | mistake (rest : List Char)

/-- Read a name: in single quotes, or up to blank space, an equals sign or a comment.  A comment
line has no name. -/
def readName (text : List Char) : Step (Option (List Char)) :=
  match text with
  | '#' :: _ => .read none text
  | '\'' :: rest =>
    let name := rest.takeWhile (· != '\'')
    match rest.dropWhile (· != '\'') with
    | _ :: after => if name.isEmpty then .mistake text else .read (some name) after
    | [] => .mistake text
  | _ =>
    let inName (c : Char) : Bool := c != '=' && c != '#' && !isBlank c
    let name := text.takeWhile inName
    if name.isEmpty then .mistake text else .read (some name) (text.dropWhile inName)

/-- The size of the text inside quotes, which ends at the first quote that is not after a backslash.
A backslash and the character after it belong together.  `size` characters are behind. -/
def quotedSize? (mark : Char) (size : Nat) : List Char → Option Nat
  | [] => none
  | '\\' :: _ :: rest => quotedSize? mark (size + 2) rest
  | c :: rest => if c == mark then some size else quotedSize? mark (size + 1) rest

/-- The characters that a letter stands for after a backslash in double quotes. -/
def doubleQuoteEscapes : List (Char × Char) :=
  [('\\', '\\'), ('\'', '\''), ('"', '"'), ('a', '\x07'), ('b', '\x08'), ('f', '\x0c'),
    ('n', '\n'), ('r', '\r'), ('t', '\t'), ('v', '\x0b')]

/-- The characters that may be escaped in single quotes. -/
def singleQuoteEscapes : List (Char × Char) :=
  [('\\', '\\'), ('\'', '\'')]

/-- The text with its escapes put for what they stand for; other backslashes stay. -/
def unescape (escapes : List (Char × Char)) : List Char → List Char
  | '\\' :: c :: rest =>
    match escapes.lookup c with
    | some value => value :: unescape escapes rest
    | none => '\\' :: unescape escapes (c :: rest)
  | c :: rest => c :: unescape escapes rest
  | [] => []
  termination_by text => text.length

/-- Read a value in quotes, after the opening one. -/
def readQuoted (mark : Char) (escapes : List (Char × Char)) (text : List Char) :
    Step (List Char) :=
  match quotedSize? mark 0 text with
  | some size => .read (unescape escapes (text.take size)) (text.drop (size + 1))
  | none => .mistake (mark :: text)

/-- The value without a comment, which starts at the first `#` after blank space. -/
def withoutComment (afterBlank : Bool) : List Char → List Char
  | [] => []
  | c :: rest => if afterBlank && c == '#' then [] else c :: withoutComment (isBlank c) rest

/-- The text without blank space at its end. -/
def trimEnd (text : List Char) : List Char :=
  (text.reverse.dropWhile isBlank).reverse

/-- Read a value, which stands after blank space or not. -/
def readValue (afterBlank : Bool) (text : List Char) : Step (List Char) :=
  match text with
  | '\'' :: rest => readQuoted '\'' singleQuoteEscapes rest
  | '"' :: rest => readQuoted '"' doubleQuoteEscapes rest
  | _ =>
    let line := text.takeWhile (!endsLine ·)
    .read (trimEnd (withoutComment afterBlank line)) (text.dropWhile (!endsLine ·))

/-- The text after a comment. -/
def skipComment (text : List Char) : List Char :=
  match text.dropWhile isInnerBlank with
  | '#' :: rest => rest.dropWhile (!endsLine ·)
  | _ => text

/-- The text after the end of the line, which has to come next. -/
def endOfLine (text : List Char) : Step Unit :=
  match text.dropWhile isInnerBlank with
  | [] => .read () []
  | c :: rest => if endsLine c then .read () rest else .mistake text

/-- The text after the rest of a line. -/
def skipLine (text : List Char) : List Char :=
  (text.dropWhile (!endsLine ·)).drop 1

/-- Read what follows a name: an equals sign and a value, or nothing. -/
def readAssignment (text : List Char) : Step (Option (List Char)) :=
  match text.dropWhile isInnerBlank with
  | '=' :: rest =>
    let value := rest.dropWhile isInnerBlank
    match readValue (value.length < rest.length) value with
    | .read value rest => .read (some value) rest
    | .mistake rest => .mistake rest
  | rest => .read none rest

/-- A name and its value, as read. -/
abbrev RawBinding := List Char × Option (List Char)

/-- Read one binding, a comment or a line with a mistake. -/
def readBinding (text : List Char) : Option RawBinding × List Char :=
  match readName (skipExport text) with
  | .mistake rest => (none, skipLine rest)
  | .read name rest =>
    match readAssignment rest with
    | .mistake rest => (none, skipLine rest)
    | .read value rest =>
      match endOfLine (skipComment rest) with
      | .mistake rest => (none, skipLine rest)
      | .read _ rest => (name.map fun name => (name, value), rest)

/-- Read the bindings of a text in at most `steps` steps. -/
def readBindings : Nat → List Char → List RawBinding
  | 0, _ => []
  | steps + 1, text =>
    match text.dropWhile isBlank with
    | [] => []
    | text =>
      let (binding, rest) := readBinding text
      binding.toList ++ readBindings steps rest

/-- The values known so far, the environment first. -/
abbrev Known := List (String × Option String)

/-- The value that a reference stands for: the value of its name, or its default. -/
def resolve (known : Known) (reference : List Char) : List Char :=
  let name := reference.takeWhile (· != ':')
  let default := match reference.dropWhile (· != ':') with
    | ':' :: '-' :: value => value
    | _ => []
  match known.lookup (String.ofList name) with
  | some value => (value.getD "").toList
  | none => default

/-- A reference has a name and no more than a default. -/
def isReference (reference : List Char) : Bool :=
  match reference.dropWhile (· != ':') with
  | [] => true
  | ':' :: '-' :: _ => true
  | _ => false

/-- The value with its references put for what they stand for, where `skip` characters still belong
to a reference. -/
def expand (known : Known) (skip : Nat) : List Char → List Char
  | [] => []
  | c :: rest =>
    match skip with
    | skip + 1 => expand known skip rest
    | 0 =>
      match c, rest with
      | '$', '{' :: after =>
        let reference := after.takeWhile (· != '}')
        if reference.length < after.length && isReference reference then
          resolve known reference ++ expand known (reference.length + 2) rest
        else c :: expand known 0 rest
      | _, _ => c :: expand known 0 rest

/-- The bindings with their references put for what they stand for.  Of values under one name the
one set last counts. -/
def expandAll (known : Known) : List RawBinding → List Binding
  | [] => []
  | (name, value) :: rest =>
    let name := String.ofList name
    let value := value.map fun value => String.ofList (expand known 0 value)
    (name, value) :: expandAll ((name, value) :: known) rest

/-- The text without a byte order mark at its start. -/
def withoutMark : List Char → List Char
  | '\uFEFF' :: rest => rest
  | text => text

/-- The bindings of an environment file. -/
def parse (environment : List (String × String)) (file : String) : List Binding :=
  let text := unifyLines (withoutMark file.toList)
  expandAll (environment.map fun entry => (entry.1, some entry.2))
    (readBindings (text.length + 1) text)

end Soliscope.EnvFile
