import Soliscope.Json.Basic
import Soliscope.Number.Binary64
import Soliscope.Text.Encoding

/-! # Reading JSON

The reader takes one value with blank space around it.  Beyond the standard it accepts `NaN`,
`Infinity` and `-Infinity`.  A text that is not JSON is refused with the place of the first
problem, counted in characters.  Only so many arrays and objects may be open at once.

The functions here work on what is left of the text and report a problem by the text left at its
place; `Json.read` turns that into a position.
-/

namespace Soliscope.Json

open Soliscope.Text Soliscope.Number

/-- What is wrong with a text that is not JSON. -/
inductive Problem where
  | expectedValue
  | expectedName
  | expectedColon
  | expectedComma
  | unterminatedString
  | controlCharacter
  | badEscape
  | badUnicodeEscape
  | trailingText
  | byteOrderMark
  deriving DecidableEq, Repr

/-- The two kinds of values that hold other values. -/
inductive Container where
  | array
  | object
  deriving DecidableEq, Repr

/-- The name of a kind of values that hold other values. -/
def Container.name : Container → String
  | .array => "array"
  | .object => "object"

/-- Why reading stopped: a problem and the text left at its place, an integer with more digits than
are taken, or a container inside too many others. -/
inductive Fault where
  | problem (kind : Problem) (left : List Char)
  | longInteger (digits : Nat)
  | tooDeep (container : Container)

/-- What a reading function gives: a value and the text after it. -/
abbrev Reading (α : Type) := Except Fault (α × List Char)

/-- How many containers may be open at once. -/
def nestingLimit : Nat := 975

/-- The blank space that may stand between the parts of a text. -/
def isSpace (c : Char) : Bool :=
  c == ' ' || c == '\t' || c == '\n' || c == '\r'

/-- Skip blank space. -/
def skipSpace (text : List Char) : List Char :=
  text.dropWhile isSpace

/-- The value of a hexadecimal digit. -/
def hexDigit? (c : Char) : Option Nat :=
  if '0' ≤ c && c ≤ '9' then some (c.toNat - '0'.toNat)
  else if 'a' ≤ c && c ≤ 'f' then some (c.toNat - 'a'.toNat + 10)
  else if 'A' ≤ c && c ≤ 'F' then some (c.toNat - 'A'.toNat + 10)
  else none

/-- The value of four hexadecimal digits. -/
def hexUnit? (a b c d : Char) : Option Nat := do
  let a ← hexDigit? a
  let b ← hexDigit? b
  let c ← hexDigit? c
  let d ← hexDigit? d
  pure (((a * 16 + b) * 16 + c) * 16 + d)

/-- The character that stands for itself after a backslash or is named by a letter. -/
def shortEscape? : Char → Option Char
  | '"' => some '"'
  | '\\' => some '\\'
  | '/' => some '/'
  | 'b' => some '\x08'
  | 'f' => some '\x0c'
  | 'n' => some '\n'
  | 'r' => some '\r'
  | 't' => some '\t'
  | _ => none

/-- What the front of the text inside a string holds. -/
inductive StringStep where
  /-- A character written with `size` characters. -/
  | char (value : Char) (size : Nat)
  | close
  | unterminated
  | fault (kind : Problem) (left : List Char)

/-- The escape of a code unit, after its `u`.  Text has to follow the digits.  An escaped surrogate
pair is one character; half a pair reads as the replacement character. -/
def unicodeEscape (text : List Char) : StringStep :=
  match text with
  | a :: b :: c :: d :: next :: after =>
    match hexUnit? a b c d with
    | none => .fault .badUnicodeEscape ('u' :: text)
    | some unit =>
      match isHighSurrogate unit, next, after with
      | true, '\\', 'u' :: e :: f :: g :: h :: last :: more =>
        match hexUnit? e f g h with
        | none => .fault .badUnicodeEscape ('u' :: e :: f :: g :: h :: last :: more)
        | some low =>
          if isLowSurrogate low then .char (joinSurrogates unit low) 12
          else .char replacementChar 6
      | _, _, _ => .char (unitChar unit) 6
  | _ => .fault .badUnicodeEscape ('u' :: text)

/-- The code unit in four hexadecimal digits at the front of a text. -/
def leadingUnit? : List Char → Option Nat
  | a :: b :: c :: d :: _ => hexUnit? a b c d
  | _ => none

/-- How many characters of an escape, after its backslash, belong to a whole character: all of a
pair, or else the first.  Nothing if it is the escape of half a pair. -/
def wholeEscape? : List Char → Option Nat
  | 'u' :: text =>
    match leadingUnit? text, text.drop 4 with
    | some unit, '\\' :: 'u' :: next =>
      if isHighSurrogate unit then
        if (leadingUnit? next).any isLowSurrogate then some 11 else none
      else if isLowSurrogate unit then none
      else some 1
    | some unit, _ => if isHighSurrogate unit || isLowSurrogate unit then none else some 1
    | none, _ => some 1
  | _ => some 1

/-- A text escapes half a surrogate pair, which is no character.  The front of the text belongs to
what was looked at last. -/
def escapesHalf (skip : Nat) : List Char → Bool
  | [] => false
  | first :: rest =>
    match skip with
    | skip + 1 => escapesHalf skip rest
    | 0 =>
      if first == '\\' then
        match wholeEscape? rest with
        | some size => escapesHalf size rest
        | none => true
      else escapesHalf 0 rest

/-- Look at the front of the text inside a string. -/
def stringStep (first : Char) (rest : List Char) : StringStep :=
  if first == '"' then .close
  else if first == '\\' then
    match rest with
    | [] => .unterminated
    | 'u' :: after => unicodeEscape after
    | named :: _ =>
      match shortEscape? named with
      | some value => .char value 2
      | none => .fault .badEscape (first :: rest)
  else if first.toNat < 0x20 then .fault .controlCharacter (first :: rest)
  else .char first 1

/-- Read the characters of a string up to its closing quote.  `start` is the text left at the
opening quote, `read` holds the characters so far, the last one first, and `skip` characters belong
to the one read last. -/
def readChars (start read : List Char) (skip : Nat) : List Char → Reading String
  | [] => .error (.problem .unterminatedString start)
  | first :: rest =>
    match skip with
    | skip + 1 => readChars start read skip rest
    | 0 =>
      match stringStep first rest with
      | .char value size => readChars start (value :: read) (size - 1) rest
      | .close => .ok (String.ofList read.reverse, rest)
      | .unterminated => .error (.problem .unterminatedString start)
      | .fault kind left => .error (.problem kind left)

/-- A number as it is written. -/
structure Numeral where
  negative : Bool
  whole : List Char
  fraction : List Char
  /-- The sign and digits of the exponent. -/
  exponent : Option (Bool × List Char)

/-- The digits at the front of a text, and what follows them. -/
def digitRun (text : List Char) : List Char × List Char :=
  (text.takeWhile Char.isDigit, text.dropWhile Char.isDigit)

/-- The whole part of a number: a lone zero, or digits that do not start with zero. -/
def wholePart? : List Char → Option (List Char × List Char)
  | '0' :: rest => some (['0'], rest)
  | c :: rest => if c.isDigit then some (digitRun (c :: rest)) else none
  | [] => none

/-- The fraction, if a point with digits after it comes next. -/
def fractionPart (text : List Char) : List Char × List Char :=
  match text with
  | '.' :: rest =>
    match digitRun rest with
    | ([], _) => ([], text)
    | run => run
  | _ => ([], text)

/-- The sign of an exponent, and what follows it. -/
def exponentSign : List Char → Bool × List Char
  | '-' :: rest => (true, rest)
  | '+' :: rest => (false, rest)
  | rest => (false, rest)

/-- The exponent, if its mark with digits after it comes next. -/
def exponentPart (text : List Char) : Option (Bool × List Char) × List Char :=
  match text with
  | c :: rest =>
    if c == 'e' || c == 'E' then
      let (negative, digits) := exponentSign rest
      match digitRun digits with
      | ([], _) => (none, text)
      | (run, after) => (some (negative, run), after)
    else (none, text)
  | [] => (none, text)

/-- Read a number as far as it goes. -/
def numeral? (text : List Char) : Option (Numeral × List Char) :=
  let (negative, unsigned) := match text with
    | '-' :: rest => (true, rest)
    | _ => (false, text)
  match wholePart? unsigned with
  | none => none
  | some (whole, rest) =>
    let (fraction, rest) := fractionPart rest
    let (exponent, rest) := exponentPart rest
    some (⟨negative, whole, fraction, exponent⟩, rest)

/-- The value of decimal digits. -/
def digitsValue (digits : List Char) : Nat :=
  Nat.ofDigitChars 10 digits 0

/-- The value of a number: an integer if it has neither fraction nor exponent. -/
def Numeral.value (numeral : Numeral) : Except Fault Json :=
  if numeral.fraction.isEmpty && numeral.exponent.isNone then
    if integerDigitLimit < numeral.whole.length then .error (.longInteger numeral.whole.length)
    else
      let magnitude : Int := (digitsValue numeral.whole : Nat)
      .ok (.int (if numeral.negative then -magnitude else magnitude))
  else
    let shift : Int := match numeral.exponent with
      | some (true, digits) => -(digitsValue digits : Nat)
      | some (false, digits) => (digitsValue digits : Nat)
      | none => 0
    .ok (.float (nearest numeral.negative (digitsValue (numeral.whole ++ numeral.fraction))
      (shift - numeral.fraction.length)))

/-- The values that are written as a word. -/
def literals : List (List Char × Json) :=
  [("null".toList, .null), ("true".toList, .bool true), ("false".toList, .bool false),
    ("NaN".toList, .float undefinedFloat), ("Infinity".toList, .float (infinity false)),
    ("-Infinity".toList, .float (infinity true))]

/-- Read a word that is a value. -/
def literal? (text : List Char) : Option (Json × List Char) :=
  literals.findSome? fun entry => (entry.1.isPrefixOf? text).map fun rest => (entry.2, rest)

mutual

/-- Read a value in at most so many steps, where `room` further containers may be opened.  Every
character takes at most two steps. -/
def readValue : Nat → Nat → List Char → Reading Json
  | 0, _, text => .error (.problem .expectedValue text)
  | _ + 1, _, '"' :: rest =>
    match readChars ('"' :: rest) [] 0 rest with
    | .ok (value, rest) => .ok (.str value, rest)
    | .error fault => .error fault
  | _ + 1, 0, '{' :: _ => .error (.tooDeep .object)
  | steps + 1, room + 1, '{' :: rest =>
    match skipSpace rest with
    | '}' :: rest => .ok (.obj [], rest)
    | rest =>
      match readMembers steps room rest with
      | .ok (members, rest) => .ok (.obj (fieldsOf members), rest)
      | .error fault => .error fault
  | _ + 1, 0, '[' :: _ => .error (.tooDeep .array)
  | steps + 1, room + 1, '[' :: rest =>
    match skipSpace rest with
    | ']' :: rest => .ok (.arr [], rest)
    | rest =>
      match readItems steps room rest with
      | .ok (items, rest) => .ok (.arr items, rest)
      | .error fault => .error fault
  | _ + 1, _, text =>
    match literal? text with
    | some found => .ok found
    | none =>
      match numeral? text with
      | some (numeral, rest) =>
        match numeral.value with
        | .ok value => .ok (value, rest)
        | .error fault => .error fault
      | none => .error (.problem .expectedValue text)

/-- Read the items of an array that is not empty, and its closing bracket. -/
def readItems : Nat → Nat → List Char → Reading (List Json)
  | 0, _, text => .error (.problem .expectedValue text)
  | steps + 1, room, text =>
    match readValue steps room text with
    | .error fault => .error fault
    | .ok (value, rest) =>
      match skipSpace rest with
      | ']' :: rest => .ok ([value], rest)
      | ',' :: rest =>
        match readItems steps room (skipSpace rest) with
        | .ok (values, rest) => .ok (value :: values, rest)
        | .error fault => .error fault
      | rest => .error (.problem .expectedComma rest)

/-- Read the members of an object that is not empty, and its closing brace. -/
def readMembers : Nat → Nat → List Char → Reading (List (String × Json))
  | steps + 1, room, '"' :: rest =>
    match readChars ('"' :: rest) [] 0 rest with
    | .error fault => .error fault
    | .ok (name, rest) =>
      match skipSpace rest with
      | ':' :: rest =>
        match readValue steps room (skipSpace rest) with
        | .error fault => .error fault
        | .ok (value, rest) =>
          match skipSpace rest with
          | '}' :: rest => .ok ([(name, value)], rest)
          | ',' :: rest =>
            match readMembers steps room (skipSpace rest) with
            | .ok (members, rest) => .ok ((name, value) :: members, rest)
            | .error fault => .error fault
          | rest => .error (.problem .expectedComma rest)
      | rest => .error (.problem .expectedColon rest)
  | _, _, text => .error (.problem .expectedName text)

end

/-- Read one value and nothing after it. -/
def readWhole (text : List Char) : Except Fault Json :=
  match readValue (2 * text.length + 2) nestingLimit (skipSpace text) with
  | .error fault => .error fault
  | .ok (value, rest) =>
    match skipSpace rest with
    | [] => .ok value
    | rest => .error (.problem .trailingText rest)

/-- Read one value, without a byte order mark before it. -/
def readText (text : List Char) : Except Fault Json :=
  match text with
  | '\uFEFF' :: _ => .error (.problem .byteOrderMark text)
  | _ => readWhole text

/-- Why a text is not read. -/
inductive ReadError where
  /-- A problem at a position, with the line and column of it. -/
  | malformed (problem : Problem) (position line column : Nat)
  | longInteger (digits : Nat)
  | tooDeep (container : Container)
  deriving DecidableEq, Repr

/-- The words for a problem. -/
def Problem.message : Problem → String
  | .expectedValue => "Expecting value"
  | .expectedName => "Expecting property name enclosed in double quotes"
  | .expectedColon => "Expecting ':' delimiter"
  | .expectedComma => "Expecting ',' delimiter"
  | .unterminatedString => "Unterminated string starting at"
  | .controlCharacter => "Invalid control character at"
  | .badEscape => "Invalid \\escape"
  | .badUnicodeEscape => "Invalid \\uXXXX escape"
  | .trailingText => "Extra data"
  | .byteOrderMark => "Unexpected UTF-8 BOM (decode using utf-8-sig)"

/-- The text of a read error. -/
def ReadError.message : ReadError → String
  | .malformed problem position line column =>
    problem.message ++ ": line " ++ toString line ++ " column " ++ toString column ++ " (char " ++
      toString position ++ ")"
  | .longInteger digits =>
    "Exceeds the limit (" ++ toString integerDigitLimit ++
      " digits) for integer string conversion: value has " ++ toString digits ++
      " digits; use sys.set_int_max_str_digits() to increase the limit"
  | .tooDeep container =>
    "maximum recursion depth exceeded while decoding a JSON " ++ container.name ++
      " from a unicode string"

/-- The place of a fault in the text: lines and columns count from one. -/
def Fault.located (text : List Char) : Fault → ReadError
  | .longInteger digits => .longInteger digits
  | .tooDeep container => .tooDeep container
  | .problem kind left =>
    let position := text.length - left.length
    let before := text.take position
    .malformed kind position (before.count '\n' + 1)
      ((before.reverse.takeWhile (· != '\n')).length + 1)

/-- Read a text as JSON. -/
def read (text : String) : Except ReadError Json :=
  (readText text.toList).mapError (Fault.located text.toList)

/-- Why a document in bytes is not read. -/
inductive DocumentError where
  | undecodable (error : DecodeError)
  | unreadable (error : ReadError)
  deriving DecidableEq, Repr

/-- The text of a document error. -/
def DocumentError.message : DocumentError → String
  | .undecodable error => error.message
  | .unreadable error => error.message

/-- Read a document in bytes as JSON.  The byte order mark belongs to the encoding; a second one is
like any other character. -/
def readDocument (bytes : List UInt8) : Except DocumentError Json :=
  match decodeDocument bytes with
  | .error error => .error (.undecodable error)
  | .ok text =>
    match readWhole text with
    | .error fault => .error (.unreadable (fault.located text))
    | .ok value => .ok value

end Soliscope.Json
