import Soliscope.Json.Basic
import Soliscope.Number.Written
import Soliscope.Text.Quoted

/-! # Writing JSON

A document is written in ASCII on one line: items are separated by a comma and a space, a name and
its value by a colon and a space.  Every character that is not printable ASCII is escaped by its
UTF-16 code units, so no text can reach outside the quotes that it is written between.
-/

namespace Soliscope.Json

open Soliscope.Text Soliscope.Number

/-- The escape of a UTF-16 code unit. -/
def escapeUnit (unit : Nat) : List Char :=
  '\\' :: 'u' :: hexDigits 4 unit

/-- The two UTF-16 code units of a character beyond the basic plane. -/
def surrogates (codePoint : Nat) : Nat × Nat :=
  (0xD800 + (codePoint - 0x10000) / 1024, 0xDC00 + (codePoint - 0x10000) % 1024)

/-- One character inside a string. -/
def writeChar (c : Char) : List Char :=
  if c == '"' then ['\\', '"']
  else if c == '\\' then ['\\', '\\']
  else if c == '\n' then ['\\', 'n']
  else if c == '\r' then ['\\', 'r']
  else if c == '\t' then ['\\', 't']
  else if c == '\x08' then ['\\', 'b']
  else if c == '\x0c' then ['\\', 'f']
  else if 0x20 ≤ c.toNat && c.toNat < 0x7F then [c]
  else if c.toNat < 0x10000 then escapeUnit c.toNat
  else escapeUnit (surrogates c.toNat).1 ++ escapeUnit (surrogates c.toNat).2

/-- A string with its quotes. -/
def writeString (text : String) : List Char :=
  '"' :: (text.toList.flatMap writeChar ++ ['"'])

/-- A double.  What is no finite number is written as a word. -/
def writeFloat (value : Float) : List Char :=
  match Double.ofFloat value with
  | .undefined => "NaN".toList
  | .infinite negative => (if negative then "-Infinity" else "Infinity").toList
  | .finite _ => (valueText value).toList

mutual

/-- The text of a value. -/
def write : Json → List Char
  | .null => "null".toList
  | .bool true => "true".toList
  | .bool false => "false".toList
  | .int value => (toString value).toList
  | .float value => writeFloat value
  | .str value => writeString value
  | .arr items => '[' :: writeItems items
  | .obj fields => '{' :: writeFields fields

/-- The items of an array, and its closing bracket. -/
def writeItems : List Json → List Char
  | [] => [']']
  | [item] => write item ++ [']']
  | item :: items => write item ++ (',' :: ' ' :: writeItems items)

/-- The fields of an object, and its closing brace. -/
def writeFields : List (String × Json) → List Char
  | [] => ['}']
  | [(name, value)] => writeString name ++ (':' :: ' ' :: (write value ++ ['}']))
  | (name, value) :: fields =>
    writeString name ++ (':' :: ' ' :: (write value ++ (',' :: ' ' :: writeFields fields)))

end

/-- The text of a document. -/
def render (value : Json) : String :=
  String.ofList (write value)

end Soliscope.Json
