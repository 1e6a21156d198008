import Soliscope.Text.Printable

/-! # Quoted text

A text shown as a value stands between quotes, with everything that is not printable escaped.
Single quotes are used unless the text holds a single quote and no double quote.
-/

namespace Soliscope.Text

/-- Hexadecimal digits in lower case, filled up with zeros on the left. -/
def hexDigits (width value : Nat) : List Char :=
  let digits := Nat.toDigits 16 value
  List.replicate (width - digits.length) '0' ++ digits

/-- The escape of a code point: the shortest form that holds it. -/
def escapePoint (point : Nat) : List Char :=
  if point < 0x100 then ['\\', 'x'] ++ hexDigits 2 point
  else if point < 0x10000 then ['\\', 'u'] ++ hexDigits 4 point
  else ['\\', 'U'] ++ hexDigits 8 point

/-- One character of a quoted text. -/
def quoteChar (mark c : Char) : List Char :=
  if c == mark || c == '\\' then ['\\', c]
  else if c == '\n' then ['\\', 'n']
  else if c == '\r' then ['\\', 'r']
  else if c == '\t' then ['\\', 't']
  else if isPrintable c then [c]
  else escapePoint c.toNat

/-- The quotation mark that a text is put in. -/
def quotationMark (text : List Char) : Char :=
  if text.contains '\'' && !text.contains '"' then '"' else '\''

/-- The text as a quoted value. -/
def quoted (text : String) : String :=
  let mark := quotationMark text.toList
  String.ofList (mark :: (text.toList.flatMap (quoteChar mark) ++ [mark]))

/-- One code point of quoted text.  Those that are no characters are escaped. -/
def quotePoint (mark : Char) (point : Nat) : List Char :=
  if point.isValidChar then quoteChar mark (Char.ofNat point) else escapePoint point

/-- Code points as a quoted value. -/
def quotedPoints (points : List Nat) : String :=
  let mark := quotationMark (points.map Char.ofNat)
  String.ofList (mark :: (points.flatMap (quotePoint mark) ++ [mark]))

end Soliscope.Text
