import Soliscope.Url.Percent

/-! # Forms

A form is an ordered list of names and values.  In writing, `&` stands between the entries and `=`
between a name and its value; a plus sign stands for a space, and every other character that does
not stand for itself everywhere is escaped.  `parse` reads a form back; it is the reader for
queries, too, and takes anything.
-/

namespace Soliscope.Url.Form

/-- A character in writing. -/
def encodeChar (c : Char) : List Char :=
  if isUnreserved c then [c] else if c == ' ' then ['+'] else escapeChar c

/-- A text in writing. -/
def encode (text : String) : List Char :=
  text.toList.flatMap encodeChar

/-- An entry in writing. -/
def encodeEntry (entry : String × String) : List Char :=
  encode entry.1 ++ '=' :: encode entry.2

/-- A form in writing. -/
def render (entries : List (String × String)) : List Char :=
  ['&'].intercalate (entries.map encodeEntry)

/-- The text of a written text. -/
def decode (written : List Char) : String :=
  String.ofList (unescape (written.map fun c => if c == '+' then ' ' else c))

/-- An entry of a written form.  Without an equals sign the value is empty. -/
def parseEntry (written : List Char) : String × String :=
  (decode (written.takeWhile (· != '=')), decode ((written.dropWhile (· != '=')).drop 1))

/-- The entries of a written form.  Empty entries do not count. -/
def parse (written : List Char) : List (String × String) :=
  ((written.splitOn '&').filter (!·.isEmpty)).map parseEntry

end Soliscope.Url.Form
