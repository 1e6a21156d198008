import Soliscope.Text.Blank

/-! # Redaction

Addresses of requests carry the caller's key, and error messages quote addresses.  Before a message
is shown, the run of characters after every `apikey=` is masked.  The run ends where a query value
or a quoted address must end: at `&`, a quotation mark or blank space.
-/

namespace Soliscope.Explorer

open Soliscope.Text

/-- The text before a key. -/
def keyMark : List Char := "apikey=".toList

/-- The text in the place of a key. -/
def keyMask : List Char := "[REDACTED]".toList

/-- A character that ends a key. -/
def endsKey (c : Char) : Bool :=
  c == '&' || c == '\'' || c == '"' || isBlank c

/-- The size of the key at the front of a text, with its mark; a key is not empty. -/
def keyAt? (text : List Char) : Option Nat :=
  (keyMark.isPrefixOf? text).bind fun rest =>
    let size := (rest.takeWhile (!endsKey ·)).length
    if size == 0 then none else some (keyMark.length + size)

/-- The text after what is already redacted, the last character first, where `skip` characters
still belong to a key. -/
def redactFrom (redacted : List Char) (skip : Nat) : List Char → List Char
  | [] => redacted.reverse
  | c :: rest =>
    match skip with
    | skip + 1 => redactFrom redacted skip rest
    | 0 =>
      match keyAt? (c :: rest) with
      | some size => redactFrom (keyMask.reverse ++ (keyMark.reverse ++ redacted)) (size - 1) rest
      | none => redactFrom (c :: redacted) 0 rest

/-- The text with all keys masked. -/
def redact (text : String) : String :=
  String.ofList (redactFrom [] 0 text.toList)

end Soliscope.Explorer
