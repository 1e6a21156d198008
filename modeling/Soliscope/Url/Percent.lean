import Soliscope.Text.Utf8

/-! # Percent escapes

In an address a character may be written by its UTF-8 bytes, each as `%` and two hexadecimal digits.
Letters, digits and `-._~` always stand for themselves; which others do depends on the place.
-/

namespace Soliscope.Url

open Soliscope.Text

/-- A character that stands for itself everywhere. -/
def isUnreserved (c : Char) : Bool :=
  c.isAlphanum || c == '-' || c == '.' || c == '_' || c == '~'

/-- A hexadecimal digit in upper case. -/
def hexDigit (value : Nat) : Char :=
  if value < 10 then Char.ofNat ('0'.toNat + value) else Char.ofNat ('A'.toNat + (value - 10))

/-- A byte as `%` and two digits. -/
def escapeByte (byte : UInt8) : List Char :=
  ['%', hexDigit (byte.toNat / 16), hexDigit (byte.toNat % 16)]

/-- A character by its bytes. -/
def escapeChar (c : Char) : List Char :=
  (utf8Char c).flatMap escapeByte

/-- The text in a place where some characters stand for themselves. -/
def escape (safe : Char → Bool) (text : List Char) : List Char :=
  text.flatMap fun c => if isUnreserved c || safe c then [c] else escapeChar c

/-- The value of a hexadecimal digit. -/
def hexValue? (c : Char) : Option Nat :=
  if '0' ≤ c && c ≤ '9' then some (c.toNat - '0'.toNat)
  else if 'a' ≤ c && c ≤ 'f' then some (c.toNat - 'a'.toNat + 10)
  else if 'A' ≤ c && c ≤ 'F' then some (c.toNat - 'A'.toNat + 10)
  else none

/-- The bytes at the front of a written text, and how many characters they take: an escaped byte, or
a character as it is. -/
def bytesAt (c : Char) (rest : List Char) : List UInt8 × Nat :=
  match c, rest with
  | '%', high :: low :: _ =>
    match hexValue? high, hexValue? low with
    | some high, some low => ([UInt8.ofNat (high * 16 + low)], 3)
    | _, _ => (utf8Char c, 1)
  | _, _ => (utf8Char c, 1)

/-- The bytes of a written text after those already read, the last one first, where `skip`
characters still belong to the ones read last. -/
def unescapeBytes (read : List UInt8) (skip : Nat) : List Char → List UInt8
  | [] => read.reverse
  | c :: rest =>
    match skip with
    | skip + 1 => unescapeBytes read skip rest
    | 0 =>
      let (bytes, size) := bytesAt c rest
      unescapeBytes (bytes.reverse ++ read) (size - 1) rest

/-- The text that a written text stands for.  Bytes that are no UTF-8 are replaced. -/
def unescape (written : List Char) : List Char :=
  Utf8.decodeLossy (unescapeBytes [] 0 written)

end Soliscope.Url
