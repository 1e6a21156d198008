import Soliscope.Text.Utf8
import Soliscope.Text.Quoted

/-! # Encodings of a text document

A document arrives as bytes in UTF-8, UTF-16 or UTF-32.  A byte order mark tells which; without one
the zero bytes among the first four do, since a document starts with an ASCII character.
-/

namespace Soliscope.Text

/-- The order of the bytes of a code unit. -/
inductive ByteOrder where
  | bigEndian
  | littleEndian
  deriving DecidableEq, Repr

/-- The encoding of a document, and how many bytes of a mark stand before it. -/
inductive Encoding where
  | utf8 (mark : Nat)
  | utf16 (order : ByteOrder) (mark : Nat)
  | utf32 (order : ByteOrder) (mark : Nat)
  deriving DecidableEq, Repr

/-- Find the encoding by the byte order mark, or by the zero bytes. -/
def Encoding.detect : List UInt8 → Encoding
  | 0x00 :: 0x00 :: 0xFE :: 0xFF :: _ => .utf32 .bigEndian 4
  | 0xFF :: 0xFE :: 0x00 :: 0x00 :: _ => .utf32 .littleEndian 4
  | 0xFE :: 0xFF :: _ => .utf16 .bigEndian 2
  | 0xFF :: 0xFE :: _ => .utf16 .littleEndian 2
  | 0xEF :: 0xBB :: 0xBF :: _ => .utf8 3
  | a :: b :: c :: d :: _ =>
    if a == 0 then if b == 0 then .utf32 .bigEndian 0 else .utf16 .bigEndian 0
    else if b == 0 then
      if c == 0 && d == 0 then .utf32 .littleEndian 0 else .utf16 .littleEndian 0
    else .utf8 0
  | [a, b] =>
    if a == 0 then .utf16 .bigEndian 0 else if b == 0 then .utf16 .littleEndian 0 else .utf8 0
  | _ => .utf8 0

/-- Why a document cannot be decoded: the encoding's name, the first byte at fault, the positions
of the first and last byte, and the reason. -/
structure DecodeError where
  encoding : String
  byte : UInt8
  first : Nat
  last : Nat
  reason : String
  deriving DecidableEq, Repr

/-- The text of a decoding error. -/
def DecodeError.message (error : DecodeError) : String :=
  let place :=
    if error.first == error.last then
      "byte 0x" ++ String.ofList (hexDigits 2 error.byte.toNat) ++ " in position " ++
        toString error.first
    else "bytes in position " ++ toString error.first ++ "-" ++ toString error.last
  "'" ++ error.encoding ++ "' codec can't decode " ++ place ++ ": " ++ error.reason

/-- The words for a fault in UTF-8. -/
def Utf8.Fault.reason : Utf8.Fault → String
  | .invalidStart => "invalid start byte"
  | .invalidContinuation => "invalid continuation byte"
  | .truncated => "unexpected end of data"

/-- A code unit of two bytes. -/
def unit16 (order : ByteOrder) (a b : UInt8) : Nat :=
  match order with
  | .bigEndian => a.toNat * 256 + b.toNat
  | .littleEndian => b.toNat * 256 + a.toNat

/-- A code unit of four bytes. -/
def unit32 (order : ByteOrder) (a b c d : UInt8) : Nat :=
  match order with
  | .bigEndian => unit16 order a b * 65536 + unit16 order c d
  | .littleEndian => unit16 order c d * 65536 + unit16 order a b

/-- The first half of a surrogate pair. -/
def isHighSurrogate (unit : Nat) : Bool :=
  0xD800 ≤ unit && unit < 0xDC00

/-- The second half of a surrogate pair. -/
def isLowSurrogate (unit : Nat) : Bool :=
  0xDC00 ≤ unit && unit < 0xE000

/-- The character of a surrogate pair. -/
def joinSurrogates (high low : Nat) : Char :=
  Char.ofNat (0x10000 + (high - 0xD800) * 1024 + (low - 0xDC00))

/-- The character of a code unit that stands alone; half a pair reads as the replacement
character. -/
def unitChar (unit : Nat) : Char :=
  if isHighSurrogate unit || isLowSurrogate unit then replacementChar else Char.ofNat unit

/-- Read UTF-16.  A surrogate without its partner reads as the replacement character; a single byte
at the end is an error. -/
def decodeUtf16 (order : ByteOrder) (position : Nat) (read : List Char) :
    List UInt8 → Except DecodeError (List Char)
  | [] => .ok read.reverse
  | [a] =>
    let name := match order with
      | .bigEndian => "utf-16-be"
      | .littleEndian => "utf-16-le"
    .error ⟨name, a, position, position, "truncated data"⟩
  | a :: b :: rest =>
    let unit := unit16 order a b
    match rest with
    | c :: d :: rest' =>
      if isHighSurrogate unit && isLowSurrogate (unit16 order c d) then
        decodeUtf16 order (position + 4) (joinSurrogates unit (unit16 order c d) :: read) rest'
      else decodeUtf16 order (position + 2) (unitChar unit :: read) (c :: d :: rest')
    | rest => decodeUtf16 order (position + 2) (unitChar unit :: read) rest

/-- Read UTF-32.  Surrogates read as the replacement character; a unit beyond U+10FFFF and an
incomplete unit are errors. -/
def decodeUtf32 (order : ByteOrder) (position : Nat) (read : List Char) :
    List UInt8 → Except DecodeError (List Char)
  | [] => .ok read.reverse
  | a :: b :: c :: d :: rest =>
    let unit := unit32 order a b c d
    if unit < 0x110000 then decodeUtf32 order (position + 4) (unitChar unit :: read) rest
    else .error ⟨name, a, position, position + 3, "code point not in range(0x110000)"⟩
  | a :: rest => .error ⟨name, a, position, position + rest.length, "truncated data"⟩
where
  name : String := match order with
    | .bigEndian => "utf-32-be"
    | .littleEndian => "utf-32-le"

/-- Read a document in the encoding found for it.  Positions count from the start of the bytes, in
UTF-8 from the end of the mark. -/
def decodeDocument (bytes : List UInt8) : Except DecodeError (List Char) :=
  match Encoding.detect bytes with
  | .utf8 mark =>
    match Utf8.decode (bytes.drop mark) with
    | .ok text => .ok text
    | .error stop =>
      .error ⟨"utf-8", stop.byte, stop.position, stop.position + stop.size - 1, stop.reason.reason⟩
  | .utf16 order mark => decodeUtf16 order mark [] (bytes.drop mark)
  | .utf32 order mark => decodeUtf32 order mark [] (bytes.drop mark)

end Soliscope.Text
