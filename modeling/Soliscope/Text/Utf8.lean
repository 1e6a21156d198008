/-! # UTF-8

Characters as bytes and back.  Reading goes byte by byte: `Utf8.step` looks at the front of the
input and finds either a character or the longest run of bytes that cannot be part of one.
`Utf8.decode` stops at such a run, `Utf8.decodeLossy` puts the replacement character in its place.
-/

namespace Soliscope.Text

/-- The bytes of one character. -/
def utf8Char (c : Char) : List UInt8 :=
  let code := c.toNat
  let tail (shift : Nat) : UInt8 := UInt8.ofNat (0x80 + code / shift % 64)
  if code < 0x80 then [UInt8.ofNat code]
  else if code < 0x800 then [UInt8.ofNat (0xC0 + code / 64), tail 1]
  else if code < 0x10000 then [UInt8.ofNat (0xE0 + code / 4096), tail 64, tail 1]
  else [UInt8.ofNat (0xF0 + code / 262144), tail 4096, tail 64, tail 1]

/-- The bytes of a text. -/
def utf8 (text : List Char) : List UInt8 :=
  text.flatMap utf8Char

/-- The character that stands for what cannot be read. -/
def replacementChar : Char := '\uFFFD'

namespace Utf8

/-- Why bytes are not UTF-8. -/
inductive Fault where
  | invalidStart
  | invalidContinuation
  | truncated
  deriving DecidableEq, Repr

/-- What the front of the input holds. -/
inductive Step where
  /-- A character in `size` bytes. -/
  | char (value : Char) (size : Nat)
  /-- `size` bytes that are no part of a character. -/
  | fault (reason : Fault) (size : Nat)

/-- A byte that continues a character. -/
def isTail (byte : Nat) : Bool :=
  0x80 ≤ byte && byte < 0xC0

/-- The second byte may follow the first: it continues a character, is not the start of an overlong
form, and the character is neither a surrogate nor beyond U+10FFFF. -/
def followsLead (lead second : Nat) : Bool :=
  isTail second && !(lead == 0xE0 && second < 0xA0) && !(lead == 0xED && 0xA0 ≤ second) &&
    !(lead == 0xF0 && second < 0x90) && !(lead == 0xF4 && 0x90 ≤ second)

/-- The surrogate code point in three bytes. -/
def surrogate? (lead second third : Nat) : Bool :=
  lead == 0xED && 0xA0 ≤ second && second < 0xC0 && isTail third

/-- Look at the front of a nonempty input.  With `surrogates`, an encoded surrogate is read as the
replacement character; without, it is a fault. -/
def step (surrogates : Bool) (first : UInt8) (rest : List UInt8) : Step :=
  let lead := first.toNat
  if lead < 0x80 then .char (Char.ofNat lead) 1
  else if lead < 0xC2 then .fault .invalidStart 1
  else if lead < 0xE0 then
    match rest with
    | [] => .fault .truncated 1
    | b :: _ =>
      if isTail b.toNat then .char (Char.ofNat ((lead - 0xC0) * 64 + (b.toNat - 0x80))) 2
      else .fault .invalidContinuation 1
  else if lead < 0xF0 then
    match rest with
    | [] => .fault .truncated 1
    | [b] =>
      if followsLead lead b.toNat then .fault .truncated 2 else .fault .invalidContinuation 1
    | b :: c :: _ =>
      if surrogates && surrogate? lead b.toNat c.toNat then .char replacementChar 3
      else if !followsLead lead b.toNat then .fault .invalidContinuation 1
      else if !isTail c.toNat then .fault .invalidContinuation 2
      else
        .char (Char.ofNat ((lead - 0xE0) * 4096 + (b.toNat - 0x80) * 64 + (c.toNat - 0x80))) 3
  else if lead < 0xF5 then
    match rest with
    | [] => .fault .truncated 1
    | [b] =>
      if followsLead lead b.toNat then .fault .truncated 2 else .fault .invalidContinuation 1
    | [b, c] =>
      if !followsLead lead b.toNat then .fault .invalidContinuation 1
      else if isTail c.toNat then .fault .truncated 3 else .fault .invalidContinuation 2
    | b :: c :: d :: _ =>
      if !followsLead lead b.toNat then .fault .invalidContinuation 1
      else if !isTail c.toNat then .fault .invalidContinuation 2
      else if !isTail d.toNat then .fault .invalidContinuation 3
      else
        .char (Char.ofNat ((lead - 0xF0) * 262144 + (b.toNat - 0x80) * 4096 +
          (c.toNat - 0x80) * 64 + (d.toNat - 0x80))) 4
  else .fault .invalidStart 1

/-- Where and why reading stopped: the fault, the position of its first byte, that byte, and how
many bytes it covers. -/
structure Stop where
  reason : Fault
  position : Nat
  byte : UInt8
  size : Nat
  deriving DecidableEq, Repr

/-- Read bytes as characters up to the first fault.  `skip` bytes belong to the character read
last. -/
def decodeFrom (surrogates : Bool) (position skip : Nat) (read : List Char) :
    List UInt8 → Except Stop (List Char)
  | [] => .ok read.reverse
  | first :: rest =>
    match skip with
    | skip + 1 => decodeFrom surrogates (position + 1) skip read rest
    | 0 =>
      match step surrogates first rest with
      | .char value size => decodeFrom surrogates (position + 1) (size - 1) (value :: read) rest
      | .fault reason size => .error ⟨reason, position, first, size⟩

/-- Read bytes as characters, encoded surrogates included. -/
def decode (bytes : List UInt8) : Except Stop (List Char) :=
  decodeFrom true 0 0 [] bytes

/-- Read bytes as characters, with the replacement character for every faulty run. -/
def decodeLossyFrom (skip : Nat) (read : List Char) : List UInt8 → List Char
  | [] => read.reverse
  | first :: rest =>
    match skip with
    | skip + 1 => decodeLossyFrom skip read rest
    | 0 =>
      match step false first rest with
      | .char value size => decodeLossyFrom (size - 1) (value :: read) rest
      | .fault _ size => decodeLossyFrom (size - 1) (replacementChar :: read) rest

/-- Read any bytes as characters. -/
def decodeLossy (bytes : List UInt8) : List Char :=
  decodeLossyFrom 0 [] bytes

end Utf8

end Soliscope.Text
