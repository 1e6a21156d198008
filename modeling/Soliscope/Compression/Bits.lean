/-! # Bits

Compressed data is a row of bits.  The bits of a byte come lowest first, and so do the bits of a
number, unless they are the bits of a code.
-/

namespace Soliscope.Compression

/-- The bits of a byte, the lowest first. -/
def byteBits (byte : UInt8) : List Bool :=
  (List.range 8).map byte.toNat.testBit

/-- The bits of some bytes. -/
def bitsOf (bytes : List UInt8) : List Bool :=
  bytes.flatMap byteBits

/-- The number with the given bits, the lowest first. -/
def bitsValue : List Bool → Nat
  | [] => 0
  | bit :: rest => bit.toNat + 2 * bitsValue rest

/-- A part of the data cannot be what it should be. -/
inductive Flaw where
  | blockType
  | storedLengths
  | tooManySymbols
  | codeLengthCode
  | lengthRepeat
  | noEndOfBlock
  | literalCode
  | distanceCode
  | literalSymbol
  | distanceSymbol
  | distanceTooFar
  | header
  | method
  | windowSize
  | headerFlags
  | headerChecksum
  | dataChecksum
  | dataLength
  deriving DecidableEq, Repr

/-- The words for a flaw. -/
def Flaw.reason : Flaw → String
  | .blockType => "invalid block type"
  | .storedLengths => "invalid stored block lengths"
  | .tooManySymbols => "too many length or distance symbols"
  | .codeLengthCode => "invalid code lengths set"
  | .lengthRepeat => "invalid bit length repeat"
  | .noEndOfBlock => "invalid code -- missing end-of-block"
  | .literalCode => "invalid literal/lengths set"
  | .distanceCode => "invalid distances set"
  | .literalSymbol => "invalid literal/length code"
  | .distanceSymbol => "invalid distance code"
  | .distanceTooFar => "invalid distance too far back"
  | .header => "incorrect header check"
  | .method => "unknown compression method"
  | .windowSize => "invalid window size"
  | .headerFlags => "unknown header flags set"
  | .headerChecksum => "header crc mismatch"
  | .dataChecksum => "incorrect data check"
  | .dataLength => "incorrect length check"

/-- The text of a flaw. -/
def Flaw.message (flaw : Flaw) : String :=
  "Error -3 while decompressing data: " ++ flaw.reason

/-- Why reading stops: the data ends, or has a flaw. -/
inductive Stop where
  | ended
  | flawed (flaw : Flaw)
  deriving DecidableEq, Repr

/-- A reader of a value at the front of a row of bits. -/
abbrev BitReader := StateT (List Bool) (Except Stop)

/-- Read a number of so many bits. -/
def readBits (count : Nat) : BitReader Nat := fun bits =>
  let first := bits.take count
  if first.length < count then .error .ended else .ok (bitsValue first, bits.drop count)

/-- Stop because of a flaw. -/
def refuse {α : Type} (flaw : Flaw) : BitReader α := fun _ =>
  .error (.flawed flaw)

/-- Skip to the next whole byte.  The bits left are whole bytes and what is left of a begun one. -/
def skipToByte : BitReader Unit := fun bits =>
  .ok ((), bits.drop (bits.length % 8))

end Soliscope.Compression
