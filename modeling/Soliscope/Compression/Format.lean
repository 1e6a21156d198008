import Soliscope.Compression.Checksum
import Soliscope.Compression.Inflate

/-! # Formats of compressed data

Deflated data stands by itself, or between a header and a checksum in one of two formats.  What
follows the data is not looked at, and data that ends early gives what came out of it.
-/

namespace Soliscope.Compression

/-- A format of compressed data. -/
inductive Format where
  | raw
  | zlib
  | gzip
  deriving DecidableEq, Repr

/-- Read so many numbers of a byte each. -/
def readByteRow (count : Nat) : BitReader (List Nat) :=
  (List.replicate count ()).mapM fun _ => readBits 8

/-- Read bytes up to a zero byte, which belongs to them, in at most `steps` steps. -/
def readText : Nat → BitReader (List Nat)
  | 0 => fun _ => .error .ended
  | steps + 1 => do
    let byte ← readBits 8
    if byte == 0 then pure [byte]
    else do
      let rest ← readText steps
      pure (byte :: rest)

/-- Read the header of a zlib stream.  A preset dictionary cannot be had, so the data is refused. -/
def readZlibHeader : BitReader Unit := do
  let first ← readBits 8
  let second ← readBits 8
  if (first * 256 + second) % 31 != 0 then refuse .header
  else if first % 16 != 8 then refuse .method
  else if 7 < first / 16 then refuse .windowSize
  else if second / 32 % 2 == 1 then do
    let _ ← readBits 32
    refuse .header
  else pure ()

/-- Read a part of a header that is there if a flag is set. -/
def readIf (flag : Bool) (part : BitReader (List Nat)) : BitReader (List Nat) :=
  if flag then part else pure []

/-- Read the further field of a gzip header, with its size. -/
def readFurtherField : BitReader (List Nat) := do
  let low ← readBits 8
  let high ← readBits 8
  let content ← readByteRow (low + 256 * high)
  pure (low :: high :: content)

/-- Read the header of a gzip stream. -/
def readGzipHeader : BitReader Unit := do
  let steps := (← get).length
  let mark ← readByteRow 2
  if mark != [0x1F, 0x8B] then refuse .header
  else do
    let method ← readBits 8
    let flags ← readBits 8
    if method != 8 then refuse .method
    else if 32 ≤ flags then refuse .headerFlags
    else do
      let set (place : Nat) : Bool := flags.testBit place
      let about ← readByteRow 6
      let field ← readIf (set 2) readFurtherField
      let name ← readIf (set 3) (readText steps)
      let comment ← readIf (set 4) (readText steps)
      if set 1 then do
        let check ← readBits 16
        let header := mark ++ [method, flags] ++ about ++ field ++ name ++ comment
        if check == cyclicCheck (header.map UInt8.ofNat) % 65536 then pure ()
        else refuse .headerChecksum
      else pure ()

/-- Read the header of a format. -/
def Format.readHeader : Format → BitReader Unit
  | .raw => pure ()
  | .zlib => readZlibHeader
  | .gzip => readGzipHeader

/-- Read what follows the data in a format, and compare it with the output. -/
def Format.readTrailer (output : List UInt8) : Format → BitReader Unit
  | .raw => pure ()
  | .zlib => do
    let check ← readByteRow 4
    if check.foldl (fun value byte => value * 256 + byte) 0 == sumCheck output then pure ()
    else refuse .dataChecksum
  | .gzip => do
    let check ← readBits 32
    if check != cyclicCheck output then refuse .dataChecksum
    else do
      let size ← readBits 32
      if size == output.length % 4294967296 then pure () else refuse .dataLength

/-- The bytes that compressed data stands for. -/
def Format.decompress (format : Format) (bytes : List UInt8) : Except Flaw (List UInt8) :=
  match format.readHeader (bitsOf bytes) with
  | .error .ended => .ok []
  | .error (.flawed flaw) => .error flaw
  | .ok ((), bits) =>
    match inflate bits with
    | .flawed flaw => .error flaw
    | .ended output => .ok output.toList
    | .complete output rest =>
      match format.readTrailer output.toList rest with
      | .error (.flawed flaw) => .error flaw
      | _ => .ok output.toList

end Soliscope.Compression
