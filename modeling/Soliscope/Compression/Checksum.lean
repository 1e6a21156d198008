/-! # Checksums

Two checksums of bytes, each a number of 32 bits.
-/

namespace Soliscope.Compression

/-- The remainder of a polynomial over two elements after one more bit. -/
def cyclicStep (remainder : Nat) : Nat :=
  if remainder % 2 == 1 then (remainder / 2) ^^^ 0xEDB88320 else remainder / 2

/-- The remainder after one more byte. -/
def cyclicByte (remainder : Nat) (byte : UInt8) : Nat :=
  (List.range 8).foldl (fun remainder _ => cyclicStep remainder) (remainder ^^^ byte.toNat)

/-- The cyclic redundancy check of some bytes. -/
def cyclicCheck (bytes : List UInt8) : Nat :=
  bytes.foldl cyclicByte 0xFFFFFFFF ^^^ 0xFFFFFFFF

/-- The sums of a check by two sums after one more byte. -/
def sumByte (sums : Nat × Nat) (byte : UInt8) : Nat × Nat :=
  let low := (sums.1 + byte.toNat) % 65521
  (low, (sums.2 + low) % 65521)

/-- The check of some bytes by two sums: of the bytes, and of the sums. -/
def sumCheck (bytes : List UInt8) : Nat :=
  let sums := bytes.foldl sumByte (1, 0)
  sums.2 * 65536 + sums.1

end Soliscope.Compression
