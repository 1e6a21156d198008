/-! # Double precision numbers as exact numbers

A finite double is an integer times a power of two.  `Dyadic.ofFloat?` reads a double that way, and
`nearest` goes the other way: it finds the double nearest to a ratio of natural numbers, a tie
going to the even neighbour.  Both work in exact integer arithmetic.
-/

namespace Soliscope.Number

/-- A power of two. -/
def twoPow (exponent : Nat) : Nat :=
  Nat.pow 2 exponent

/-- A power of ten. -/
def tenPow (exponent : Nat) : Nat :=
  Nat.pow 10 exponent

/-- The number `mantissa * 2 ^ exponent`, with a sign that zero keeps too. -/
structure Dyadic where
  negative : Bool
  mantissa : Nat
  exponent : Int
  deriving DecidableEq, Repr

/-- What a double stands for. -/
inductive Double where
  | finite (value : Dyadic)
  | infinite (negative : Bool)
  | undefined
  deriving DecidableEq, Repr

/-- The exponent of the least positive double. -/
def leastExponent : Int := -1074

/-- Read the bits of a double. -/
def Double.ofFloat (x : Float) : Double :=
  let bits := x.toBits.toNat
  let negative := twoPow 63 ≤ bits
  let scale : Nat := bits / twoPow 52 % twoPow 11
  let fraction := bits % twoPow 52
  if scale == 2047 then
    if fraction == 0 then .infinite negative else .undefined
  else if scale == 0 then .finite ⟨negative, fraction, leastExponent⟩
  else .finite ⟨negative, twoPow 52 + fraction, leastExponent + (scale : Int) - 1⟩

/-- The two parts of `numerator / (denominator * 2 ^ exponent)`. -/
def scaleDown (numerator denominator : Nat) (exponent : Int) : Nat × Nat :=
  if 0 ≤ exponent then (numerator, denominator * twoPow exponent.toNat)
  else (numerator * twoPow (-exponent).toNat, denominator)

/-- The exponent of the greatest power of two that is at most a positive ratio. -/
def binaryOrder (numerator denominator : Nat) : Int :=
  let guess : Int := (numerator.log2 : Int) - (denominator.log2 : Int)
  let (above, below) := scaleDown numerator denominator guess
  if below ≤ above then guess else guess - 1

/-- A quotient rounded to the nearest integer, a tie going to the even one. -/
def roundedQuotient (numerator denominator : Nat) : Nat :=
  let quotient := numerator / denominator
  let rest := numerator % denominator
  if denominator < 2 * rest || (2 * rest == denominator && quotient % 2 == 1) then quotient + 1
  else quotient

/-- The bits, without the sign, of the double nearest to a ratio.  The exponent field and the
mantissa overlap in such a way that a mantissa rounded up to the next power of two carries over,
and a ratio out of range gives the bits of infinity. -/
def nearestBits (numerator denominator : Nat) : Nat :=
  if numerator == 0 then 0
  else
    let unit := max (binaryOrder numerator denominator - 52) leastExponent
    let (above, below) := scaleDown numerator denominator unit
    min ((unit - leastExponent).toNat * twoPow 52 + roundedQuotient above below)
      (2047 * twoPow 52)

/-- The double with the given sign and the given other bits. -/
def ofMagnitude (negative : Bool) (bits : Nat) : Float :=
  Float.ofBits (UInt64.ofNat (if negative then twoPow 63 + bits else bits))

/-- Positive infinity, or negative. -/
def infinity (negative : Bool) : Float :=
  ofMagnitude negative (2047 * twoPow 52)

/-- The double that is no number. -/
def undefinedFloat : Float :=
  ofMagnitude false (2047 * twoPow 52 + twoPow 51)

/-- The double nearest to `digits * 10 ^ exponent`.  Numbers that are certainly beyond the range
are settled before any large power is taken. -/
def nearest (negative : Bool) (digits : Nat) (exponent : Int) : Float :=
  if digits == 0 then ofMagnitude negative 0
  else if 0 ≤ exponent then
    if 1024 ≤ (digits.log2 : Int) + 3 * exponent then infinity negative
    else ofMagnitude negative (nearestBits (digits * tenPow exponent.toNat) 1)
  else
    if (digits.log2 : Int) + 1 + 3 * exponent < -1075 then ofMagnitude negative 0
    else ofMagnitude negative (nearestBits digits (tenPow (-exponent).toNat))

/-- The double nearest to an integer. -/
def nearestInt (value : Int) : Float :=
  nearest (value < 0) value.natAbs 0

/-- The integer that a double is, if it is one. -/
def integer? (x : Float) : Option Int :=
  match Double.ofFloat x with
  | .finite ⟨negative, mantissa, exponent⟩ =>
    let (above, below) := scaleDown mantissa 1 (-exponent)
    if above % below == 0 then
      let magnitude : Int := (above / below : Nat)
      some (if negative then -magnitude else magnitude)
    else none
  | _ => none

end Soliscope.Number
