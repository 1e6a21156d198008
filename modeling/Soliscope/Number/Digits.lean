import Soliscope.Number.Binary64

/-! # Decimal digits of a double

Two ways to choose the digits that stand for a double: the fewest that read back as it
(`shortest`), and a fixed number of significant digits (`significant`).
-/

namespace Soliscope.Number

/-- The number `0.d₁d₂… * 10 ^ point`; neither end of the digits is a zero, except for the number
zero itself, which has the single digit zero. -/
structure Digits where
  digits : List Char
  point : Int
  deriving DecidableEq, Repr

/-- The digits of `value * 10 ^ exponent`. -/
def Digits.ofNat (value : Nat) (exponent : Int) : Digits :=
  if value == 0 then ⟨['0'], 1⟩
  else
    let written := Nat.toDigits 10 value
    ⟨(written.reverse.dropWhile (· == '0')).reverse, written.length + exponent⟩

/-- The two parts of `numerator / (denominator * 10 ^ exponent)`. -/
def scaleDownTen (numerator denominator : Nat) (exponent : Int) : Nat × Nat :=
  if 0 ≤ exponent then (numerator, denominator * tenPow exponent.toNat)
  else (numerator * tenPow (-exponent).toNat, denominator)

/-- The exponent of the greatest power of ten that is at most a positive ratio. -/
def decimalOrder (numerator denominator : Nat) : Int :=
  let guess := ((binaryOrder numerator denominator) * 30103).fdiv 100000
  let atLeast (exponent : Int) : Bool :=
    let (above, below) := scaleDownTen numerator denominator exponent
    below ≤ above
  if atLeast (guess + 1) then guess + 1 else if atLeast guess then guess else guess - 1

/-- The fewest digits, at most seventeen, that read back as `mantissa * 2 ^ exponent`.  A decimal
reads back when it lies between the midpoints to the two neighbouring doubles; the midpoints
themselves read back when the mantissa is even.  For each number of digits the two neighbours of
the double on that decimal grid are tried; of two that read back the nearer is taken, and of two
equally near the even one. -/
def shortest (mantissa : Nat) (exponent : Int) : Digits :=
  if mantissa == 0 then Digits.ofNat 0 0
  else
    let gapBelow := if mantissa == twoPow 52 && leastExponent < exponent then 1 else 2
    let (value, unit) := scaleDown (4 * mantissa) 1 (2 - exponent)
    let (step, _) := scaleDown 1 1 (2 - exponent)
    let low := value - gapBelow * step
    let high := value + 2 * step
    let order := decimalOrder value unit
    let tryCount (count : Nat) : Option Digits :=
      let grid := order - count + 1
      let (above, below) := scaleDownTen value unit grid
      let lower := above / below
      let readsBack (candidate : Nat) : Bool :=
        let (bottom, mid) := scaleDownTen low unit grid
        let (top, _) := scaleDownTen high unit grid
        if mantissa % 2 == 0 then bottom ≤ candidate * mid && candidate * mid ≤ top
        else bottom < candidate * mid && candidate * mid < top
      match readsBack lower, readsBack (lower + 1) with
      | true, true => some (Digits.ofNat (roundedQuotient above below) grid)
      | true, false => some (Digits.ofNat lower grid)
      | false, true => some (Digits.ofNat (lower + 1) grid)
      | false, false => none
    ((List.range 17).findSome? fun index => tryCount (index + 1)).getD
      (Digits.ofNat mantissa exponent)

/-- The number rounded to `count` significant digits, a tie going to the even digit. -/
def significant (count mantissa : Nat) (exponent : Int) : Digits :=
  if mantissa == 0 then Digits.ofNat 0 0
  else
    let (value, unit) := scaleDown mantissa 1 (-exponent)
    let grid := decimalOrder value unit - count + 1
    let (above, below) := scaleDownTen value unit grid
    Digits.ofNat (roundedQuotient above below) grid

end Soliscope.Number
