import Soliscope.Number.Digits

/-! # Doubles as text

Numbers are written positionally in a middle range and with an exponent outside it.  A style fixes
the range and whether a whole number keeps `.0`.
-/

namespace Soliscope.Number

/-- How a double is written. -/
structure Style where
  /-- Positional while the decimal point is right of this place. -/
  positionalAbove : Int
  /-- Positional while the decimal point is at most this place. -/
  positionalUpTo : Int
  /-- A whole number written positionally ends in `.0`. -/
  keepsFraction : Bool

/-- Values: positional from `0.0001` up to below `10 ^ 16`, and never to be taken for an integer. -/
def Style.value : Style := ⟨-4, 16, true⟩

/-- Durations in messages: positional from `0.0001` up to below `10 ^ 6`, without `.0`. -/
def Style.brief : Style := ⟨-4, 6, false⟩

/-- The exponent part: a sign and at least two digits. -/
def exponentPart (exponent : Int) : List Char :=
  let digits := Nat.toDigits 10 exponent.natAbs
  ['e', if exponent < 0 then '-' else '+'] ++ List.replicate (2 - digits.length) '0' ++ digits

/-- The digits as positional text. -/
def Digits.positional (number : Digits) (keepsFraction : Bool) : List Char :=
  if number.point ≤ 0 then
    ['0', '.'] ++ List.replicate (-number.point).toNat '0' ++ number.digits
  else
    let wholeSize := number.point.toNat
    if number.digits.length ≤ wholeSize then
      number.digits ++ List.replicate (wholeSize - number.digits.length) '0' ++
        (if keepsFraction then ['.', '0'] else [])
    else number.digits.take wholeSize ++ ['.'] ++ number.digits.drop wholeSize

/-- The digits as one digit, a fraction if there are more, and an exponent. -/
def Digits.exponential (number : Digits) : List Char :=
  number.digits.take 1 ++
    (if number.digits.length ≤ 1 then [] else '.' :: number.digits.drop 1) ++
    exponentPart (number.point - 1)

/-- Digits in a style. -/
def Digits.written (number : Digits) (style : Style) : List Char :=
  if style.positionalAbove < number.point && number.point ≤ style.positionalUpTo then
    number.positional style.keepsFraction
  else number.exponential

/-- A double in a style, with a choice of digits. -/
def writeDouble (style : Style) (choose : Nat → Int → Digits) (x : Float) : String :=
  match Double.ofFloat x with
  | .undefined => "nan"
  | .infinite negative => if negative then "-inf" else "inf"
  | .finite ⟨negative, mantissa, exponent⟩ =>
    let body := (choose mantissa exponent).written style
    String.ofList (if negative then '-' :: body else body)

/-- A double as a value: the fewest digits that read back. -/
def valueText (x : Float) : String :=
  writeDouble .value shortest x

/-- A double in at most six significant digits. -/
def briefText (x : Float) : String :=
  writeDouble .brief (significant 6) x

end Soliscope.Number
