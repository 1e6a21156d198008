import Soliscope.Number.Binary64
import Soliscope.Text.Blank
import Soliscope.Json.Basic
import Soliscope.Schema.Validation

/-! # Lenient integers, numbers and truth values

Where an integer is asked for, a double without a fraction, a truth value and a text of digits will
do; numbers and truth values are as lenient.  The readers here say for any JSON value which number
or truth value it stands for, or what keeps it from being one.
-/

namespace Soliscope.Schema

open Soliscope.Number

/-- The greatest number of digits of an integer in text. -/
def integerTextLimit : Nat := 4300

/-- The sign of a number in text, and what follows it. -/
def signed : List Char → Bool × List Char
  | '-' :: rest => (true, rest)
  | '+' :: rest => (false, rest)
  | rest => (false, rest)

/-- An integer with its sign. -/
def withSign (negative : Bool) (magnitude : Nat) : Int :=
  if negative then -(magnitude : Int) else magnitude

/-- What a text is when it is read as an integer in plain form. -/
inductive PlainInteger where
  | value (value : Int)
  /-- It starts with an integer that is too long. -/
  | tooLong
  /-- It has not the plain form. -/
  | other
  deriving DecidableEq, Repr

/-- Read what follows the sign of an integer in plain form.  The size is looked at before what may
follow. -/
def PlainInteger.ofUnsigned (negative : Bool) (unsigned : List Char) : PlainInteger :=
  let digits := unsigned.takeWhile Char.isDigit
  if digits.isEmpty then .other
  else if digits.head? == some '0' then if unsigned == ['0'] then .value 0 else .other
  else if integerTextLimit < digits.length then .tooLong
  else if digits.length == unsigned.length then
    .value (withSign negative (Nat.ofDigitChars 10 digits 0))
  else .other

/-- Read an integer in plain form: a minus sign or none, and a lone zero or digits that do not start
with zero. -/
def PlainInteger.ofText : List Char → PlainInteger
  | '-' :: rest => .ofUnsigned true rest
  | text => .ofUnsigned false text

/-- What is left of an integer after its leading zeros, which may have underscores between them; a
zero before a point or at the end stays. -/
def afterZeros (last : Char) : List Char → Option (List Char)
  | [] => some [last]
  | c :: rest =>
    if c == '0' || c == '_' then afterZeros c rest
    else if c == '.' then some (last :: c :: rest)
    else if c.isDigit || c == '-' then some (c :: rest)
    else none

/-- An integer without leading zeros, if the text starts as an integer can. -/
def withoutLeadingZeros? : List Char → Option (List Char)
  | '0' :: rest => afterZeros '0' rest
  | c :: rest => if c.isDigit then some (c :: rest) else none
  | [] => none

/-- The text without a fraction of zeros. -/
def withoutZeroFraction (text : List Char) : List Char :=
  match text.dropWhile (· != '.') with
  | '.' :: zeros =>
    if !zeros.isEmpty && zeros.all (· == '0') then text.takeWhile (· != '.') else text
  | _ => text

/-- The text without its underscores, of which none may stand at an end or beside another. -/
def withoutUnderscores? (text : List Char) : Option (List Char) :=
  let groups := text.splitOn '_'
  if groups.all (!·.isEmpty) then some groups.flatten else none

/-- The plain form of an integer that is written more freely: with blanks around it, a sign, leading
zeros, a fraction of zeros, and underscores. -/
def plainForm? (text : List Char) : Option (List Char) :=
  let (negative, unsigned) := signed (Text.trimWhere Text.isWhiteSpace text)
  (withoutLeadingZeros? unsigned).bind fun digits =>
    (withoutUnderscores? (withoutZeroFraction digits)).map fun plain =>
      if negative then '-' :: plain else plain

/-- The integer that a text stands for.  A text that is not in plain form is put into it first, and
then too long an integer is no integer at all. -/
def integerOfText (text : String) : Validation Int :=
  match PlainInteger.ofText text.toList with
  | .value value => .accepted value
  | .tooLong => .flawed .integerSize
  | .other =>
    match (plainForm? text.toList).map PlainInteger.ofText with
    | some (.value value) => .accepted value
    | _ => .flawed .integerForm

/-- The integer that a double stands for: one without a fraction, in the range of 64 bits. -/
def integerOfFloat (value : Float) : Validation Int :=
  match Double.ofFloat value with
  | .finite _ =>
    match integer? value with
    | some whole => if whole.natAbs < twoPow 63 then .accepted whole else .flawed .integerSize
    | none => .flawed .fractional
  | _ => .flawed .notFinite

/-- The integer that a value stands for. -/
def integer : Json → Validation Int
  | .int value => .accepted value
  | .bool value => .accepted (if value then 1 else 0)
  | .float value => integerOfFloat value
  | .str text => integerOfText text
  | _ => .flawed .notInteger

/-- The words for true and for false, in lower case. -/
def truthWords : List (String × Bool) :=
  [("0", false), ("off", false), ("f", false), ("false", false), ("n", false), ("no", false),
    ("1", true), ("on", true), ("t", true), ("true", true), ("y", true), ("yes", true)]

/-- An integer fits into 64 bits with its sign. -/
def fitsWord (value : Int) : Bool :=
  -(twoPow 63 : Int) ≤ value && value < (twoPow 63 : Int)

/-- The truth value that a value stands for. -/
def truth : Json → Validation Bool
  | .bool value => .accepted value
  | .int 0 => .accepted false
  | .int 1 => .accepted true
  | .int value => .flawed (if fitsWord value then .truthForm else .notTruth)
  | .float value =>
    if value == 0 then .accepted false
    else if value == 1 then .accepted true
    else
      match integerOfFloat value with
      | .accepted _ => .flawed .truthForm
      | .refused _ => .flawed .notTruth
  | .str text =>
    match truthWords.lookup (String.ofList (text.toList.map Char.toLower)) with
    | some value => .accepted value
    | none => .flawed .truthForm
  | _ => .flawed .notTruth

/-- The words for numbers that are not finite, in lower case. -/
def numberWords : List (String × (Bool → Float)) :=
  [("inf", infinity), ("infinity", infinity), ("nan", fun _ => undefinedFloat)]

/-- The parts of a decimal number: whole digits, fraction digits and exponent. -/
def decimalParts? (text : List Char) : Option (List Char × List Char × Int) :=
  let isMark (c : Char) : Bool := c == 'e' || c == 'E'
  let mantissa := text.takeWhile (!isMark ·)
  let whole := mantissa.takeWhile (· != '.')
  let fraction := (mantissa.dropWhile (· != '.')).drop 1
  let digits (part : List Char) : Bool := part.all Char.isDigit
  if !digits whole || !digits fraction || (whole ++ fraction).isEmpty then none
  else
    match text.dropWhile (!isMark ·) with
    | [] => some (whole, fraction, 0)
    | _ :: exponent =>
      let (negative, exponentDigits) := signed exponent
      if exponentDigits.isEmpty || !digits exponentDigits then none
      else some (whole, fraction, withSign negative (Nat.ofDigitChars 10 exponentDigits 0))

/-- The double that a text without blanks and underscores stands for. -/
def plainNumber? (text : List Char) : Option Float :=
  let (negative, unsigned) := signed text
  match numberWords.lookup (String.ofList (unsigned.map Char.toLower)) with
  | some value => some (value negative)
  | none =>
    (decimalParts? unsigned).map fun (whole, fraction, exponent) =>
      nearest negative (Nat.ofDigitChars 10 (whole ++ fraction) 0) (exponent - fraction.length)

/-- The double that a text stands for: with blanks around it, or else with underscores in it. -/
def numberOfText (text : String) : Validation Float :=
  let number :=
    (plainNumber? (Text.trimWhere Text.isWhiteSpace text.toList)).or
      ((withoutUnderscores? text.toList).bind plainNumber?)
  match number with
  | some value => .accepted value
  | none => .flawed .numberForm

/-- The double nearest to an integer, if the integer is in its range. -/
def numberOfInteger (value : Int) : Validation Float :=
  match Double.ofFloat (nearestInt value) with
  | .finite _ => .accepted (nearestInt value)
  | _ => .flawed .notNumber

/-- The double that a value stands for. -/
def number : Json → Validation Float
  | .float value => .accepted value
  | .int value => numberOfInteger value
  | .bool value => .accepted (if value then 1 else 0)
  | .str text => numberOfText text
  | _ => .flawed .notNumber

end Soliscope.Schema
