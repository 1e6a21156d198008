import Soliscope.Schema.Number

/-! # Times

A time is written as a date, perhaps with a time of day and an offset, or as a number of seconds
since 1970.  Great numbers count milliseconds.  The years 1 to 9999 are reached, and times in the
year before them have a flaw of their own.
-/

namespace Soliscope.Schema

open Soliscope.Number

/-- The first second of the year before the first one. -/
def firstSecond : Int := -62167219200

/-- The first second of the first year. -/
def firstYearSecond : Int := -62135596800

/-- The last second of the last year. -/
def lastSecond : Int := 253402300799

/-- What is wrong with a second since 1970, if anything. -/
def secondFlaw? (second : Int) : Option TimeFlaw :=
  if second < firstSecond then some .early
  else if second < firstYearSecond then some .yearZero
  else if lastSecond < second then some .late
  else none

/-- Numbers beyond this count milliseconds. -/
def secondsLimit : Nat := 20000000000

/-- What is wrong with a whole number as a time, if anything, when so many microseconds are added to
it. -/
def timestampFlaw? (number : Int) (microseconds : Int) : Option TimeFlaw :=
  if secondsLimit < number.natAbs then
    secondFlaw? (number.fdiv 1000 + (number.fmod 1000 * 1000 + microseconds).fdiv 1000000)
  else secondFlaw? (number + microseconds.fdiv 1000000)

/-- A decimal digit at the front of a text, or else a flaw. -/
def readDigit (flaw : TimeFlaw) : StateT (List Char) (Except TimeFlaw) Nat := fun text =>
  match text with
  | c :: rest => if c.isDigit then .ok (c.toNat - '0'.toNat, rest) else .error flaw
  | [] => .error flaw

/-- A number of so many digits at the front of a text, or else a flaw. -/
def readDigits (flaw : TimeFlaw) (count : Nat) : StateT (List Char) (Except TimeFlaw) Nat := do
  let digits ← (List.replicate count ()).mapM fun _ => readDigit flaw
  pure (digits.foldl (fun value digit => 10 * value + digit) 0)

/-- The separator between the parts of a date. -/
def readSeparator : StateT (List Char) (Except TimeFlaw) Unit := fun text =>
  match text with
  | '-' :: rest => .ok ((), rest)
  | _ => .error .separator

/-- A year with a day more than others. -/
def isLeapYear (year : Nat) : Bool :=
  (year % 4 == 0 && year % 100 != 0) || year % 400 == 0

/-- The number of days of a month. -/
def daysOf? (year month : Nat) : Option Nat :=
  if month == 2 then some (if isLeapYear year then 29 else 28)
  else if [4, 6, 9, 11].contains month then some 30
  else if 1 ≤ month && month ≤ 12 then some 31
  else none

/-- Read a date at the front of a text, and give its year. -/
def readDate : StateT (List Char) (Except TimeFlaw) Nat := do
  let year ← readDigits .yearCharacter 4
  readSeparator
  let month ← readDigits .monthCharacter 2
  readSeparator
  let day ← readDigits .dayCharacter 2
  match daysOf? year month with
  | none => throw .month
  | some days => if 1 ≤ day && day ≤ days then pure year else throw .day

/-- The greatest number of bytes of a text that is too short for a date. -/
def shortDate : Nat := 9

/-- The year of the date at the front of a text, and what follows the date. -/
def afterDate (text : String) : Except TimeFlaw (Nat × List Char) :=
  if text.utf8ByteSize ≤ shortDate then .error .tooShort else readDate.run text.toList

/-- Two digits below a limit at the front of a text, and what follows them. -/
def below? (limit : Nat) : List Char → Option (Nat × List Char)
  | high :: low :: rest =>
    let value := 10 * (high.toNat - '0'.toNat) + (low.toNat - '0'.toNat)
    if high.isDigit && low.isDigit && value < limit then some (value, rest) else none
  | _ => none

/-- What follows the seconds, if there are any, with a fraction, if there is one. -/
def afterSeconds? : List Char → Option (List Char)
  | ':' :: text => do
    let (_, rest) ← below? 60 text
    match rest with
    | '.' :: fraction | ',' :: fraction =>
      if fraction.head?.any Char.isDigit then some (fraction.dropWhile Char.isDigit) else none
    | rest => some rest
  | text => some text

/-- What follows the time of day at the front of a text. -/
def afterTimeOfDay? (text : List Char) : Option (List Char) := do
  let (_, rest) ← below? 24 text
  match rest with
  | ':' :: rest => do
    let (_, rest) ← below? 60 rest
    afterSeconds? rest
  | _ => none

/-- An offset from universal time: hours below 24 and minutes, with a colon or none between them. -/
def isOffset (text : List Char) : Bool :=
  match below? 24 text with
  | some (_, rest) =>
    let minutes := if rest.head? == some ':' then rest.drop 1 else rest
    (below? 60 minutes).any (·.2.isEmpty)
  | none => false

/-- A mark for universal time, an offset from it, or nothing. -/
def isZone : List Char → Bool
  | [] => true
  | ['Z'] | ['z'] => true
  | '+' :: offset | '-' :: offset | '\u2212' :: offset => isOffset offset
  | _ => false

/-- A time of day after a date, with a separator before it. -/
def isTimeAfterDate : List Char → Bool
  | separator :: text =>
    ['T', 't', ' ', '_'].contains separator && (afterTimeOfDay? text).any isZone
  | [] => false

/-- What is wrong with a year in writing, if anything. -/
def yearFlaw? (year : Nat) : Option Flaw :=
  if year == 0 then some (.timeValue .yearZero) else none

/-- What is wrong with a text as a date alone, if anything. -/
def dateFlaw? (text : String) : Option Flaw :=
  match afterDate text with
  | .ok (year, []) => yearFlaw? year
  | .ok _ => some (.timeForm .rest)
  | .error flaw => some (.timeForm flaw)

/-- A double is rounded down to a whole number, and the rest is given in microseconds.  The rest
counts from the other end for numbers below zero. -/
def timeNumberFlaw? (value : Float) : Option TimeFlaw :=
  match integer? value.floor with
  | some whole =>
    let rest := (value - if value < 0 then value.ceil else value.floor).abs
    timestampFlaw? whole ((integer? (rest * 1000000).round).getD 0)
  | none =>
    if value.isNaN then some .undefinedNumber
    else if value < 0 then some .early
    else some .late

/-- What is wrong with a double in text as a time, if anything.  A great number is brought from
milliseconds to seconds, and what is great even so counts milliseconds once more. -/
def pointNumberFlaw? (value : Float) : Option TimeFlaw :=
  let value := if Float.ofNat secondsLimit < value.abs then value / 1000 else value
  match integer? value.floor with
  | some whole =>
    timestampFlaw? whole ((integer? ((value - value.floor) * 1000000).round).getD 0)
  | none => if value < 0 then some .early else some .late

/-- A number in text. -/
inductive Timestamp where
  | whole (value : Int)
  | point (value : Float)

/-- The number that a text is: a whole number of 64 bits, which a point may follow, and then a
fraction and an exponent. -/
def timestamp? (text : String) : Option Timestamp :=
  let (negative, unsigned) := signed text.toList
  let digits := unsigned.takeWhile Char.isDigit
  let value := withSign negative (Nat.ofDigitChars 10 digits 0)
  if !fitsWord value.natAbs then none
  else
    match unsigned.dropWhile Char.isDigit with
    | [] => if digits.isEmpty then none else some (.whole value)
    | '.' :: _ => (plainNumber? text.toList).map .point
    | _ => none

/-- What is wrong with a number in text, if anything.  A whole number that is no time is no date
either; a number with a point is then looked at as a date. -/
def timestampTextFlaw? (text : String) (number : Timestamp) : Option Flaw :=
  let flaw := match number with
    | .whole value => timestampFlaw? value 0
    | .point value => pointNumberFlaw? value
  match flaw, number with
  | none, _ => none
  | some .yearZero, _ => some (.timeValue .yearZero)
  | some flaw, .whole _ => some (.timeForm flaw)
  | some _, .point _ => dateFlaw? text

/-- What is wrong with a text as a time, if anything. -/
def timeTextFlaw? (text : String) : Option Flaw :=
  match afterDate text with
  | .ok (year, rest) => if isTimeAfterDate rest then yearFlaw? year else dateFlaw? text
  | .error _ =>
    match timestamp? text with
    | some number => timestampTextFlaw? text number
    | none => dateFlaw? text

/-- A time, by its flaw. -/
def timed (value : Json) : Option Flaw → Validation Json
  | none => .accepted value
  | some flaw => .flawed flaw

/-- A time: a text, or a number. -/
def time : Json → Validation Json
  | .str text => timed (.str text) (timeTextFlaw? text)
  | .int value =>
    match numberOfInteger value with
    | .accepted _ => timed (.int value) ((timestampFlaw? value 0).map .timeValue)
    | .refused _ => .flawed .notTime
  | .float value => timed (.float value) ((timeNumberFlaw? value).map .timeValue)
  | _ => .flawed .notTime

end Soliscope.Schema
