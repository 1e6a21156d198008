/-! # Issues

What is wrong with a JSON value that should have a certain form.  An issue says where in the value
it lies and what the flaw is; each kind of flaw has a code and a text.
-/

namespace Soliscope.Schema

/-- One step on the way into a value. -/
inductive Key where
  | name (text : String)
  | index (position : Nat)
  deriving DecidableEq, Repr

/-- A step as text. -/
def Key.text : Key → String
  | .name text => text
  | .index position => toString position

/-- What is wrong with a time. -/
inductive TimeFlaw where
  | tooShort
  | yearCharacter
  | monthCharacter
  | dayCharacter
  | separator
  | month
  | day
  /-- Something follows the date. -/
  | rest
  | early
  /-- A time in the year before the first one. -/
  | yearZero
  | late
  | undefinedNumber
  deriving DecidableEq, Repr

/-- The text of what is wrong with a time. -/
def TimeFlaw.message : TimeFlaw → String
  | .tooShort => "input is too short"
  | .yearCharacter => "invalid character in year"
  | .monthCharacter => "invalid character in month"
  | .dayCharacter => "invalid character in day"
  | .separator => "invalid date separator, expected \x60-\x60"
  | .month => "month value is outside expected range of 1-12"
  | .day => "day value is outside expected range"
  | .rest => "unexpected extra characters at the end of the input"
  | .early => "dates before 0000 are not supported as unix timestamps"
  | .yearZero => "year 0 is out of range"
  | .late => "dates after 9999 are not supported as unix timestamps"
  | .undefinedNumber => "NaN values not permitted"

/-- A kind of flaw. -/
inductive Flaw where
  | missing
  | notText
  | tooShort (least : Nat)
  | tooLong (most : Nat)
  | otherForm (pattern : String)
  | notList
  | notDictionary
  /-- Neither a dictionary nor a document of the given title. -/
  | notDocument (title : String)
  | notObject
  | notAChoice (choices : List String)
  | unknownField
  | refused (reason : String)
  | notTime
  /-- A text that is no time. -/
  | timeForm (flaw : TimeFlaw)
  /-- A number that is no time, or a time that lies in no year. -/
  | timeValue (flaw : TimeFlaw)
  | notInteger
  | fractional
  | notFinite
  | integerForm
  | integerSize
  | notTruth
  | truthForm
  | notNumber
  | numberForm
  | notJson
  deriving DecidableEq, Repr

/-- The code of a flaw. -/
def Flaw.code : Flaw → String
  | .missing => "missing"
  | .notText => "string_type"
  | .tooShort _ => "string_too_short"
  | .tooLong _ => "string_too_long"
  | .otherForm _ => "string_pattern_mismatch"
  | .notList => "list_type"
  | .notDictionary => "dict_type"
  | .notDocument _ => "model_type"
  | .notObject => "model_attributes_type"
  | .notAChoice _ => "literal_error"
  | .unknownField => "extra_forbidden"
  | .refused _ => "value_error"
  | .notTime => "datetime_type"
  | .timeForm _ => "datetime_from_date_parsing"
  | .timeValue _ => "datetime_parsing"
  | .notInteger => "int_type"
  | .fractional => "int_from_float"
  | .notFinite => "finite_number"
  | .integerForm => "int_parsing"
  | .integerSize => "int_parsing_size"
  | .notTruth => "bool_type"
  | .truthForm => "bool_parsing"
  | .notNumber => "float_type"
  | .numberForm => "float_parsing"
  | .notJson => "json_invalid"

/-- A number of characters. -/
def characters (count : Nat) : String :=
  toString count ++ if count == 1 then " character" else " characters"

/-- The choices, each in quotes, the last one after `or`. -/
def orList : List String → String
  | [] => ""
  | [last] => "'" ++ last ++ "'"
  | [first, last] => "'" ++ first ++ "' or '" ++ last ++ "'"
  | first :: rest => "'" ++ first ++ "', " ++ orList rest

/-- The text of a flaw. -/
def Flaw.message : Flaw → String
  | .missing => "Field required"
  | .notText => "Input should be a valid string"
  | .tooShort least => "String should have at least " ++ characters least
  | .tooLong most => "String should have at most " ++ characters most
  | .otherForm pattern => "String should match pattern '" ++ pattern ++ "'"
  | .notList => "Input should be a valid list"
  | .notDictionary => "Input should be a valid dictionary"
  | .notDocument title => "Input should be a valid dictionary or instance of " ++ title
  | .notObject => "Input should be a valid dictionary or object to extract fields from"
  | .notAChoice choices => "Input should be " ++ orList choices
  | .unknownField => "Extra inputs are not permitted"
  | .refused reason => "Value error, " ++ reason
  | .notTime => "Input should be a valid datetime"
  | .timeForm flaw => "Input should be a valid datetime or date, " ++ flaw.message
  | .timeValue flaw => "Input should be a valid datetime, " ++ flaw.message
  | .notInteger => "Input should be a valid integer"
  | .fractional => "Input should be a valid integer, got a number with a fractional part"
  | .notFinite => "Input should be a finite number"
  | .integerForm => "Input should be a valid integer, unable to parse string as an integer"
  | .integerSize => "Unable to parse input string as an integer, exceeded maximum size"
  | .notTruth => "Input should be a valid boolean"
  | .truthForm => "Input should be a valid boolean, unable to interpret input"
  | .notNumber => "Input should be a valid number"
  | .numberForm => "Input should be a valid number, unable to parse string as a number"
  | .notJson => "JSON decode error"

/-- A flaw and where it lies. -/
structure Issue where
  location : List Key
  flaw : Flaw
  deriving DecidableEq, Repr

/-- The place of an issue as text. -/
def Issue.place (issue : Issue) : String :=
  ".".intercalate (issue.location.map (·.text))

/-- An issue in a report.  The whole value as a place is not mentioned. -/
def Issue.render (issue : Issue) : String :=
  (if issue.location.isEmpty then "" else issue.place ++ "\n") ++
    "  " ++ issue.flaw.message ++ " [type=" ++ issue.flaw.code ++ "]"

/-- The report on the issues of a document. -/
def report (title : String) (issues : List Issue) : String :=
  "\n".intercalate
    ((toString issues.length ++
        (if issues.length == 1 then " validation error for " else " validation errors for ") ++
        title) :: issues.map (·.render))

end Soliscope.Schema
