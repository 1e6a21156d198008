import Soliscope.Compression.Format
import Soliscope.Explorer.Header
import Soliscope.Explorer.Status
import Soliscope.Json.Reader
import Soliscope.Schema.Issue
import Soliscope.Url.Basic

/-! # What goes wrong in a call

A call may fail in ways that are expected: then it has a message for the caller.  Anything else
breaks it down.
-/

namespace Soliscope.Explorer

/-- Why a call gave nothing. -/
inductive CallFailure where
  | noAnswer (message : String)
  /-- Where to go is told by other characters than those of ASCII. -/
  | foreignLocation (run : Text.ForeignRun)
  | badContent (flaw : Compression.Flaw)
  /-- The address asked for does not tell where to go. -/
  | noScheme (url : String)
  | badLocation (flaw : Url.Flaw)
  | badHost (flaw : Url.NameFlaw)
  | status (error : StatusError)
  | notJson (error : Json.DocumentError)
  /-- The document of the given title has another form. -/
  | otherForm (title : String) (issues : List Schema.Issue)
  deriving DecidableEq, Repr

/-- The text of a failure. -/
def CallFailure.message : CallFailure → String
  | .noAnswer message => message
  | .foreignLocation run => run.message
  | .badContent flaw => flaw.message
  | .noScheme url => "unknown url type: " ++ Text.quoted url
  | .badLocation flaw => "Invalid URL in location header: " ++ flaw.message ++ "."
  | .badHost flaw => flaw.message
  | .status error => error.message
  | .notJson error => error.message
  | .otherForm title issues => Schema.report title issues

/-- What breaks a call down. -/
inductive Breakdown where
  | badUrl (flaw : Url.Flaw)
  | deepDocument (container : Json.Container)
  | roundTrip (message : String)
  /-- A number of runs of a kind that has no order. -/
  | unorderedRuns (kind : String)
  /-- A contract address of a kind that is no text. -/
  | addressKind (kind : String)
  /-- An integer that has to be shown has too many digits. -/
  | longInteger
  deriving DecidableEq, Repr

/-- The text of a breakdown. -/
def Breakdown.message : Breakdown → String
  | .badUrl flaw => flaw.message
  | .deepDocument container => (Json.ReadError.tooDeep container).message
  | .roundTrip message => message
  | .unorderedRuns kind => "'<=' not supported between instances of '" ++ kind ++ "' and 'int'"
  | .addressKind kind => "expected string or bytes-like object, got '" ++ kind ++ "'"
  | .longInteger =>
    "Exceeds the limit (" ++ toString Json.integerDigitLimit ++
      " digits) for integer string conversion; " ++
      "use sys.set_int_max_str_digits() to increase the limit"

/-- A call that failed or broke down. -/
inductive Setback where
  | failed (failure : CallFailure)
  | brokeDown (breakdown : Breakdown)
  deriving DecidableEq, Repr

end Soliscope.Explorer
