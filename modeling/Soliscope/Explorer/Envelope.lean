import Soliscope.Number.Written
import Soliscope.Schema.Field

/-! # Explorer documents

Every answer of an explorer is an envelope: a status, which is `1` for success, and a result whose
form depends on what was asked.  A source lookup gives a list of source entries.
-/

namespace Soliscope.Explorer

open Soliscope.Schema

/-- The envelope of an answer. -/
structure Envelope where
  status : String
  message : Option String
  result : Json

/-- A text, or a number as a text. -/
def textOrNumber : Reader String
  | .int value => .accepted (toString value)
  | .float value => .accepted (Number.valueText value)
  | value => text value

/-- Read an envelope. -/
def Envelope.read : Reader Envelope :=
  document .document "ExplorerResponse" fun fields =>
    Envelope.mk <$> required "status" textOrNumber fields <*>
      defaulted "message" none (nullable textOrNumber) fields <*>
      defaulted "result" .null anything fields

namespace Envelope

/-- The answer is a success. -/
def isOk (envelope : Envelope) : Bool :=
  envelope.status == "1"

/-- The result, if it is a text, and otherwise the empty text. -/
def resultText (envelope : Envelope) : String :=
  envelope.result.text?.getD ""

/-- The result is the list of records that it should be for a lookup. -/
def records (envelope : Envelope) : List Json :=
  match envelope.result with
  | .arr records => records
  | _ => []

/-- An envelope as a document. -/
def toJson (envelope : Envelope) : Json :=
  .obj [
    ("status", .str envelope.status),
    ("message", Json.ofText? envelope.message),
    ("result", envelope.result)]

end Envelope

/-- One record of a source lookup. -/
structure SourceEntry where
  sourceCode : String
  contractName : Option String
  compilerVersion : Option String
  deriving DecidableEq, Repr

/-- Read a record of a source lookup. -/
def SourceEntry.read : Reader SourceEntry :=
  document .document "ExplorerSourceEntry" fun fields =>
    SourceEntry.mk <$> defaultedAs "SourceCode" "source_code" "" text fields <*>
      defaultedAs "ContractName" "contract_name" none (nullable text) fields <*>
      defaultedAs "CompilerVersion" "compiler_version" none (nullable text) fields

/-- A record of a source lookup as a document. -/
def SourceEntry.toJson (entry : SourceEntry) : Json :=
  .obj [
    ("source_code", .str entry.sourceCode),
    ("contract_name", Json.ofText? entry.contractName),
    ("compiler_version", Json.ofText? entry.compilerVersion)]

end Soliscope.Explorer
