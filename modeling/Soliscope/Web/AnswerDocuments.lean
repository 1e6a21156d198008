import Soliscope.Compiler.Result
import Soliscope.Explorer.Verification
import Soliscope.Schema.Time
import Soliscope.Scan.Report
import Soliscope.Schema.Field

/-! # Answer documents

The bodies that the server answers with.  Each document has a reader, for those who receive it, and
is made from the result of a service.
-/

namespace Soliscope.Web

open Soliscope.Schema

/-- A finding. -/
structure FindingAnswer where
  id : String
  severity : String
  title : String
  description : String
  line : Int
  recommendation : String
  category : String
  deriving DecidableEq, Repr

/-- The answer for a finding. -/
def FindingAnswer.ofFinding (finding : Scan.Finding) : FindingAnswer where
  id := finding.id
  severity := finding.severity.name
  title := finding.title
  description := finding.description
  line := finding.line
  recommendation := finding.recommendation
  category := finding.category

/-- Read a finding. -/
def FindingAnswer.read : Reader FindingAnswer :=
  document .request "FindingResponse" fun fields =>
    FindingAnswer.mk <$> required "id" text fields <*> required "severity" text fields <*>
      required "title" text fields <*> required "description" text fields <*>
      required "line" integer fields <*> required "recommendation" text fields <*>
      required "category" text fields

/-- A finding as a document. -/
def FindingAnswer.toJson (answer : FindingAnswer) : Json :=
  .obj [
    ("id", .str answer.id), ("severity", .str answer.severity), ("title", .str answer.title),
    ("description", .str answer.description), ("line", .int answer.line),
    ("recommendation", .str answer.recommendation), ("category", .str answer.category)]

/-- A report on a scan, with the time of the scan. -/
structure ScanAnswer where
  score : Int
  scoreLabel : String
  findings : List FindingAnswer
  scannedAt : Json
  gasOptimizationCount : Int
  codeQualityPercent : Int
  severityCounts : List (String × Int)

/-- The answer for a report. -/
def ScanAnswer.ofReport (report : Scan.Report) (time : String) : ScanAnswer where
  score := report.score
  scoreLabel := Scan.scoreLabel report.score
  findings := report.findings.map .ofFinding
  scannedAt := .str time
  gasOptimizationCount := report.gasOptimizationCount
  codeQualityPercent := report.codeQuality
  severityCounts := report.severityCounts.map fun (severity, count) => (severity.name, count)

/-- Read a report on a scan. -/
def ScanAnswer.read : Reader ScanAnswer :=
  document .document "ScanResponse" fun fields =>
    ScanAnswer.mk <$> required "score" integer fields <*> required "score_label" text fields <*>
      required "findings" (list FindingAnswer.read) fields <*>
      required "scanned_at" time fields <*>
      required "gas_optimization_count" integer fields <*>
      required "code_quality_percent" integer fields <*>
      required "severity_counts" (dictionary integer) fields

/-- A report on a scan as a document. -/
def ScanAnswer.toJson (answer : ScanAnswer) : Json :=
  .obj [
    ("score", .int answer.score), ("score_label", .str answer.scoreLabel),
    ("findings", .arr (answer.findings.map (·.toJson))), ("scanned_at", answer.scannedAt),
    ("gas_optimization_count", .int answer.gasOptimizationCount),
    ("code_quality_percent", .int answer.codeQualityPercent),
    ("severity_counts", .obj (answer.severityCounts.map fun (name, count) => (name, .int count)))]

/-- The outcome of structural checks. -/
structure CheckAnswer where
  valid : Bool
  errors : List String
  deriving DecidableEq, Repr

/-- Read the outcome of structural checks. -/
def CheckAnswer.read : Reader CheckAnswer :=
  document .document "SyntaxCheckResponse" fun fields =>
    CheckAnswer.mk <$> required "valid" truth fields <*> required "errors" (list text) fields

/-- The outcome of structural checks as a document. -/
def CheckAnswer.toJson (answer : CheckAnswer) : Json :=
  .obj [("valid", .bool answer.valid), ("errors", Json.texts answer.errors)]

/-- Read a place in a file. -/
def readLocation : Reader Compiler.SourceLocation :=
  Compiler.SourceLocation.read .request "SourceLocationResponse"

/-- Read an error or a warning. -/
def readDiagnostic : Reader Compiler.Diagnostic :=
  document .request "DiagnosticResponse" fun fields =>
    Compiler.Diagnostic.mk <$>
      required "severity"
        (choice [(Compiler.Gravity.error.name, .error), (Compiler.Gravity.warning.name, .warning)])
        fields <*>
      required "message" text fields <*>
      defaulted "formatted_message" none (nullable text) fields <*>
      defaulted "source_location" none (nullable readLocation) fields

/-- An error or a warning as a document. -/
def diagnosticToJson (diagnostic : Compiler.Diagnostic) : Json :=
  .obj [
    ("severity", .str diagnostic.gravity.name), ("message", .str diagnostic.message),
    ("formatted_message", Json.ofText? diagnostic.formattedMessage),
    ("source_location", (diagnostic.sourceLocation.map (·.toJson)).getD .null)]

/-- Read gas estimates. -/
def readGasEstimates : Reader Compiler.GasEstimates :=
  document .request "GasEstimatesResponse" fun fields =>
    Compiler.GasEstimates.mk <$> required "creation" (dictionary text) fields <*>
      required "external" (dictionary text) fields

/-- Gas estimates as a document. -/
def gasEstimatesToJson (estimates : Compiler.GasEstimates) : Json :=
  let entries (values : List (String × String)) : Json :=
    .obj (values.map fun (name, value) => (name, .str value))
  .obj [("creation", entries estimates.creation), ("external", entries estimates.external)]

/-- Read an artifact. -/
def readArtifact : Reader Compiler.Artifact :=
  document .request "ArtifactResponse" fun fields =>
    Compiler.Artifact.mk <$> required "contract_name" text fields <*>
      required "abi" (list (dictionary anything)) fields <*>
      required "bytecode" text fields <*> required "deployed_bytecode" text fields <*>
      defaulted "gas_estimates" none (nullable readGasEstimates) fields

/-- An artifact as a document. -/
def artifactToJson (artifact : Compiler.Artifact) : Json :=
  .obj [
    ("contract_name", .str artifact.contractName), ("abi", .arr (artifact.abi.map .obj)),
    ("bytecode", .str artifact.bytecode), ("deployed_bytecode", .str artifact.deployedBytecode),
    ("gas_estimates", (artifact.gasEstimates.map gasEstimatesToJson).getD .null)]

/-- The outcome of a compilation, with the names of the contracts and the interface of the first. -/
structure CompileAnswer where
  success : Bool
  contracts : List Compiler.Artifact
  errors : List Compiler.Diagnostic
  warnings : List Compiler.Diagnostic
  contractNames : List String
  typescriptInterface : Option String

/-- Read the outcome of a compilation. -/
def CompileAnswer.read : Reader CompileAnswer :=
  document .document "CompileResponse" fun fields =>
    CompileAnswer.mk <$> required "success" truth fields <*>
      required "contracts" (list readArtifact) fields <*>
      required "errors" (list readDiagnostic) fields <*>
      required "warnings" (list readDiagnostic) fields <*>
      required "contract_names" (list text) fields <*>
      defaulted "typescript_interface" none (nullable text) fields

/-- The outcome of a compilation as a document. -/
def CompileAnswer.toJson (answer : CompileAnswer) : Json :=
  .obj [
    ("success", .bool answer.success), ("contracts", .arr (answer.contracts.map artifactToJson)),
    ("errors", .arr (answer.errors.map diagnosticToJson)),
    ("warnings", .arr (answer.warnings.map diagnosticToJson)),
    ("contract_names", Json.texts answer.contractNames),
    ("typescript_interface", Json.ofText? answer.typescriptInterface)]

/-- An interface in writing. -/
structure TypesAnswer where
  source : String
  deriving DecidableEq, Repr

/-- Read an interface in writing. -/
def TypesAnswer.read : Reader TypesAnswer :=
  document .document "TypesResponse" fun fields => TypesAnswer.mk <$> required "source" text fields

/-- An interface in writing as a document. -/
def TypesAnswer.toJson (answer : TypesAnswer) : Json :=
  .obj [("source", .str answer.source)]

/-- A chain whose contracts can be verified. -/
structure NetworkAnswer where
  chainId : Int
  name : String
  api : String
  explorer : String
  deriving DecidableEq, Repr

/-- The answer for an endpoint whose chain has a number. -/
def NetworkAnswer.ofEndpoint? (endpoint : Explorer.Endpoint) : Option NetworkAnswer :=
  match endpoint.chain with
  | .number chainId =>
    some ⟨chainId, endpoint.displayName, endpoint.apiUrl, endpoint.explorerUrl⟩
  | _ => none

/-- Read a chain. -/
def NetworkAnswer.read : Reader NetworkAnswer :=
  document .document "NetworkResponse" fun fields =>
    NetworkAnswer.mk <$> required "chain_id" integer fields <*> required "name" text fields <*>
      required "api" text fields <*> required "explorer" text fields

/-- A chain as a document. -/
def NetworkAnswer.toJson (answer : NetworkAnswer) : Json :=
  .obj [
    ("chain_id", .int answer.chainId), ("name", .str answer.name), ("api", .str answer.api),
    ("explorer", .str answer.explorer)]

/-- Read the outcome of a submission. -/
def readSubmitResult : Reader Explorer.SubmitResult :=
  document .request "VerifySubmitResponse" fun fields =>
    Explorer.SubmitResult.mk <$> required "success" truth fields <*>
      required "message" text fields <*> defaulted "job_id" none (nullable text) fields <*>
      defaulted "explorer_url" none (nullable text) fields

/-- The outcome of a submission as a document. -/
def submitResultToJson (result : Explorer.SubmitResult) : Json :=
  .obj [
    ("success", .bool result.success), ("message", .str result.message),
    ("job_id", Json.ofText? result.jobId), ("explorer_url", Json.ofText? result.explorerUrl)]

/-- The outcome of a poll. -/
structure StatusAnswer where
  status : String
  message : String
  deriving DecidableEq, Repr

/-- The answer for the outcome of a poll. -/
def StatusAnswer.ofResult (result : Explorer.StatusResult) : StatusAnswer :=
  ⟨result.status.name, result.message⟩

/-- Read the outcome of a poll. -/
def StatusAnswer.read : Reader StatusAnswer :=
  document .document "VerifyStatusResponse" fun fields =>
    StatusAnswer.mk <$> required "status" text fields <*> required "message" text fields

/-- The outcome of a poll as a document. -/
def StatusAnswer.toJson (answer : StatusAnswer) : Json :=
  .obj [("status", .str answer.status), ("message", .str answer.message)]

/-- Read the outcome of a lookup. -/
def readSourceResult : Reader Explorer.SourceResult :=
  document .request "SourceCheckResponse" fun fields =>
    Explorer.SourceResult.mk <$> required "verified" truth fields <*>
      defaulted "source_code" none (nullable text) fields

/-- The outcome of a lookup as a document. -/
def sourceResultToJson (result : Explorer.SourceResult) : Json :=
  .obj [("verified", .bool result.verified), ("source_code", Json.ofText? result.sourceCode)]

end Soliscope.Web
