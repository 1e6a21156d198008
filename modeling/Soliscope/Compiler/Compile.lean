import Soliscope.Argument
import Soliscope.Compiler.Input
import Soliscope.Compiler.Result
import Soliscope.Json.Reader
import Soliscope.Settings.Basic
import Soliscope.Text.Search
import Soliscope.Trace

/-! # Compilation

One run of the compiler for one source file.  A source that imports packages is not compiled at all,
because a single file cannot be completed from outside.  A run that gives no usable output is
reported as a single error.
-/

namespace Soliscope.Compiler

open Soliscope.Text

/-- The beginnings of import paths that name packages. -/
def packageMarkers : List String := ["@openzeppelin/"]

/-- A source imports packages. -/
def importsPackages (source : String) : Bool :=
  packageMarkers.any (contains source)

/-- The error for a source that imports packages. -/
def packageError : Diagnostic where
  gravity := .error
  message :=
    "This contract uses OpenZeppelin imports. To compile it, use the Hardhat CLI: " ++
      "npx hardhat compile"

/-- The advice for a source that imports packages. -/
def packageHint : Diagnostic where
  gravity := .warning
  message :=
    "Tip: flatten the contract and its imports into a single file, " ++
      "or start from a precompiled template."

/-- The result for a source that imports packages. -/
def packageResult : Result where
  success := false
  errors := [packageError]
  warnings := [packageHint]

/-- Why a run gave no usable output. -/
inductive RunFailure where
  | notFound (binary : String)
  | timedOut (seconds : Float)
  | undecodable (reason : String)
  | refused (reason : String)
  /-- Nothing on the output stream; the error stream, if it says anything. -/
  | noOutput (errorOutput : String) (exitCode : Int)
  | notJson (error : Json.ReadError)
  | otherForm (issueCount : Nat)

/-- The text of a failure. -/
def RunFailure.message : RunFailure → String
  | .notFound binary => "solc binary not found: " ++ binary
  | .timedOut seconds => "solc timed out after " ++ Number.briefText seconds ++ " seconds"
  | .undecodable reason => "undecodable solc output: " ++ reason
  | .refused reason => reason
  | .noOutput errorOutput exitCode =>
    if errorOutput.isEmpty then
      "solc exited with code " ++ toString exitCode ++ " and no output"
    else errorOutput
  | .notJson error => "invalid JSON from solc: " ++ error.message
  | .otherForm issueCount => "unexpected solc output: " ++ toString issueCount ++ " schema errors"

/-- What breaks a compilation down, so that there is no result. -/
inductive Breakdown where
  /-- Running the compiler broke down. -/
  | running (message : String)
  /-- The output holds an integer with too many digits. -/
  | longInteger (digits : Nat)
  /-- The output holds too many containers in each other. -/
  | tooDeep (container : Json.Container)
  /-- A section of gas estimates is no dictionary. -/
  | gasSection (fault : SectionFault)
  /-- A file name of a kind that names nothing. -/
  | nameKind (kind : String)
  deriving DecidableEq, Repr

/-- The text of a breakdown. -/
def Breakdown.message : Breakdown → String
  | .running message => message
  | .longInteger digits => (Json.ReadError.longInteger digits).message
  | .tooDeep container => (Json.ReadError.tooDeep container).message
  | .gasSection fault => "'" ++ fault.kind ++ "' object has no attribute 'items'"
  | .nameKind kind => "unhashable type: '" ++ kind ++ "'"

/-- The output of a run as a document, or why it is of no use. -/
def readOutput (output : String) : Except Breakdown (Except RunFailure Output) :=
  match Json.read output with
  | .error (.longInteger digits) => .error (.longInteger digits)
  | .error (.tooDeep container) => .error (.tooDeep container)
  | .error error => .ok (.error (.notJson error))
  | .ok value =>
    match Output.read value with
    | .accepted output => .ok (.ok output)
    | .refused issues => .ok (.error (.otherForm issues.length))

/-- What a run gives. -/
def outputOf (invocation : Invocation) (binary : String) :
    RunOutcome → Except Breakdown (Except RunFailure Output)
  | .finished output errorOutput exitCode =>
    if (trimBlanks output).isEmpty then
      .ok (.error (.noOutput (trimBlanks (errorOutput.getD "")) exitCode))
    else readOutput output
  | .notFound => .ok (.error (.notFound binary))
  | .timedOut => .ok (.error (.timedOut invocation.timeout))
  | .undecodable reason => .ok (.error (.undecodable reason))
  | .refused reason => .ok (.error (.refused reason))
  | .brokeDown message => .error (.running message)

/-- The output of a run escapes half a surrogate pair. -/
def RunOutcome.escapesHalf : RunOutcome → Bool
  | .finished output _ _ => Json.escapesHalf 0 output.toList
  | _ => false

/-- The run for a source file. -/
def invocation (settings : Settings) (source fileName : String) : Invocation where
  command := [settings.solcBinary, "--standard-json"]
  input := (standardInput source fileName).render
  timeout := settings.solcTimeout

/-- The result for a run that gave no usable output. -/
def failedResult (failure : RunFailure) : Result where
  success := false
  errors := [{ gravity := .error, message := "Compilation failed: " ++ failure.message }]

/-- The result for output that tells errors, or else for its artifacts. -/
def resultOf (fileName : Argument) (output : Output) : Traced (Except Breakdown Result) :=
  let diagnostics := output.problems.map (·.diagnostic)
  let errors := diagnostics.filter (·.gravity == .error)
  let warnings := diagnostics.filter (·.gravity != .error)
  if errors.isEmpty then
    let compiled := output.contractsOf fileName.value
    match compiled.mapM fun (name, contract) => artifact name contract with
    | .error fault => pure (.error (.gasSection fault))
    | .ok contracts => do
      record .info ("Compiled " ++ fileName.shown ++ ": " ++ toString contracts.length ++
        " contracts, " ++ toString warnings.length ++ " warnings")
      pure (.ok { success := !contracts.isEmpty, contracts := contracts, warnings := warnings })
  else do
    record .info ("Compilation of " ++ fileName.shown ++ " failed with " ++
      toString errors.length ++ " errors")
    pure (.ok { success := false, errors := errors, warnings := warnings })

/-- Run the compiler for a source file of the given field name, and read what it puts out. -/
def compileAs (settings : Settings) (compiler : Invocation → RunOutcome) (source : String)
    (fileName : Argument) (fieldName : String) : Traced (Except Breakdown Result) := do
  let run := invocation settings source fieldName
  let outcome ← runCompiler compiler run
  match outputOf run settings.solcBinary outcome with
  | .error breakdown => pure (.error breakdown)
  | .ok (.error failure) => do
    record .error ("Compiler invocation failed: " ++ failure.message)
    pure (.ok (failedResult failure))
  | .ok (.ok output) => resultOf fileName output

/-- Compile a source file. -/
def compile (settings : Settings) (compiler : Invocation → RunOutcome) (source : String)
    (fileName : Argument) : Traced (Except Breakdown Result) :=
  if importsPackages source then do
    record .info "Skipping compilation: source references external package imports"
    pure (.ok packageResult)
  else
    match fileName.fieldName? with
    | none => pure (.error (.nameKind fileName.value.kindName))
    | some fieldName => compileAs settings compiler source fileName fieldName

end Soliscope.Compiler
