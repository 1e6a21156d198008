import Soliscope.Compiler.Output
import Soliscope.Json.Display

/-! # Compilation results

Either there are errors and no artifacts, or there are artifacts for the contracts of the file that
was asked for.
-/

namespace Soliscope.Compiler

/-- The two kinds of diagnostics. -/
inductive Gravity where
  | error
  | warning
  deriving DecidableEq, Repr

/-- The name of a kind of diagnostics. -/
def Gravity.name : Gravity → String
  | .error => "error"
  | .warning => "warning"

/-- Everything that is not called an error is a warning. -/
def Gravity.ofSeverity (severity : String) : Gravity :=
  if severity == "error" then .error else .warning

/-- An error or a warning. -/
structure Diagnostic where
  gravity : Gravity
  message : String
  formattedMessage : Option String := none
  sourceLocation : Option SourceLocation := none
  deriving DecidableEq, Repr

/-- The diagnostic for a problem that the compiler tells. -/
def OutputProblem.diagnostic (problem : OutputProblem) : Diagnostic where
  gravity := .ofSeverity problem.severity
  message := problem.message
  formattedMessage := problem.formattedMessage
  sourceLocation := problem.sourceLocation

/-- Estimates of gas, each a text: of the creation and of the functions of a contract. -/
structure GasEstimates where
  creation : List (String × String)
  external : List (String × String)
  deriving DecidableEq, Repr

/-- What is kept of one contract, interface or library. -/
structure Artifact where
  contractName : String
  abi : List (List (String × Json))
  bytecode : String
  deployedBytecode : String
  gasEstimates : Option GasEstimates

/-- The result of a compilation. -/
structure Result where
  success : Bool
  contracts : List Artifact := []
  errors : List Diagnostic := []
  warnings : List Diagnostic := []

/-- Code in the form in which it is deployed; no code stays empty. -/
def hexCode (object : String) : String :=
  if object.isEmpty then "" else "0x" ++ object

/-- The code of an output section that may be missing. -/
def codeOf (code : Option OutputCode) : String :=
  hexCode ((code.map (·.object)).getD "")

/-- A section of gas estimates that is no dictionary, by its kind. -/
structure SectionFault where
  kind : String
  deriving DecidableEq, Repr

/-- A section of gas estimates as texts; a section that is missing or says nothing is empty. -/
def gasSection (estimates : List (String × Json)) (name : String) :
    Except SectionFault (List (String × String)) :=
  match estimates.lookup name with
  | none => .ok []
  | some value =>
    if value.isTruthy then
      match value with
      | .obj entries => .ok (entries.map fun (name, estimate) => (name, estimate.display))
      | _ => .error ⟨value.kindName⟩
    else .ok []

/-- Gas estimates as texts; none if nothing is estimated. -/
def gasEstimates : Option (List (String × Json)) → Except SectionFault (Option GasEstimates)
  | none => .ok none
  | some [] => .ok none
  | some estimates => do
    let creation ← gasSection estimates "creation"
    let external ← gasSection estimates "external"
    pure (some ⟨creation, external⟩)

/-- The artifact of a contract. -/
def artifact (name : String) (contract : OutputContract) : Except SectionFault Artifact := do
  let estimates ← gasEstimates (contract.machine.bind (·.gasEstimates))
  pure {
    contractName := name
    abi := contract.abi
    bytecode := codeOf (contract.machine.bind (·.bytecode))
    deployedBytecode := codeOf (contract.machine.bind (·.deployedBytecode))
    gasEstimates := estimates }

/-- The contracts that the compiler puts out for a file.  Only texts name files. -/
def Output.contractsOf (output : Output) (fileName : Json) : List (String × OutputContract) :=
  match fileName with
  | .str name => (output.contracts.lookup name).getD []
  | _ => []

end Soliscope.Compiler
