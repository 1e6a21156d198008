import Soliscope.Schema.Field

/-! # Compiler output

The document that the compiler puts out, as far as it is used: problems, and the contracts of every
file by name.  Everything may be missing but what tells what a problem is.
-/

namespace Soliscope.Compiler

open Soliscope.Schema

/-- A place in a file. -/
structure SourceLocation where
  file : String
  start : Int
  stop : Int
  deriving DecidableEq, Repr

/-- Read a place. -/
def SourceLocation.read (origin : Origin) (title : String) : Reader SourceLocation :=
  document origin title fun fields =>
    SourceLocation.mk <$> required "file" text fields <*> required "start" integer fields <*>
      required "end" integer fields

/-- A place as a document. -/
def SourceLocation.toJson (location : SourceLocation) : Json :=
  .obj [("file", .str location.file), ("start", .int location.start), ("end", .int location.stop)]

/-- A problem as the compiler tells it. -/
structure OutputProblem where
  severity : String
  message : String
  formattedMessage : Option String
  sourceLocation : Option SourceLocation
  deriving DecidableEq, Repr

/-- Read a problem. -/
def OutputProblem.read : Reader OutputProblem :=
  document .document "SolcError" fun fields =>
    OutputProblem.mk <$> required "severity" text fields <*> required "message" text fields <*>
      defaultedAs "formattedMessage" "formatted_message" none (nullable text) fields <*>
      defaultedAs "sourceLocation" "source_location" none
        (nullable (SourceLocation.read .document "SolcSourceLocation")) fields

/-- Code as the compiler puts it out: hexadecimal digits. -/
structure OutputCode where
  object : String
  deriving DecidableEq, Repr

/-- Read code. -/
def OutputCode.read : Reader OutputCode :=
  document .document "SolcBytecode" fun fields =>
    OutputCode.mk <$> defaulted "object" "" text fields

/-- What is put out for the virtual machine. -/
structure OutputMachine where
  bytecode : Option OutputCode
  deployedBytecode : Option OutputCode
  gasEstimates : Option (List (String × Json))

/-- Read what is put out for the virtual machine. -/
def OutputMachine.read : Reader OutputMachine :=
  document .document "SolcEvm" fun fields =>
    OutputMachine.mk <$> defaulted "bytecode" none (nullable OutputCode.read) fields <*>
      defaultedAs "deployedBytecode" "deployed_bytecode" none (nullable OutputCode.read) fields <*>
      defaultedAs "gasEstimates" "gas_estimates" none (nullable (dictionary anything)) fields

/-- What is put out for a contract. -/
structure OutputContract where
  abi : List (List (String × Json))
  machine : Option OutputMachine

/-- Read what is put out for a contract. -/
def OutputContract.read : Reader OutputContract :=
  document .document "SolcContract" fun fields =>
    OutputContract.mk <$> defaulted "abi" [] (list (dictionary anything)) fields <*>
      defaulted "evm" none (nullable OutputMachine.read) fields

/-- The output of a run. -/
structure Output where
  problems : List OutputProblem
  contracts : List (String × List (String × OutputContract))

/-- Read the output of a run. -/
def Output.read : Reader Output :=
  document .document "SolcOutput" fun fields =>
    Output.mk <$> defaulted "errors" [] (list OutputProblem.read) fields <*>
      defaulted "contracts" [] (dictionary (dictionary OutputContract.read)) fields

/-- A problem as a document. -/
def OutputProblem.toJson (problem : OutputProblem) : Json :=
  .obj [
    ("severity", .str problem.severity),
    ("message", .str problem.message),
    ("formatted_message", Json.ofText? problem.formattedMessage),
    ("source_location", (problem.sourceLocation.map (·.toJson)).getD .null)]

/-- Code as a document. -/
def OutputCode.toJson (code : OutputCode) : Json :=
  .obj [("object", .str code.object)]

/-- What is put out for the virtual machine as a document. -/
def OutputMachine.toJson (machine : OutputMachine) : Json :=
  .obj [
    ("bytecode", (machine.bytecode.map (·.toJson)).getD .null),
    ("deployed_bytecode", (machine.deployedBytecode.map (·.toJson)).getD .null),
    ("gas_estimates", (machine.gasEstimates.map .obj).getD .null)]

/-- What is put out for a contract as a document. -/
def OutputContract.toJson (contract : OutputContract) : Json :=
  .obj [
    ("abi", .arr (contract.abi.map .obj)),
    ("evm", (contract.machine.map (·.toJson)).getD .null)]

/-- The output of a run as a document. -/
def Output.toJson (output : Output) : Json :=
  .obj [
    ("errors", .arr (output.problems.map (·.toJson))),
    ("contracts", .obj (output.contracts.map fun (file, contracts) =>
      (file, .obj (contracts.map fun (name, contract) => (name, contract.toJson)))))]

end Soliscope.Compiler
