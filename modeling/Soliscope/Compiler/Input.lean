import Soliscope.Json.Writer

/-! # Compiler input

The document that the compiler is given for a single source file.
-/

namespace Soliscope.Compiler

/-- The name of the source file unless another is given. -/
def defaultFileName : String := "Contract.sol"

/-- How often the optimizer expects the code to run. -/
def optimizerRuns : Int := 200

/-- What the compiler is asked to put out for every contract. -/
def outputSelection : List String :=
  ["abi", "evm.bytecode", "evm.deployedBytecode", "evm.gasEstimates"]

/-- The input for one file. -/
def standardInput (source fileName : String) : Json :=
  .obj [
    ("language", .str "Solidity"),
    ("sources", .obj [(fileName, .obj [("content", .str source)])]),
    ("settings", .obj [
      ("optimizer", .obj [("enabled", .bool true), ("runs", .int optimizerRuns)]),
      ("outputSelection", .obj [("*", .obj [("*", Json.texts outputSelection)])])])]

end Soliscope.Compiler
