import Soliscope.Abi.SolidityType
import Soliscope.Compiler.Input
import Soliscope.Schema.Field
import Soliscope.Text.Identifier

/-! # Request documents

The bodies that the server takes.  Every document has a reader, which refuses what has not the right
form, and is a JSON value again with `toJson`.
-/

namespace Soliscope.Web

open Soliscope.Schema Soliscope.Text

/-- A Solidity source. -/
structure SourceRequest where
  sourceCode : String
  deriving DecidableEq, Repr

/-- The greatest size of a source. -/
def sourceLimit : Nat := 500000

/-- The source in a request. -/
def sourceField (fields : Fields) : Validation String :=
  required "source_code" (limitedText { most := some sourceLimit }) fields

/-- Read a request with a source. -/
def SourceRequest.read (origin : Origin) : Reader SourceRequest :=
  document origin "SourceRequest" fun fields => SourceRequest.mk <$> sourceField fields

/-- A request with a source as a document. -/
def SourceRequest.toJson (request : SourceRequest) : Json :=
  .obj [("source_code", .str request.sourceCode)]

/-- A Solidity source and the name of its file. -/
structure CompileRequest where
  sourceCode : String
  fileName : String
  deriving DecidableEq, Repr

/-- A character of a file name. -/
def isFileNamePart (c : Char) : Bool :=
  isIdentifierPart c || c == '.' || c == '-' || c == '/'

/-- The form of a file name: some characters, and the ending for Solidity files. -/
def fileNameForm : TextForm where
  pattern := "^[\\w.\\-/]+\\.sol$"
  accepts := fun name =>
    let ending := ".sol".toList
    ending.length < name.length && ending.isSuffixOf name && name.all isFileNamePart

/-- Read a compilation request. -/
def CompileRequest.read (origin : Origin) : Reader CompileRequest :=
  document origin "CompileRequest" fun fields =>
    CompileRequest.mk <$> sourceField fields <*>
      defaulted "file_name" Compiler.defaultFileName
        (limitedText { least := some 1, most := some 255, form := some fileNameForm }) fields

/-- A compilation request as a document. -/
def CompileRequest.toJson (request : CompileRequest) : Json :=
  .obj [("source_code", .str request.sourceCode), ("file_name", .str request.fileName)]

/-- The form of a name. -/
def nameForm : TextForm where
  pattern := "^[A-Za-z_]\\w*$"
  accepts := isIdentifier

/-- The form of a name that may be empty. -/
def optionalNameForm : TextForm where
  pattern := "^([A-Za-z_]\\w*)?$"
  accepts := fun name => name.isEmpty || isIdentifier name

/-- The fields of an object that are not among the named ones. -/
def otherFields (names : List String) (fields : Fields) : Fields :=
  fields.filter fun field => !names.contains field.1

/-- An input or output of an ABI entry.  Further fields are kept. -/
structure AbiParameter where
  name : String
  type : String
  others : Fields

/-- Read an input or output of an ABI entry. -/
def AbiParameter.read (origin : Origin) : Reader AbiParameter :=
  document origin "AbiParam" fun fields =>
    AbiParameter.mk <$>
      defaulted "name" "" (limitedText { form := some optionalNameForm }) fields <*>
      required "type" (limitedText { least := some 1 }) fields <*>
      pure (otherFields ["name", "type"] fields)

/-- An input or output as a document. -/
def AbiParameter.toJson (parameter : AbiParameter) : Json :=
  .obj ([("name", .str parameter.name), ("type", .str parameter.type)] ++ parameter.others)

/-- The entry type of functions. -/
def functionType : String := "function"

/-- An ABI entry.  Further fields are kept. -/
structure AbiEntry where
  type : String
  name : Option String
  inputs : List AbiParameter
  outputs : List AbiParameter
  others : Fields

/-- The fields of an ABI entry that are looked at. -/
def AbiEntry.fieldNames : List String := ["type", "name", "inputs", "outputs"]

/-- An entry is complete: a function has a name. -/
def AbiEntry.isComplete (entry : AbiEntry) : Bool :=
  entry.type != functionType || (entry.name.getD "") != ""

/-- Read an ABI entry. -/
def AbiEntry.read (origin : Origin) : Reader AbiEntry :=
  document origin "AbiEntry" fun fields =>
    let entry := AbiEntry.mk <$> defaulted "type" functionType text fields <*>
      defaulted "name" none (nullable (limitedText { form := some nameForm })) fields <*>
      defaulted "inputs" [] (list (AbiParameter.read origin)) fields <*>
      defaulted "outputs" [] (list (AbiParameter.read origin)) fields <*>
      pure (otherFields AbiEntry.fieldNames fields)
    entry.andThen fun entry =>
      if entry.isComplete then .accepted entry
      else .flawed (.refused "function entries need a name")

/-- An ABI entry as a document. -/
def AbiEntry.toJson (entry : AbiEntry) : Json :=
  .obj ([("type", .str entry.type), ("name", Json.ofText? entry.name),
    ("inputs", .arr (entry.inputs.map (·.toJson))),
    ("outputs", .arr (entry.outputs.map (·.toJson)))] ++ entry.others)

/-- A contract whose interface is asked for in a language. -/
structure TypesRequest where
  contractName : String
  abi : List AbiEntry
  language : Abi.Language

/-- Read a request for an interface. -/
def TypesRequest.read (origin : Origin) : Reader TypesRequest :=
  document origin "TypesRequest" fun fields =>
    TypesRequest.mk <$> required "contract_name" (limitedText { form := some nameForm }) fields <*>
      required "abi" (list (AbiEntry.read origin)) fields <*>
      defaulted "language" Abi.Language.typescript
        (choice (Abi.Language.all.map fun language => (language.name, language))) fields

/-- A request for an interface as a document. -/
def TypesRequest.toJson (request : TypesRequest) : Json :=
  .obj [
    ("contract_name", .str request.contractName),
    ("abi", .arr (request.abi.map (·.toJson))),
    ("language", .str request.language.name)]

/-- A deployed contract that is to be verified. -/
structure VerifyRequest where
  chainId : Int
  contractAddress : String
  sourceCode : String
  contractName : String
  compilerVersion : String
  optimizationUsed : Bool
  runs : Int
  constructorArguments : Option String
  apiKey : Option String
  deriving DecidableEq, Repr

/-- A text that is not empty. -/
def someText : Reader String :=
  limitedText { least := some 1 }

/-- Read a verification request. -/
def VerifyRequest.read (origin : Origin) : Reader VerifyRequest :=
  document origin "VerifyRequest" fun fields =>
    VerifyRequest.mk <$> required "chain_id" integer fields <*>
      required "contract_address" text fields <*>
      required "source_code" someText fields <*>
      required "contract_name" someText fields <*>
      required "compiler_version" someText fields <*>
      defaulted "optimization_used" true truth fields <*>
      defaulted "runs" 200 integer fields <*>
      defaulted "constructor_arguments" none (nullable text) fields <*>
      defaulted "api_key" none (nullable text) fields

/-- A verification request as a document. -/
def VerifyRequest.toJson (request : VerifyRequest) : Json :=
  .obj [
    ("chain_id", .int request.chainId),
    ("contract_address", .str request.contractAddress),
    ("source_code", .str request.sourceCode),
    ("contract_name", .str request.contractName),
    ("compiler_version", .str request.compilerVersion),
    ("optimization_used", .bool request.optimizationUsed),
    ("runs", .int request.runs),
    ("constructor_arguments", Json.ofText? request.constructorArguments),
    ("api_key", Json.ofText? request.apiKey)]

end Soliscope.Web
