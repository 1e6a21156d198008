import Soliscope.Abi.SolidityType
import Soliscope.Json.Display

/-! # Interfaces from ABIs

An ABI is a list of entries, of which those of type `function` become the methods of an interface in
the chosen language.  The ABI may be any JSON value; what keeps it from being used is a fault.
Entries are looked at in two passes: first the functions are selected, then each becomes a method,
parameters before results and results before the name.
-/

namespace Soliscope.Abi

/-- What keeps an ABI from being used.  Kinds of values are given by name. -/
inductive Fault where
  /-- Something that should be a list holds no items at all. -/
  | notIterable (kind : String)
  /-- An entry or parameter is no dictionary. -/
  | notDictionary (kind : String)
  /-- A field that is needed is missing. -/
  | missingField (name : String)
  /-- A type is no text. -/
  | typeNotText (kind : String)
  /-- A type has too many array suffixes. -/
  | typeTooDeep
  /-- A result is of a kind without fields. -/
  | resultWithoutFields (kind : String)
  /-- A result is a text. -/
  | resultIsText
  /-- A result is a list. -/
  | resultIsList
  /-- A name is of a kind that is no word of any language. -/
  | nameNotWord (kind : String)
  | unsupportedLanguage (language : String)
  deriving DecidableEq, Repr

/-- The text of a fault. -/
def Fault.message : Fault → String
  | .notIterable kind => "'" ++ kind ++ "' object is not iterable"
  | .notDictionary kind => "'" ++ kind ++ "' object has no attribute 'get'"
  | .missingField name => Text.quoted name
  | .typeNotText kind => "'" ++ kind ++ "' object has no attribute 'endswith'"
  | .typeTooDeep => "maximum recursion depth exceeded while calling a Python object"
  | .resultWithoutFields kind => "'" ++ kind ++ "' object is not subscriptable"
  | .resultIsText => "string indices must be integers, not 'str'"
  | .resultIsList => "list indices must be integers or slices, not str"
  | .nameNotWord kind => "unhashable type: '" ++ kind ++ "'"
  | .unsupportedLanguage language => "Unsupported language: " ++ language

/-- The items of a value: the items of a list, the names of a dictionary, the characters of a
text. -/
def items : Json → Except Fault (List Json)
  | .arr items => .ok items
  | .obj fields => .ok (fields.map fun field => .str field.1)
  | .str value => .ok (value.toList.map fun c => .str (String.singleton c))
  | value => .error (.notIterable value.kindName)

/-- The items of a field of an entry; a field that is missing or says nothing has none. -/
def fieldItems (fields : List (String × Json)) (name : String) : Except Fault (List Json) :=
  match fields.lookup name with
  | none => .ok []
  | some value => if value.isTruthy then items value else .ok []

/-- The fields of an entry or a parameter. -/
def fieldsOf : Json → Except Fault (List (String × Json))
  | .obj fields => .ok fields
  | value => .error (.notDictionary value.kindName)

/-- A field that has to be there. -/
def neededField (fields : List (String × Json)) (name : String) : Except Fault Json :=
  match fields.lookup name with
  | some value => .ok value
  | none => .error (.missingField name)

/-- The words that cannot be names in Python. -/
def pythonKeywords : List String := [
  "False", "None", "True", "and", "as", "assert", "async", "await", "break", "class", "continue",
  "def", "del", "elif", "else", "except", "finally", "for", "from", "global", "if", "import", "in",
  "is", "lambda", "nonlocal", "not", "or", "pass", "raise", "return", "try", "while", "with",
  "yield"]

/-- The name of a method or parameter in a language.  In Python a keyword gets an underscore. -/
def Language.identifier : Language → Json → Except Fault String
  | .typescript, name => .ok name.display
  | .python, .str name => .ok (if pythonKeywords.contains name then name ++ "_" else name)
  | .python, .arr items => .error (.nameNotWord (Json.arr items).kindName)
  | .python, .obj fields => .error (.nameNotWord (Json.obj fields).kindName)
  | .python, name => .ok name.display

/-- The name of a Solidity type that is given by a value, where a number of calls are under way. -/
def typeNameOf (language : Language) (calls : Nat) : Json → Except Fault String
  | .str solidityType =>
    if depthLimit calls ≤ arrayDepth solidityType then .error .typeTooDeep
    else .ok (language.typeName solidityType)
  | value => .error (.typeNotText value.kindName)

/-- The type given in the field `type`. -/
def typeOf (language : Language) (calls : Nat) (fields : List (String × Json)) :
    Except Fault String := do
  typeNameOf language calls (← neededField fields "type")

/-- What a type in an ABI is the type of. -/
inductive Role where
  | input
  | output
  deriving DecidableEq, Repr

/-- The calls under way around that of a type, from the one that writes an interface on: that one,
the one that writes it in the language, and the one that goes through a list.  In TypeScript the
inputs are gone through while they are joined, which is a call of its own. -/
def Language.callsAround : Language → Role → Nat
  | .typescript, .input => 4
  | _, _ => 3

/-- A parameter: its name and its type. -/
structure Parameter where
  name : String
  type : String
  deriving DecidableEq, Repr

/-- The name given to a parameter, or one made from its position. -/
def parameterName (fields : List (String × Json)) (position : Nat) : Json :=
  let unnamed : Json := .str ("arg" ++ toString position)
  match fields.lookup "name" with
  | some name => if name.isTruthy then name else unnamed
  | none => unnamed

/-- The parameter that an item of `inputs` stands for. -/
def Parameter.ofJson (language : Language) (calls position : Nat) (value : Json) :
    Except Fault Parameter := do
  let fields ← fieldsOf value
  let name ← language.identifier (parameterName fields position)
  let type ← typeOf language (calls + language.callsAround .input) fields
  pure ⟨name, type⟩

/-- The type that an item of `outputs` stands for. -/
def resultType (language : Language) (calls : Nat) : Json → Except Fault String
  | .obj fields => typeOf language (calls + language.callsAround .output) fields
  | .str _ => .error .resultIsText
  | .arr _ => .error .resultIsList
  | value => .error (.resultWithoutFields value.kindName)

/-- A method of an interface, its names and types in the words of a language. -/
structure Method where
  name : String
  parameters : List Parameter
  results : List String
  deriving DecidableEq, Repr

/-- The method that a function entry stands for. -/
def Method.ofEntry (language : Language) (calls : Nat) (fields : List (String × Json)) :
    Except Fault Method := do
  let inputs ← fieldItems fields "inputs"
  let parameters ← inputs.zipIdx.mapM fun (value, position) =>
    Parameter.ofJson language calls position value
  let outputs ← fieldItems fields "outputs"
  let results ← outputs.mapM (resultType language calls)
  let name ← neededField fields "name"
  let name ← language.identifier name
  pure ⟨name, parameters, results⟩

/-- An entry is of type `function`. -/
def isFunction (fields : List (String × Json)) : Bool :=
  match fields.lookup "type" with
  | some (.str type) => type == "function"
  | _ => false

/-- The fields of the function entries of an ABI. -/
def functions (entries : List Json) : Except Fault (List (List (String × Json))) := do
  let entries ← entries.mapM fieldsOf
  pure (entries.filter isFunction)

/-- The methods of an ABI. -/
def methods (language : Language) (calls : Nat) (abi : List Json) :
    Except Fault (List Method) := do
  (← functions abi).mapM (Method.ofEntry language calls)

/-- A parameter in writing. -/
def Parameter.render (parameter : Parameter) : String :=
  parameter.name ++ ": " ++ parameter.type

/-- The result of a method in writing: nothing, one type, or several in brackets. -/
def renderResults (nothing opening closing : String) : List String → String
  | [] => nothing
  | [single] => single
  | several => opening ++ ", ".intercalate several ++ closing

/-- The line of a method. -/
def Method.render : Language → Method → String
  | .typescript, method =>
    "  " ++ method.name ++ "(" ++ ", ".intercalate (method.parameters.map (·.render)) ++
      "): Promise<" ++ renderResults "void" "[" "]" method.results ++ ">;"
  | .python, method =>
    "    async def " ++ method.name ++ "(" ++
      ", ".intercalate ("self" :: method.parameters.map (·.render)) ++ ") -> " ++
      renderResults "None" "tuple[" "]" method.results ++ ": ..."

/-- The lines before the methods. -/
def header (contractName : String) : Language → List String
  | .typescript =>
    ["// Auto-generated TypeScript types for " ++ contractName, "",
      "export interface " ++ contractName ++ "Contract \x7b"]
  | .python =>
    ["# Auto-generated Python types for " ++ contractName, "",
      "from typing import Any, Protocol", "", "",
      "class " ++ contractName ++ "Contract(Protocol):"]

/-- The lines after the methods. -/
def footer (methods : List Method) : Language → List String
  | .typescript => ["\x7d"]
  | .python => if methods.isEmpty then ["    pass"] else []

/-- The lines of an interface. -/
def interfaceLines (language : Language) (contractName : String) (methods : List Method) :
    List String :=
  header contractName language ++ methods.map (·.render language) ++ footer methods language

/-- An interface in writing: each line ends in a newline. -/
def renderInterface (language : Language) (contractName : String) (methods : List Method) :
    String :=
  String.join ((interfaceLines language contractName methods).map (· ++ "\n"))

/-- The interface of a contract, from an ABI that may be any value and a language given by name.
The calls are those under way before that of this function. -/
def generateInterface (calls : Nat) (contractName : String) (abi : Json) (language : Json) :
    Except Fault String := do
  let entries ← items abi
  match language.text?.bind Language.ofName? with
  | none => .error (.unsupportedLanguage language.display)
  | some language => do
    let methods ← methods language calls entries
    pure (renderInterface language contractName methods)

end Soliscope.Abi
