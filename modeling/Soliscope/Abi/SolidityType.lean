/-! # Solidity types in client code

A Solidity type is given in another language by the kind of its elements and its dynamic array
suffixes.  A type ending in `[]` is an array of what stands before the suffix; the rest is told
apart by how its name begins.
-/

namespace Soliscope.Abi

/-- The languages that client code is written in. -/
inductive Language where
  | typescript
  | python
  deriving DecidableEq, Repr

/-- The name of a language. -/
def Language.name : Language → String
  | .typescript => "typescript"
  | .python => "python"

/-- All languages. -/
def Language.all : List Language := [.typescript, .python]

/-- The language of a name. -/
def Language.ofName? (name : String) : Option Language :=
  all.find? (·.name == name)

/-- The kinds of values that are told apart. -/
inductive Scalar where
  | integer
  | text
  | truth
  | other
  deriving DecidableEq, Repr

/-- The kind of a type that is not written as a dynamic array. -/
def Scalar.ofTypeName (name : List Char) : Scalar :=
  if "uint".toList.isPrefixOf name || "int".toList.isPrefixOf name then .integer
  else if name == "address".toList || name == "string".toList || "bytes".toList.isPrefixOf name then
    .text
  else if name == "bool".toList then .truth
  else .other

/-- How many dynamic array suffixes a type has that is given by its characters in reverse. -/
def arrayDepthOfReverse : List Char → Nat
  | ']' :: '[' :: rest => arrayDepthOfReverse rest + 1
  | _ => 0

/-- How many dynamic array suffixes a type has. -/
def arrayDepth (solidityType : String) : Nat :=
  arrayDepthOfReverse solidityType.toList.reverse

/-- How many calls may be under way at once. -/
def callLimit : Nat := 1000

/-- Where this many calls are under way, a type is taken if it has fewer array suffixes than this.
Each suffix takes a call, the type itself one, and the test of its ending one more. -/
def depthLimit (calls : Nat) : Nat := callLimit - (calls + 1)

namespace Language

/-- The name of a kind of values in a language. -/
def scalarName : Language → Scalar → List Char
  | .typescript, .integer => "bigint".toList
  | .typescript, .text => "string".toList
  | .typescript, .truth => "boolean".toList
  | .typescript, .other => "any".toList
  | .python, .integer => "int".toList
  | .python, .text => "str".toList
  | .python, .truth => "bool".toList
  | .python, .other => "Any".toList

/-- The name of the arrays of a type. -/
def arrayName : Language → List Char → List Char
  | .typescript, element => element ++ ['[', ']']
  | .python, element => "list[".toList ++ (element ++ [']'])

/-- The name of a Solidity type that is given by its characters in reverse. -/
def typeNameOfReverse (language : Language) : List Char → List Char
  | ']' :: '[' :: rest => language.arrayName (language.typeNameOfReverse rest)
  | reversed => language.scalarName (.ofTypeName reversed.reverse)

/-- The name of a Solidity type. -/
def typeName (language : Language) (solidityType : String) : String :=
  String.ofList (language.typeNameOfReverse solidityType.toList.reverse)

end Language

end Soliscope.Abi
