import Soliscope.Json.Display
import Soliscope.Number.Binary64

/-! # Chain ids

Callers normally name a chain by its number.  Values of other kinds are taken, too: chains are the
same if their ids are equal as values, so that a truth value or a double names the chain of the
equal integer.
-/

namespace Soliscope.Explorer

/-- The id of a chain as it is given. -/
inductive ChainId where
  | number (value : Int)
  | truth (value : Bool)
  | double (value : Float)
  | text (value : String)
  | nothing

/-- What the id of a chain is compared by. -/
inductive ChainKey where
  | integer (value : Int)
  /-- A double that is no integer, by its bits. -/
  | double (bits : UInt64)
  | text (value : String)
  | nothing
  deriving DecidableEq, Repr

/-- A value that cannot name a chain at all, by its kind. -/
structure UnusableChain where
  kind : String
  deriving DecidableEq, Repr

/-- The text about a value that cannot name a chain. -/
def UnusableChain.message (unusable : UnusableChain) : String :=
  "unhashable type: '" ++ unusable.kind ++ "'"

namespace ChainId

/-- A chain id as a value. -/
def toJson : ChainId → Json
  | .number value => .int value
  | .truth value => .bool value
  | .double value => .float value
  | .text value => .str value
  | .nothing => .null

/-- A value as a chain id.  Lists and dictionaries are none. -/
def ofJson : Json → Except UnusableChain ChainId
  | .int value => .ok (.number value)
  | .bool value => .ok (.truth value)
  | .float value => .ok (.double value)
  | .str value => .ok (.text value)
  | .null => .ok .nothing
  | value => .error ⟨value.kindName⟩

/-- What a chain id is compared by. -/
def key : ChainId → ChainKey
  | .number value => .integer value
  | .truth value => .integer (if value then 1 else 0)
  | .double value =>
    match Number.integer? value with
    | some whole => .integer whole
    | none => .double value.toBits
  | .text value => .text value
  | .nothing => .nothing

/-- A chain id can be shown, unless it is an integer of too many digits. -/
def isShowable (chain : ChainId) : Bool :=
  chain.toJson.isShowable

/-- A chain id as it is shown in messages. -/
def shown (chain : ChainId) : String :=
  chain.toJson.display

end ChainId

end Soliscope.Explorer
