/-! # JSON values

Numbers written without a fraction and exponent are integers of any size, all others are doubles.
Objects keep their fields in order and hold each name once.
-/

namespace Soliscope

/-- A JSON value. -/
inductive Json where
  | null
  | bool (value : Bool)
  | int (value : Int)
  | float (value : Float)
  | str (value : String)
  | arr (items : List Json)
  | obj (fields : List (String × Json))
  deriving Inhabited

namespace Json

/-- The most digits that an integer may have in writing. -/
def integerDigitLimit : Nat := 4300

/-- Put a field into an object: in the place of the field of that name, or at the end. -/
def setField {α : Type} (name : String) (value : α) : List (String × α) → List (String × α)
  | [] => [(name, value)]
  | (other, old) :: rest =>
    if other == name then (other, value) :: rest else (other, old) :: setField name value rest

/-- The fields of an object from its members in written order: of members with one name the last
value counts, at the place of the first. -/
def fieldsOf {α : Type} (members : List (String × α)) : List (String × α) :=
  members.foldl (fun fields member => setField member.1 member.2 fields) []

/-- The field of an object. -/
def field? (name : String) : Json → Option Json
  | .obj fields => fields.lookup name
  | _ => none

/-- A value that counts as present: neither null, false, zero nor empty. -/
def isTruthy : Json → Bool
  | .null => false
  | .bool value => value
  | .int value => value != 0
  | .float value => value != 0
  | .str value => !value.isEmpty
  | .arr items => !items.isEmpty
  | .obj fields => !fields.isEmpty

/-- The text of a string value. -/
def text? : Json → Option String
  | .str value => some value
  | _ => none

/-- A text, or null. -/
def ofText? : Option String → Json
  | some value => .str value
  | none => .null

/-- A list of texts. -/
def texts (values : List String) : Json :=
  .arr (values.map .str)

end Json

end Soliscope
