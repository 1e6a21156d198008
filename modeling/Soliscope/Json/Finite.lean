import Soliscope.Json.Basic
import Soliscope.Number.Binary64

/-! # Finite values

Strict JSON has no doubles that are no finite number.  A value may be checked for them, or they may
be left out of it.
-/

namespace Soliscope.Json

open Soliscope.Number

/-- A double that is a number. -/
def isFiniteDouble (value : Float) : Bool :=
  match Double.ofFloat value with
  | .finite _ => true
  | _ => false

mutual

/-- All doubles in a value are finite. -/
def isFinite : Json → Bool
  | .float value => isFiniteDouble value
  | .arr items => areFinite items
  | .obj fields => fieldsAreFinite fields
  | _ => true

/-- All doubles in the items of a list are finite. -/
def areFinite : List Json → Bool
  | [] => true
  | item :: items => isFinite item && areFinite items

/-- All doubles in the fields of an object are finite. -/
def fieldsAreFinite : List (String × Json) → Bool
  | [] => true
  | (_, value) :: fields => isFinite value && fieldsAreFinite fields

end

mutual

/-- A value with null in the place of doubles that are not finite. -/
def finite : Json → Json
  | .float value => if isFiniteDouble value then .float value else .null
  | .arr items => .arr (finiteItems items)
  | .obj fields => .obj (finiteFields fields)
  | value => value

/-- The items of a list with null in the place of doubles that are not finite. -/
def finiteItems : List Json → List Json
  | [] => []
  | item :: items => finite item :: finiteItems items

/-- The fields of an object with null in the place of doubles that are not finite. -/
def finiteFields : List (String × Json) → List (String × Json)
  | [] => []
  | (name, value) :: fields => (name, finite value) :: finiteFields fields

end

mutual

/-- How many values lie within each other. -/
def depth : Json → Nat
  | .arr items => itemsDepth items + 1
  | .obj fields => fieldsDepth fields + 1
  | _ => 1

/-- How many values lie within each other in the items of a list. -/
def itemsDepth : List Json → Nat
  | [] => 0
  | item :: items => max (depth item) (itemsDepth items)

/-- How many values lie within each other in the fields of an object. -/
def fieldsDepth : List (String × Json) → Nat
  | [] => 0
  | (_, value) :: fields => max (depth value) (fieldsDepth fields)

end

end Soliscope.Json
