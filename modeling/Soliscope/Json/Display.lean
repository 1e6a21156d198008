import Soliscope.Json.Basic
import Soliscope.Number.Written
import Soliscope.Text.Quoted

/-! # Values in messages

A value shown in a message appears as itself if it is a text, and in literal form otherwise: texts
inside lists and dictionaries are quoted, and the words for null and the truth values are `None`,
`True` and `False`.  Sent as a form value it appears as a text, too, but null is empty and the truth
values are in lower case.  A value that holds an integer of too many digits cannot be shown at all.
-/

namespace Soliscope.Json

open Soliscope.Text Soliscope.Number

mutual

/-- A value in literal form. -/
def literal : Json → String
  | .null => "None"
  | .bool true => "True"
  | .bool false => "False"
  | .int value => toString value
  | .float value => valueText value
  | .str value => quoted value
  | .arr items => "[" ++ ", ".intercalate (literalItems items) ++ "]"
  | .obj fields => "\x7b" ++ ", ".intercalate (literalFields fields) ++ "\x7d"

/-- The items of a list in literal form. -/
def literalItems : List Json → List String
  | [] => []
  | item :: items => literal item :: literalItems items

/-- The entries of a dictionary in literal form. -/
def literalFields : List (String × Json) → List String
  | [] => []
  | (name, value) :: fields =>
    (quoted name ++ ": " ++ literal value) :: literalFields fields

end

mutual

/-- A value can be shown: no integer in it has too many digits. -/
def isShowable : Json → Bool
  | .int value => (Nat.toDigits 10 value.natAbs).length ≤ integerDigitLimit
  | .arr items => areShowable items
  | .obj fields => fieldsAreShowable fields
  | _ => true

/-- The items of a list can be shown. -/
def areShowable : List Json → Bool
  | [] => true
  | item :: items => isShowable item && areShowable items

/-- The entries of a dictionary can be shown. -/
def fieldsAreShowable : List (String × Json) → Bool
  | [] => true
  | (_, value) :: fields => isShowable value && fieldsAreShowable fields

end

/-- A value as it is shown in a message. -/
def display : Json → String
  | .str value => value
  | value => literal value

/-- A value as it is sent in a form. -/
def formText : Json → String
  | .null => ""
  | .bool true => "true"
  | .bool false => "false"
  | value => display value

/-- The name of the kind of a value. -/
def kindName : Json → String
  | .null => "NoneType"
  | .bool _ => "bool"
  | .int _ => "int"
  | .float _ => "float"
  | .str _ => "str"
  | .arr _ => "list"
  | .obj _ => "dict"

end Soliscope.Json
