import Mathlib.Data.List.Forall2
import Soliscope.Json.Display
import Soliscope.Proofs.Json.Plain

/-! # Values told by texts

What the literal form of a value is, kind by kind and without following how it is written
(`IsLiteral`). A text that is told stands for itself, and every other value for its literal form
(`display_isToldBy`).
-/

namespace Soliscope.Json

open Soliscope.Text

/-- The literal forms of values. -/
inductive IsLiteral : Json → String → Prop
  | null : IsLiteral .null "None"
  | yes : IsLiteral (.bool true) "True"
  | no : IsLiteral (.bool false) "False"
  | int (value : Int) : IsLiteral (.int value) (toString value)
  | float (value : Float) : IsLiteral (.float value) (Number.valueText value)
  | str (value : String) : IsLiteral (.str value) (quoted value)
  | arr {items : List Json} {texts : List String} (each : List.Forall₂ IsLiteral items texts) :
      IsLiteral (.arr items) ("[" ++ ", ".intercalate texts ++ "]")
  | obj {fields : List (String × Json)} {texts : List String}
      (each : List.Forall₂ IsLiteral (fields.map Prod.snd) texts) :
      IsLiteral (.obj fields) ("\x7b" ++ ", ".intercalate
        (List.zipWith (fun name text => quoted name ++ ": " ++ text) (fields.map Prod.fst) texts) ++
          "\x7d")

/-- A value is told by a text: a text by itself, and any other value by its literal form. -/
structure IsToldBy (value : Json) (text : String) : Prop where
  itself : ∀ written, value = .str written → text = written
  other : (∀ written, value ≠ .str written) → IsLiteral value text

theorem literalItems_eq (items : List Json) : literalItems items = items.map literal := by
  induction items with
  | nil => rfl
  | cons item rest ih => rw [literalItems, ih, List.map_cons]

theorem literalFields_eq (fields : List (String × Json)) :
    literalFields fields = List.zipWith (fun name text => quoted name ++ ": " ++ text)
      (fields.map Prod.fst) (fields.map fun field => field.2.literal) := by
  induction fields with
  | nil => rfl
  | cons field rest ih =>
      rw [literalFields, ih, List.map_cons, List.map_cons, List.zipWith_cons_cons]

/-- A literal is made of the literals of what is in the value. The induction is on the value. -/
theorem literal_isLiteral (value : Json) : IsLiteral value value.literal := by
  induction value using Json.induction with
  | null => exact .null
  | bool value => cases value with
    | true => exact .yes
    | false => exact .no
  | int value => exact .int value
  | float value => exact .float value
  | str value => exact .str value
  | arr items ih =>
      rw [literal, literalItems_eq]
      apply IsLiteral.arr
      rw [List.forall₂_map_right_iff, List.forall₂_same]
      exact ih
  | obj fields ih =>
      rw [literal, literalFields_eq]
      apply IsLiteral.obj
      rw [List.forall₂_map_right_iff, List.forall₂_map_left_iff, List.forall₂_same]
      exact ih

/-- A value is told by its text, or else by its literal. -/
theorem display_isToldBy (value : Json) : value.IsToldBy value.display := by
  constructor
  · rintro written rfl
    rfl
  · intro noText
    have asLiteral : value.display = value.literal := by
      cases value with
      | str written => exact (noText written rfl).elim
      | _ => rfl
    rw [asLiteral]
    exact literal_isLiteral value

end Soliscope.Json
