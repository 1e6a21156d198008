import Soliscope.Json.Display
import Soliscope.Json.Writer

/-! # Arguments

Callers normally give texts.  Values of other kinds are taken, too, as long as they can be shown:
then what is sent, what is written and what is shown in messages may differ.
-/

namespace Soliscope

/-- An argument of any kind that can be shown. -/
structure Argument where
  value : Json
  showable : value.isShowable = true := by rfl

namespace Argument

/-- A text as an argument. -/
def ofText (text : String) : Argument where
  value := .str text

/-- What is sent for an argument: a text for every item of a list, and one text for anything
else. -/
def sent (argument : Argument) : List String :=
  match argument.value with
  | .arr items => items.map Json.formText
  | value => [value.formText]

/-- An argument as it is shown in messages. -/
def shown (argument : Argument) : String :=
  argument.value.display

/-- An argument that counts as given. -/
def isGiven (argument : Argument) : Bool :=
  argument.value.isTruthy

/-- The field name that an argument is written as in a document.  Lists and dictionaries are
none. -/
def fieldName? (argument : Argument) : Option String :=
  match argument.value with
  | .str text => some text
  | .arr _ | .obj _ => none
  | value => some value.render

/-- The form entries for an argument under a name. -/
def entries (name : String) (argument : Argument) : List (String × String) :=
  argument.sent.map fun text => (name, text)

@[simp] theorem sent_ofText (text : String) : (ofText text).sent = [text] := rfl

@[simp] theorem shown_ofText (text : String) : (ofText text).shown = text := rfl

@[simp] theorem isGiven_ofText (text : String) : (ofText text).isGiven = !text.isEmpty := rfl

@[simp] theorem fieldName?_ofText (text : String) : (ofText text).fieldName? = some text := rfl

@[simp] theorem entries_ofText (name text : String) :
    (ofText text).entries name = [(name, text)] := rfl

end Argument

end Soliscope
