import Soliscope.Schema.Number

/-! # Fields

The forms that a field of a document may have: a text within limits, a list, a dictionary, one of
some choices, a document of its own.  A reader takes a JSON value apart and reports what does not
fit, each issue with its place.
-/

namespace Soliscope.Schema

/-- How a value of a kind is read from JSON. -/
abbrev Reader (α : Type) := Json → Validation α

/-- The fields of an object. -/
abbrev Fields := List (String × Json)

/-- A form that a text may be required to have, and the form in writing. -/
structure TextForm where
  pattern : String
  accepts : List Char → Bool

/-- Limits to a text. -/
structure TextLimits where
  least : Option Nat := none
  most : Option Nat := none
  form : Option TextForm := none

/-- The flaw of a text with regard to limits; the length comes before the form. -/
def TextLimits.flaw? (limits : TextLimits) (text : List Char) : Option Flaw :=
  let size := text.length
  ((limits.most.filter (· < size)).map Flaw.tooLong).or
    (((limits.least.filter (size < ·)).map Flaw.tooShort).or
      ((limits.form.filter fun form => !form.accepts text).map fun form =>
        Flaw.otherForm form.pattern))

/-- A text. -/
def text : Reader String
  | .str value => .accepted value
  | _ => .flawed .notText

/-- A text within limits. -/
def limitedText (limits : TextLimits) (value : Json) : Validation String :=
  (text value).andThen fun text =>
    match limits.flaw? text.toList with
    | some flaw => .flawed flaw
    | none => .accepted text

/-- Any value. -/
def anything : Reader Json := .accepted

/-- A value or null. -/
def nullable {α : Type} (reader : Reader α) : Reader (Option α)
  | .null => .accepted none
  | value => (reader value).map some

/-- A list. -/
def list {α : Type} (reader : Reader α) : Reader (List α)
  | .arr items =>
    .collect (items.zipIdx.map fun (item, position) => (reader item).under (.index position))
  | _ => .flawed .notList

/-- A dictionary. -/
def dictionary {α : Type} (reader : Reader α) : Reader (List (String × α))
  | .obj fields =>
    .collect (fields.map fun (name, value) =>
      ((reader value).under (.name name)).map (Prod.mk name))
  | _ => .flawed .notDictionary

/-- One of some values, by its name. -/
def choice {α : Type} (choices : List (String × α)) (value : Json) : Validation α :=
  match value.text?.bind fun name => choices.lookup name with
  | some chosen => .accepted chosen
  | none => .flawed (.notAChoice (choices.map Prod.fst))

/-- Where a document comes from, which decides what is said about a value that is no object. -/
inductive Origin where
  /-- A document by itself. -/
  | document
  /-- A request or an object of the program. -/
  | request
  deriving DecidableEq, Repr

/-- What is wrong with a value that is no object. -/
def Origin.flaw (title : String) : Origin → Flaw
  | .document => .notDocument title
  | .request => .notObject

/-- A document: an object whose fields are read together. -/
def document {α : Type} (origin : Origin) (title : String) (read : Fields → Validation α) :
    Reader α
  | .obj fields => read fields
  | _ => .flawed (origin.flaw title)

/-- A field that has to be there. -/
def required {α : Type} (name : String) (reader : Reader α) (fields : Fields) : Validation α :=
  match fields.lookup name with
  | some value => (reader value).under (.name name)
  | none => (Validation.flawed .missing).under (.name name)

/-- A field that has a value of its own when it is missing. -/
def defaulted {α : Type} (name : String) (missing : α) (reader : Reader α) (fields : Fields) :
    Validation α :=
  match fields.lookup name with
  | some value => (reader value).under (.name name)
  | none => .accepted missing

/-- A field that goes by two names.  The first name counts if both are there; issues mention the
name that is found. -/
def defaultedAs {α : Type} (name other : String) (missing : α) (reader : Reader α)
    (fields : Fields) : Validation α :=
  match fields.lookup name with
  | some value => (reader value).under (.name name)
  | none => defaulted other missing reader fields

end Soliscope.Schema
