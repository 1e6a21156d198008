import Soliscope.Schema.Issue

/-! # Validation

A validation either accepts a value or reports every issue it found.  Putting validations together
goes on after an issue, so that all issues of all parts are reported, in the order of the parts.
-/

namespace Soliscope.Schema

/-- A value, or issues in the order in which they were found. -/
inductive Validation (α : Type) where
  | accepted (value : α)
  | refused (issues : List Issue)

namespace Validation

variable {α β : Type}

/-- Change an accepted value. -/
def map (f : α → β) : Validation α → Validation β
  | .accepted value => .accepted (f value)
  | .refused issues => .refused issues

/-- Put a further part to an accepted value; the issues of both are reported. -/
def combine (first : Validation (α → β)) (second : Validation α) : Validation β :=
  match first, second with
  | .accepted f, .accepted value => .accepted (f value)
  | .accepted _, .refused issues => .refused issues
  | .refused issues, .accepted _ => .refused issues
  | .refused issues, .refused more => .refused (issues ++ more)

instance : Applicative Validation where
  pure := .accepted
  map := map
  seq first second := combine first (second ())

/-- The issues, of which an accepted value has none. -/
def issues : Validation α → List Issue
  | .accepted _ => []
  | .refused issues => issues

/-- The value, if it is accepted. -/
def value? : Validation α → Option α
  | .accepted value => some value
  | .refused _ => none

/-- Issues as an error. -/
def toExcept : Validation α → Except (List Issue) α
  | .accepted value => .ok value
  | .refused issues => .error issues

/-- Tell where the value lies. -/
def under (key : Key) : Validation α → Validation α
  | .accepted value => .accepted value
  | .refused issues =>
    .refused (issues.map fun issue => { issue with location := key :: issue.location })

/-- One flaw of the value as a whole. -/
def flawed (flaw : Flaw) : Validation α :=
  .refused [⟨[], flaw⟩]

/-- Look further at a value that is accepted so far. -/
def andThen (next : α → Validation β) : Validation α → Validation β
  | .accepted value => next value
  | .refused issues => .refused issues

/-- All values, if all are accepted, and otherwise the issues of all. -/
def collect : List (Validation α) → Validation (List α)
  | [] => .accepted []
  | first :: rest => combine (map List.cons first) (collect rest)

end Validation

end Soliscope.Schema
