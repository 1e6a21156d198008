import Soliscope.Text.Blank

/-! # Headers

The headers of a response are names and values in order.  Names are compared without regard to case,
and values under one name belong together.  Their bytes always have a text: if they are no ASCII,
they are taken for UTF-8, and else for one character each.  So names and values may be any texts.
-/

namespace Soliscope.Explorer

open Soliscope.Text

/-- The headers of a response. -/
abbrev Headers := List (String × String)

namespace Headers

/-- The values under a name, which is given in lower case. -/
def values (headers : Headers) (name : String) : List String :=
  (headers.filter fun entry => entry.1.toLower == name).map Prod.snd

/-- The value under a name, if there is one. -/
def value? (headers : Headers) (name : String) : Option String :=
  match headers.values name with
  | [] => none
  | values => some (", ".intercalate values)

/-- The items of a list under a name, in lower case. -/
def items (headers : Headers) (name : String) : List String :=
  (headers.values name).flatMap fun value =>
    (value.toList.splitOn ',').map fun item =>
      String.ofList ((trimWhere isBlank item).map Char.toLower)

end Headers

end Soliscope.Explorer
