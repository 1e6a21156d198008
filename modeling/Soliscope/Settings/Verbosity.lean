import Soliscope.Text.Quoted
import Soliscope.Text.Upper

/-! # Verbosity

The log level of the settings is given by name, in any case.  Settings accept the names of levels
only; at start-up a name is looked up once more, among everything that the log goes by.  A name
found there that is no level cannot be applied.
-/

namespace Soliscope.Verbosity

/-- The level names and the numbers that they stand for. -/
def levels : List (String × Nat) :=
  [("CRITICAL", 50), ("FATAL", 50), ("ERROR", 40), ("WARN", 30), ("WARNING", 30), ("INFO", 20),
    ("DEBUG", 10), ("NOTSET", 0)]

/-- The number of a level name. -/
def level? (name : String) : Option Nat :=
  levels.lookup name

/-- The level name that settings keep, if they accept a name at all: the name in upper case. -/
def accepted? (name : String) : Option String :=
  let level := Text.upper name
  if (level? level).isSome then some level else none

/-- What a name of the log stands for. -/
inductive Entry where
  | level (number : Nat)
  | text (value : String)
  /-- A value that is neither, as it is shown. -/
  | other (shown : String)
  deriving DecidableEq, Repr

/-- The table of the styles that record forms are written in, as it is shown. -/
def styleTable : String :=
  "\x7b'%': (<class 'logging.PercentStyle'>, '%(levelname)s:%(name)s:%(message)s'), " ++
    "'\x7b': (<class 'logging.StrFormatStyle'>, " ++
    "'\x7blevelname\x7d:\x7bname\x7d:\x7bmessage\x7d'), " ++
    "'$': (<class 'logging.StringTemplateStyle'>, " ++
    "'$\x7blevelname\x7d:$\x7bname\x7d:$\x7bmessage\x7d')\x7d"

/-- The names of the log that are in upper case. -/
def entries : List (String × Entry) := [
  ("BASIC_FORMAT", .text "%(levelname)s:%(name)s:%(message)s"),
  ("CRITICAL", .level 50),
  ("DEBUG", .level 10),
  ("ERROR", .level 40),
  ("FATAL", .level 50),
  ("INFO", .level 20),
  ("NOTSET", .level 0),
  ("WARN", .level 30),
  ("WARNING", .level 30),
  ("_STYLES", .other styleTable)]

/-- Why a name cannot be applied. -/
inductive Fault where
  | unknownName (name : String)
  | notLevel (value : String)
  | notName (shown : String)
  deriving DecidableEq, Repr

/-- The text of a fault. -/
def Fault.message : Fault → String
  | .unknownName name => "module 'logging' has no attribute '" ++ name ++ "'"
  | .notLevel value => "Unknown level: " ++ Text.quoted value
  | .notName shown => "Level not an integer or a valid string: " ++ shown

/-- The number of the level that a name applies. -/
def apply (name : String) : Except Fault Nat :=
  let entry := Text.upper name
  match entries.lookup entry with
  | some (.level number) => .ok number
  | some (.text value) => .error (.notLevel value)
  | some (.other shown) => .error (.notName shown)
  | none => .error (.unknownName entry)

/-- The names that levels are shown by. -/
def shownNames : List (Nat × String) :=
  [(50, "CRITICAL"), (40, "ERROR"), (30, "WARNING"), (20, "INFO"), (10, "DEBUG"), (0, "NOTSET")]

/-- The name that a level is shown by. -/
def shownName (number : Nat) : String :=
  (shownNames.lookup number).getD ("Level " ++ toString number)

/-- The form of log records. -/
def recordFormat : String := "%(asctime)s - %(name)s - %(levelname)s - %(message)s"

/-- The log after start-up: the level of all records, and the level of those about requests, which
would show keys. -/
structure LogSetup where
  rootLevel : Nat
  requestLevel : Nat
  formats : List String
  deriving DecidableEq, Repr

/-- Set up the log. -/
def setUp (name : String) : Except Fault LogSetup :=
  (apply name).map fun number =>
    { rootLevel := number, requestLevel := 30, formats := [recordFormat] }

end Soliscope.Verbosity
