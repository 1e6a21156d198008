/-! # Severities and categories

How grave a finding is, and the group that it is shown in.
-/

namespace Soliscope.Scan

/-- How grave a finding is, from gravest to least. -/
inductive Severity where
  | critical
  | high
  | medium
  | low
  | info
  deriving DecidableEq, Repr

namespace Severity

/-- All severities, the gravest first. -/
def all : List Severity := [.critical, .high, .medium, .low, .info]

/-- The name of a severity. -/
def name : Severity → String
  | .critical => "critical"
  | .high => "high"
  | .medium => "medium"
  | .low => "low"
  | .info => "info"

/-- The severity of a name. -/
def ofName? (name : String) : Option Severity :=
  all.find? (·.name == name)

/-- The points that a finding takes from the score. -/
def penalty : Severity → Nat
  | .critical => 25
  | .high => 15
  | .medium => 8
  | .low => 3
  | .info => 0

end Severity

/-- The groups of the built-in rules. -/
inductive Category where
  | security
  | gasOptimization
  | codeQuality
  | bestPractices
  deriving DecidableEq, Repr

/-- The name of a category, as it is shown next to a finding. -/
def Category.name : Category → String
  | .security => "Security"
  | .gasOptimization => "Gas Optimization"
  | .codeQuality => "Code Quality"
  | .bestPractices => "Best Practices"

end Soliscope.Scan
