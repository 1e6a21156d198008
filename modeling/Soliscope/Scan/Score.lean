import Soliscope.Scan.Rule

/-! # Scores

The numbers of the badge: a security score from which every finding takes points by its severity, a
code quality percentage from which every finding takes the same, and counts.
-/

namespace Soliscope.Scan

/-- The number of findings of a severity. -/
def severityCount (findings : List Finding) (severity : Severity) : Nat :=
  findings.countP (·.severity == severity)

/-- The number of findings of each severity, those without findings included. -/
def severityCounts (findings : List Finding) : List (Severity × Nat) :=
  Severity.all.map fun severity => (severity, severityCount findings severity)

/-- The score of a source without findings. -/
def bestScore : Nat := 100

/-- The points that findings take together. -/
def totalPenalty (findings : List Finding) : Nat :=
  findings.foldr (fun finding total => finding.severity.penalty + total) 0

/-- The security score: it starts at the best and does not go below zero. -/
def securityScore (findings : List Finding) : Nat :=
  bestScore - totalPenalty findings

/-- The points that each finding takes from the code quality. -/
def qualityPenalty : Nat := 5

/-- The code quality in percent. -/
def codeQuality (findings : List Finding) : Nat :=
  100 - qualityPenalty * findings.length

/-- The number of findings that cost gas. -/
def gasOptimizationCount (findings : List Finding) : Nat :=
  findings.countP (·.category == Category.gasOptimization.name)

/-- The labels of the badge and the least score of each, the best first. -/
def scoreLabels : List (Int × String) :=
  [(80, "Excellent"), (60, "Good"), (40, "Fair")]

/-- The label of a score. -/
def scoreLabel (score : Int) : String :=
  match scoreLabels.find? fun entry => entry.1 ≤ score with
  | some entry => entry.2
  | none => "Poor"

end Soliscope.Scan
