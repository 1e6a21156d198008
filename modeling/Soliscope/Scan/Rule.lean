import Soliscope.Scan.Severity
import Soliscope.Scan.Pattern
import Soliscope.Text.Lines

/-! # Rules and findings

A rule looks at one line at a time.  A finding is one rule at one line.  Findings come out rule by
rule, and within a rule line by line.
-/

namespace Soliscope.Scan

/-- A rule: what it accepts, and what is said about a line that it accepts. -/
structure Rule where
  id : String
  severity : Severity
  title : String
  description : String
  recommendation : String
  category : String
  /-- The rule's pattern in writing. -/
  pattern : String
  /-- The lines that are to be reported. -/
  accepts : String → Bool

/-- One rule at one line; lines count from one. -/
structure Finding where
  id : String
  severity : Severity
  title : String
  description : String
  line : Nat
  recommendation : String
  category : String
  deriving DecidableEq, Repr

namespace Rule

/-- The id of a finding: the rule's id and the number of lines before it. -/
def findingId (rule : Rule) (index : Nat) : String :=
  rule.id ++ "-" ++ toString index

/-- The finding of a rule at the line with `index` lines before it. -/
def finding (rule : Rule) (index : Nat) : Finding where
  id := rule.findingId index
  severity := rule.severity
  title := rule.title
  description := rule.description
  line := index + 1
  recommendation := rule.recommendation
  category := rule.category

/-- The findings of a rule among lines. -/
def findings (rule : Rule) (lines : List String) : List Finding :=
  lines.zipIdx.filterMap fun (line, index) =>
    if rule.accepts line then some (rule.finding index) else none

end Rule

/-- The findings of all rules in a source. -/
def findings (catalog : List Rule) (source : String) : List Finding :=
  let lines := Text.lines source
  catalog.flatMap (·.findings lines)

end Soliscope.Scan
