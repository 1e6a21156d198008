import Soliscope.Scan.Score
import Soliscope.Trace

/-! # Scan reports

A scan applies a catalog of rules to a source and scores what it finds.
-/

namespace Soliscope.Scan

/-- The outcome of a scan. -/
structure Report where
  score : Nat
  findings : List Finding
  gasOptimizationCount : Nat
  codeQuality : Nat
  severityCounts : List (Severity × Nat)
  deriving DecidableEq, Repr

/-- The report on findings. -/
def Report.ofFindings (findings : List Finding) : Report where
  score := securityScore findings
  findings := findings
  gasOptimizationCount := Scan.gasOptimizationCount findings
  codeQuality := Scan.codeQuality findings
  severityCounts := Scan.severityCounts findings

/-- The log message about a scan. -/
def Report.summary (report : Report) (lineCount ruleCount : Nat) : String :=
  "Scanned " ++ toString lineCount ++ " lines with " ++ toString ruleCount ++ " rules: " ++
    toString report.findings.length ++ " findings, score " ++ toString report.score

/-- Scan a source.  Any text is accepted; an empty one has no findings. -/
def scan (catalog : List Rule) (source : String) : Traced Report := do
  let report := Report.ofFindings (findings catalog source)
  record .info (report.summary (Text.countLines source) catalog.length)
  pure report

end Soliscope.Scan
