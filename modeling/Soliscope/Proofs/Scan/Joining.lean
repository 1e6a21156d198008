import Mathlib.Algebra.BigOperators.Group.List.Basic
import Mathlib.Algebra.GroupWithZero.Nat
import Mathlib.Data.List.Perm.Basic
import Soliscope.Proofs.Text.Splitting
import Soliscope.Scan.Report

/-! # Scans of joined sources

Two sources joined by a newline have the lines of both. A rule finds in them what it finds in each
of them, except that what it finds in the second source has moved by the lines of the first
(`Rule.findings_append`). Findings come out rule by rule, so those of the two sources alternate, and
what is counted of them is counted without regard to their order (`grades_joined`). A score that has
run out does not recover: the points that the joined source loses are those that the two sources
lose together, also when one of them has none left (`scan_joined`).
-/

namespace Soliscope.Scan

/-- A finding of a rule after some lines have been put before its source. -/
def Rule.shift (rule : Rule) (distance : Nat) (finding : Finding) : Finding :=
  { finding with
    id := rule.findingId (finding.line - 1 + distance)
    line := finding.line + distance }

/-- A finding moves with its line. -/
theorem Rule.shift_finding (rule : Rule) (distance index : Nat) :
    rule.shift distance (rule.finding index) = rule.finding (distance + index) := by
  have moved : index + 1 + distance = distance + index + 1 := by omega
  simp only [shift, finding, Nat.add_sub_cancel, moved, Nat.add_comm index distance]

/-- Further lines add further findings, moved by the number of lines before. -/
theorem Rule.findings_append (rule : Rule) (front back : List String) :
    rule.findings (front ++ back) =
      rule.findings front ++ (rule.findings back).map (rule.shift front.length) := by
  rw [findings, List.zipIdx_append, List.filterMap_append, Nat.zero_add]
  refine congrArg (rule.findings front ++ ·) ?_
  rw [findings, List.map_filterMap, List.zipIdx_eq_map_add, List.filterMap_map]
  refine List.filterMap_congr fun entry _ => ?_
  obtain ⟨line, index⟩ := entry
  cases accepted : rule.accepts line with
  | false => simp [accepted]
  | true => simp [accepted, shift_finding]

/-- What is counted of a finding. -/
def Finding.grade (finding : Finding) : Severity × String := (finding.severity, finding.category)

section Grades

variable (findings : List Finding)

/-- A severity is counted by the grades of the findings. -/
theorem severityCount_eq (severity : Severity) :
    severityCount findings severity =
      (findings.map Finding.grade).countP fun grade => grade.1 == severity := by
  rw [List.countP_map]
  rfl

theorem gasOptimizationCount_eq :
    gasOptimizationCount findings =
      (findings.map Finding.grade).countP fun grade => grade.2 == Category.gasOptimization.name := by
  rw [List.countP_map]
  rfl

/-- The penalty goes by the grades, too. -/
theorem totalPenalty_eq :
    totalPenalty findings =
      ((findings.map Finding.grade).map fun grade => grade.1.penalty).sum := by
  induction findings with
  | nil => rfl
  | cons finding rest ih =>
      rw [List.map_cons, List.map_cons, List.sum_cons, ← ih]
      rfl

end Grades

/-- A finding keeps its grade when it moves. -/
theorem Rule.map_grade_shift (rule : Rule) (distance : Nat) (findings : List Finding) :
    (findings.map (rule.shift distance)).map Finding.grade = findings.map Finding.grade := by
  rw [List.map_map]
  rfl

/-- **Joined sources have the findings of both, rule by rule.** -/
theorem findings_joined (catalog : List Rule) (front back : String) :
    findings catalog (front ++ "\n" ++ back) =
      catalog.flatMap fun rule => rule.findings (Text.lines front) ++
        (rule.findings (Text.lines back)).map (rule.shift (Text.lines front).length) := by
  simp only [findings, Text.lines_append, Rule.findings_append]

/-- The joined source has the grades of both sources, in some order. -/
theorem grades_joined (catalog : List Rule) (front back : String) :
    ((findings catalog (front ++ "\n" ++ back)).map Finding.grade).Perm
      ((findings catalog front).map Finding.grade ++
        (findings catalog back).map Finding.grade) := by
  rw [findings_joined, findings, findings, List.map_flatMap, List.map_flatMap, List.map_flatMap]
  simp only [List.map_append, Rule.map_grade_shift]
  exact (List.flatMap_append_perm _ _ _).symm

section Counts

variable (catalog : List Rule) (front back : String)

/-- The counts of joined sources add up. -/
theorem severityCount_joined (severity : Severity) :
    severityCount (findings catalog (front ++ "\n" ++ back)) severity =
      severityCount (findings catalog front) severity +
        severityCount (findings catalog back) severity := by
  simp only [severityCount_eq]
  rw [(grades_joined catalog front back).countP_eq, List.countP_append]

theorem gasOptimizationCount_joined :
    gasOptimizationCount (findings catalog (front ++ "\n" ++ back)) =
      gasOptimizationCount (findings catalog front) +
        gasOptimizationCount (findings catalog back) := by
  simp only [gasOptimizationCount_eq]
  rw [(grades_joined catalog front back).countP_eq, List.countP_append]

theorem totalPenalty_joined :
    totalPenalty (findings catalog (front ++ "\n" ++ back)) =
      totalPenalty (findings catalog front) + totalPenalty (findings catalog back) := by
  simp only [totalPenalty_eq]
  rw [((grades_joined catalog front back).map _).sum_eq, List.map_append, List.sum_append]

theorem length_findings_joined :
    (findings catalog (front ++ "\n" ++ back)).length =
      (findings catalog front).length + (findings catalog back).length := by
  have same := (grades_joined catalog front back).length_eq
  rwa [List.length_append, List.length_map, List.length_map, List.length_map] at same

end Counts

/-- The count of a severity is listed under it. -/
theorem lookup_severityCounts (findings : List Finding) (severity : Severity) :
    (severityCounts findings).lookup severity = some (severityCount findings severity) := by
  cases severity <;> rfl

/-- **What a report tells of a source that was joined from two**, by their reports: counts add up,
and so do the points that are lost, as long as there are any. -/
structure Report.Joins (joined front back : Report) : Prop where
  severities : ∀ severity, ∃ first second,
    front.severityCounts.lookup severity = some first ∧
    back.severityCounts.lookup severity = some second ∧
    joined.severityCounts.lookup severity = some (first + second)
  gasOptimizations :
    joined.gasOptimizationCount = front.gasOptimizationCount + back.gasOptimizationCount
  score : (joined.score : ℤ) = max 0 (front.score + back.score - 100)
  quality : (joined.codeQuality : ℤ) = max 0 (front.codeQuality + back.codeQuality - 100)

/-- **The report on joined sources joins their reports.** -/
theorem report_joins (catalog : List Rule) (front back : String) :
    (Report.ofFindings (findings catalog (front ++ "\n" ++ back))).Joins
      (.ofFindings (findings catalog front)) (.ofFindings (findings catalog back)) where
  severities severity := by
    refine ⟨_, _, lookup_severityCounts _ severity, lookup_severityCounts _ severity, ?_⟩
    rw [← severityCount_joined]
    exact lookup_severityCounts _ severity
  gasOptimizations := gasOptimizationCount_joined catalog front back
  score := by
    have lost := totalPenalty_joined catalog front back
    simp only [Report.ofFindings, securityScore, bestScore]
    omega
  quality := by
    have found := length_findings_joined catalog front back
    simp only [Report.ofFindings, codeQuality, qualityPenalty]
    omega

/-- **Scanning two sources that are joined by a newline is scanning each of them.** By the entries
of the catalog in their order, there are the findings of the first source and then those of the
second, moved by the lines of the first; counts add up, and so do the points that are lost. -/
theorem scan_joined (catalog : List Rule) (front back : String) :
    (scan catalog (front ++ "\n" ++ back)).value.findings =
      (catalog.flatMap fun rule => (scan [rule] front).value.findings ++
        (scan [rule] back).value.findings.map (rule.shift (Text.lines front).length)) ∧
    (∀ source, (scan catalog source).value.findings =
      catalog.flatMap fun rule => (scan [rule] source).value.findings) ∧
    (scan catalog (front ++ "\n" ++ back)).value.Joins
      (scan catalog front).value (scan catalog back).value := by
  have alone (rule : Rule) (source : String) :
      (scan [rule] source).value.findings = rule.findings (Text.lines source) :=
    List.append_nil _
  refine ⟨?_, ?_, report_joins catalog front back⟩
  · simp only [alone]
    exact findings_joined catalog front back
  · intro source
    simp only [alone]
    rfl

end Soliscope.Scan
