import Mathlib.Data.List.Perm.Basic
import Soliscope.Proofs.Scan.Joining

/-! # The numbers of the badge

What findings weigh together is what their severities weigh, each as often as it is counted
(`sum_weights`). The number of findings and the points that they take are both of this kind, so the
score and the code quality can be told from the counts alone, and neither depends on the order of
the findings. The score is cut off at zero after the last finding only. A further finding takes
points or takes none, wherever it stands, so it improves no number and no label (`badge_addsUp`).
-/

namespace Soliscope.Scan

/-- The labels of the badge, the best first. -/
def labelOrder : List String := ["Excellent", "Good", "Fair", "Poor"]

/-- How many labels are better. -/
def labelRank (label : String) : Nat :=
  labelOrder.idxOf label

/-- The numbers of a report can be told from its counts of severities. -/
structure Report.AddsUp (report : Report) : Prop where
  numbers : ∃ critical high medium low info : Nat,
    report.severityCounts =
      [(.critical, critical), (.high, high), (.medium, medium), (.low, low), (.info, info)] ∧
    critical + high + medium + low + info = report.findings.length ∧
    (report.score : ℤ) = max 0 (100 - (25 * critical + 15 * high + 8 * medium + 3 * low)) ∧
    (report.codeQuality : ℤ) = max 0 (100 - 5 * (critical + high + medium + low + info))
  gasOptimizations : report.gasOptimizationCount ≤ report.findings.length

/-- Two reports have the same numbers. -/
structure Report.CountsAs (report other : Report) : Prop where
  severityCounts : report.severityCounts = other.severityCounts
  score : report.score = other.score
  codeQuality : report.codeQuality = other.codeQuality
  gasOptimizations : report.gasOptimizationCount = other.gasOptimizationCount
  size : report.findings.length = other.findings.length

/-- A report is no better than another, and neither is its label. -/
structure Report.IsNoBetter (report other : Report) : Prop where
  score : report.score ≤ other.score
  codeQuality : report.codeQuality ≤ other.codeQuality
  labelled : scoreLabel report.score ∈ labelOrder ∧ scoreLabel other.score ∈ labelOrder
  label : labelRank (scoreLabel other.score) ≤ labelRank (scoreLabel report.score)

/-! ## Counts and weights -/

section Counts

variable {findings other : List Finding}

/-- One finding more is counted at its own severity. -/
theorem severityCount_cons (finding : Finding) (findings : List Finding) (severity : Severity) :
    severityCount (finding :: findings) severity =
      severityCount findings severity + if finding.severity = severity then 1 else 0 := by
  simp only [severityCount, List.countP_cons, beq_iff_eq]

/-- **Findings weigh together what their severities weigh, each as often as it is counted.** -/
theorem sum_weights (weight : Severity → Nat) (findings : List Finding) :
    (findings.map fun finding => weight finding.severity).sum =
      (Severity.all.map fun severity => severityCount findings severity * weight severity).sum := by
  induction findings with
  | nil => simp [severityCount]
  | cons finding rest ih =>
      rw [List.map_cons, List.sum_cons, ih]
      simp only [Severity.all, List.map_cons, List.map_nil, List.sum_cons, List.sum_nil,
        severityCount_cons, Nat.add_mul]
      cases finding.severity <;> simp <;> omega

/-- The penalty depends on the counts alone. -/
theorem totalPenalty_eq_counts (findings : List Finding) :
    totalPenalty findings = 25 * severityCount findings .critical +
      15 * severityCount findings .high + 8 * severityCount findings .medium +
      3 * severityCount findings .low := by
  have weighed := sum_weights Severity.penalty findings
  rw [totalPenalty_eq, List.map_map]
  refine weighed.trans ?_
  simp only [Severity.all, Severity.penalty, List.map_cons, List.map_nil, List.sum_cons,
    List.sum_nil]
  omega

/-- The counts add up to all findings. -/
theorem length_eq_counts (findings : List Finding) :
    findings.length = severityCount findings .critical + severityCount findings .high +
      severityCount findings .medium + severityCount findings .low +
      severityCount findings .info := by
  have weighed := sum_weights (fun _ => 1) findings
  simp only [List.map_const', List.sum_replicate_nat, Nat.mul_one, Severity.all, List.map_cons,
    List.map_nil, List.sum_cons, List.sum_nil] at weighed
  omega

/-- There is a count for each severity, in a fixed order. -/
theorem severityCounts_eq (findings : List Finding) :
    severityCounts findings = [(.critical, severityCount findings .critical),
      (.high, severityCount findings .high), (.medium, severityCount findings .medium),
      (.low, severityCount findings .low), (.info, severityCount findings .info)] := rfl

/-- **The numbers of a report add up.** -/
theorem report_addsUp (findings : List Finding) : (Report.ofFindings findings).AddsUp where
  numbers := by
    have lost := totalPenalty_eq_counts findings
    have size := length_eq_counts findings
    refine ⟨_, _, _, _, _, severityCounts_eq findings, size.symm, ?_, ?_⟩
    · simp only [Report.ofFindings, securityScore, bestScore]
      omega
    · simp only [Report.ofFindings, codeQuality, qualityPenalty]
      omega
  gasOptimizations := List.countP_le_length

/-! ## The order of findings -/

/-- The order of findings does not matter to the counts. -/
theorem severityCount_perm (same : findings.Perm other) (severity : Severity) :
    severityCount other severity = severityCount findings severity :=
  (same.countP_eq _).symm

theorem totalPenalty_perm (same : findings.Perm other) :
    totalPenalty other = totalPenalty findings := by
  simp only [totalPenalty_eq_counts, severityCount_perm same]

/-- **Reports of the same findings in another order count alike.** -/
theorem report_perm (same : findings.Perm other) :
    (Report.ofFindings other).CountsAs (.ofFindings findings) where
  severityCounts := by
    simp only [Report.ofFindings, severityCounts, severityCount_perm same]
  score := by
    simp only [Report.ofFindings, securityScore, totalPenalty_perm same]
  codeQuality := by
    simp only [Report.ofFindings, codeQuality, same.length_eq]
  gasOptimizations := (same.countP_eq _).symm
  size := same.length_eq.symm

end Counts

/-! ## Further findings -/

/-- The label goes by three thresholds. -/
theorem scoreLabel_eq (score : Int) :
    scoreLabel score =
      if 80 ≤ score then "Excellent" else if 60 ≤ score then "Good"
      else if 40 ≤ score then "Fair" else "Poor" := by
  unfold scoreLabel scoreLabels
  split_ifs with excellent good fair
  · simp [excellent]
  · simp [excellent, good]
  · simp [excellent, good, fair]
  · simp [excellent, good, fair]

/-- Every label is one of the four. -/
theorem scoreLabel_mem (score : Int) : scoreLabel score ∈ labelOrder := by
  rw [scoreLabel_eq]
  split_ifs <;> decide

/-- A lower score has no better label. -/
theorem labelRank_scoreLabel_anti {lower higher : Int} (below : lower ≤ higher) :
    labelRank (scoreLabel higher) ≤ labelRank (scoreLabel lower) := by
  have rank (score : Int) : labelRank (scoreLabel score) =
      if 80 ≤ score then 0 else if 60 ≤ score then 1 else if 40 ≤ score then 2 else 3 := by
    rw [scoreLabel_eq]
    split_ifs <;> decide
  rw [rank, rank]
  split_ifs <;> omega

/-- One finding more adds its own penalty. -/
theorem totalPenalty_insert (finding : Finding) (before after : List Finding) :
    totalPenalty (before ++ finding :: after) =
      finding.severity.penalty + totalPenalty (before ++ after) :=
  totalPenalty_perm List.perm_middle.symm

/-- **One finding more makes no report better.** -/
theorem report_insert (finding : Finding) (before after : List Finding) :
    (Report.ofFindings (before ++ finding :: after)).IsNoBetter
      (.ofFindings (before ++ after)) := by
  have score : securityScore (before ++ finding :: after) ≤ securityScore (before ++ after) := by
    rw [securityScore, securityScore, totalPenalty_insert]
    omega
  have quality : codeQuality (before ++ finding :: after) ≤ codeQuality (before ++ after) := by
    have size : (before ++ finding :: after).length = (before ++ after).length + 1 :=
      List.perm_middle.length_eq
    rw [codeQuality, codeQuality, size, qualityPenalty]
    omega
  exact ⟨score, quality, ⟨scoreLabel_mem _, scoreLabel_mem _⟩,
    labelRank_scoreLabel_anti (Int.ofNat_le.mpr score)⟩

/-- **The numbers of the badge agree with each other.** They can all be told from the counts of the
severities, they do not depend on the order of the findings, and a further finding improves none of
them. -/
theorem badge_addsUp (found : List Finding) :
    (Report.ofFindings found).AddsUp ∧
    (∀ other, found.Perm other → (Report.ofFindings other).CountsAs (.ofFindings found)) ∧
    (∀ before after, found = before ++ after → ∀ finding,
      (Report.ofFindings (before ++ finding :: after)).IsNoBetter (.ofFindings found)) := by
  refine ⟨report_addsUp found, fun other same => report_perm same, ?_⟩
  rintro before after rfl finding
  exact report_insert finding before after

end Soliscope.Scan
