import Mathlib.Data.List.Nodup
import Mathlib.Data.Prod.Lex
import Soliscope.Proofs.Number.Decimals
import Soliscope.Scan.Catalog
import Soliscope.Url.Basic

/-! # Which findings there are, and in which order

A rule reports a line exactly if it accepts the line (`Rule.mem_findings_iff`). The findings of a
source come in the order of the catalog and, for each rule, in the order of the lines
(`findings_ordered`). An id is read back at its last hyphen, since a number has none: whatever ids
the rules have, a finding tells its rule and its line (`Rule.finding_reports`). So in a catalog of
distinct ids the order is strict, nothing is reported twice, and ids are distinct
(`findings_exact`).
-/

namespace Soliscope.Scan

/-- The rule accepts the line that has `index` lines before it. -/
def Rule.Hits (rule : Rule) (source : String) (index : Nat) : Prop :=
  ∃ line, (Text.lines source)[index]? = some line ∧ rule.accepts line = true

/-- What stands before the last hyphen of an id, and what stands after it. -/
def Finding.origin? (finding : Finding) : Option (String × String) :=
  (Url.splitAtLast? '-' finding.id.toList).map fun parts =>
    (String.ofList parts.1, String.ofList parts.2)

/-- The finding is what the rule says of the line that has `index` lines before it. -/
structure Finding.Reports (finding : Finding) (rule : Rule) (index : Nat) : Prop where
  origin : finding.origin? = some (rule.id, toString index)
  line : finding.line = index + 1
  severity : finding.severity = rule.severity
  title : finding.title = rule.title
  description : finding.description = rule.description
  recommendation : finding.recommendation = rule.recommendation
  category : finding.category = rule.category

/-- The position of the finding's rule in the catalog, and the line. -/
def Finding.place (catalog : List Rule) (finding : Finding) : Nat × Nat :=
  ((catalog.map Rule.id).idxOf ((finding.origin?.map Prod.fst).getD ""), finding.line)

/-- **The findings of a source, exactly.** Every rule reports every line that it accepts once and no
other line, nothing else is reported, findings are in the order of rules and lines, and their ids
are distinct. -/
structure AreExact (catalog : List Rule) (source : String) (found : List Finding) : Prop where
  once : ∀ rule ∈ catalog, ∀ index, rule.Hits source index →
    ∃! position : Nat, ∃ finding : Finding,
      found[position]? = some finding ∧ finding.Reports rule index
  silent : ∀ rule ∈ catalog, ∀ index, ¬ rule.Hits source index →
    ∀ finding ∈ found, ¬ finding.Reports rule index
  grounded : ∀ finding ∈ found, ∃ rule ∈ catalog, ∃ index, rule.Hits source index ∧
    finding.Reports rule index
  ordered : found.Pairwise fun earlier later =>
    Prod.Lex (· < ·) (· < ·) (earlier.place catalog) (later.place catalog)
  distinct : (found.map Finding.id).Nodup

/-! ## Ids -/

/-- A text is divided at its last mark. -/
theorem splitAtLast?_append {mark : Char} {after : List Char} (absent : mark ∉ after)
    (before : List Char) :
    Url.splitAtLast? mark (before ++ mark :: after) = some (before, after) := by
  have marked : (before ++ mark :: after).contains mark = true := by simp
  have reversed : (before ++ mark :: after).reverse =
      after.reverse ++ mark :: before.reverse := by simp
  have goesOn : ∀ c ∈ after.reverse, (c != mark) = true := fun c member =>
    bne_iff_ne.mpr (ne_of_mem_of_not_mem (List.mem_reverse.mp member) absent)
  have taken : (before ++ mark :: after).reverse.takeWhile (· != mark) = after.reverse := by
    rw [reversed, List.takeWhile_append_of_pos goesOn,
      List.takeWhile_cons_of_neg (by simp), List.append_nil]
  have size : (before ++ mark :: after).length - after.reverse.length - 1 = before.length := by
    rw [List.length_append, List.length_cons, List.length_reverse]
    omega
  rw [Url.splitAtLast?, if_pos marked, taken]
  dsimp only
  rw [size, List.take_left, List.reverse_reverse]

namespace Rule

variable {rule : Rule} {source : String} {finding : Finding} {catalog : List Rule}

/-- **The id of a finding tells the rule and the line.** -/
theorem finding_reports (rule : Rule) (index : Nat) : (rule.finding index).Reports rule index where
  origin := by
    have id : (rule.finding index).id.toList =
        rule.id.toList ++ '-' :: (toString index).toList := by
      rw [finding, findingId, String.toList_append, String.toList_append, List.append_assoc]
      rfl
    have noHyphen := Number.notMem_toString (c := '-') rfl index
    rw [Finding.origin?, id, splitAtLast?_append noHyphen, Option.map_some, String.ofList_toList,
      String.ofList_toList]
  line := rfl
  severity := rfl
  title := rfl
  description := rfl
  recommendation := rfl
  category := rfl

/-- The findings of a rule are those of the lines that it hits. -/
theorem mem_findings_iff :
    finding ∈ rule.findings (Text.lines source) ↔
      ∃ index, rule.Hits source index ∧ finding = rule.finding index := by
  rw [findings, List.mem_filterMap]
  constructor
  · rintro ⟨⟨line, index⟩, member, reported⟩
    obtain ⟨accepted, same⟩ := Option.ite_none_right_eq_some.mp reported
    have isLine := List.mem_zipIdx_iff_getElem?.mp member
    exact ⟨index, ⟨line, isLine, accepted⟩, (Option.some.inj same).symm⟩
  · rintro ⟨index, ⟨line, isLine, accepted⟩, rfl⟩
    exact ⟨(line, index), List.mem_zipIdx_iff_getElem?.mpr isLine, if_pos accepted⟩

/-- A rule reports its lines in order, each once. -/
theorem findings_increase (rule : Rule) (lines : List String) :
    (rule.findings lines).Pairwise fun earlier later => earlier.line < later.line := by
  have indices : (lines.zipIdx.map Prod.snd).Pairwise (· < ·) := by
    rw [List.zipIdx_map_snd]
    exact List.pairwise_lt_range' 1
  rw [findings, List.pairwise_filterMap]
  apply (List.pairwise_map.mp indices).imp
  rintro ⟨line, index⟩ ⟨laterLine, laterIndex⟩ before earlier found later laterFound
  obtain ⟨-, same⟩ := Option.ite_none_right_eq_some.mp found
  obtain ⟨-, laterSame⟩ := Option.ite_none_right_eq_some.mp laterFound
  rw [← Option.some.inj same, ← Option.some.inj laterSame]
  exact Nat.succ_lt_succ before

end Rule

/-! ## The findings of a catalog -/

section Catalogs

variable {catalog : List Rule} {source : String} {finding other : Finding} {rule otherRule : Rule}
  {index otherIndex : Nat}

/-- The findings of a catalog are those of its rules. -/
theorem mem_findings_iff :
    finding ∈ findings catalog source ↔
      ∃ rule ∈ catalog, ∃ index, rule.Hits source index ∧ finding = rule.finding index := by
  simp only [findings, List.mem_flatMap, Rule.mem_findings_iff]

namespace Finding.Reports

/-- The place of a finding tells its rule and its line. -/
theorem place_eq (reports : finding.Reports rule index) (catalog : List Rule) :
    finding.place catalog = ((catalog.map Rule.id).idxOf rule.id, index + 1) := by
  rw [place, reports.origin, reports.line]
  rfl

/-- A finding of the same origin is one of the same rule and line. -/
theorem index_eq (reports : finding.Reports rule index)
    (others : other.Reports otherRule otherIndex) (same : finding.origin? = other.origin?) :
    rule.id = otherRule.id ∧ index = otherIndex := by
  rw [reports.origin, others.origin, Option.some.injEq, Prod.mk.injEq] at same
  exact ⟨same.1, Number.eq_of_toString_eq same.2⟩

end Finding.Reports

theorem place_eq_of_mem (found : finding ∈ rule.findings (Text.lines source)) :
    finding.place catalog = ((catalog.map Rule.id).idxOf rule.id, finding.line) := by
  obtain ⟨index, -, rfl⟩ := Rule.mem_findings_iff.mp found
  exact (rule.finding_reports index).place_eq catalog

/-- A rule can be told from its identifier. -/
theorem eq_of_id_eq (distinct : (catalog.map Rule.id).Nodup) (member : rule ∈ catalog)
    (otherMember : otherRule ∈ catalog) (same : rule.id = otherRule.id) : rule = otherRule :=
  List.inj_on_of_nodup_map distinct member otherMember same

/-- In a catalog of distinct ids, positions are those of the ids. -/
theorem positions_increase (distinct : (catalog.map Rule.id).Nodup) :
    catalog.Pairwise fun earlier later =>
      (catalog.map Rule.id).idxOf earlier.id < (catalog.map Rule.id).idxOf later.id := by
  have place (position : Nat) (within : position < catalog.length) :
      (catalog.map Rule.id).idxOf catalog[position].id = position := by
    have found := distinct.idxOf_getElem position (by rwa [List.length_map])
    rwa [List.getElem_map] at found
  rw [List.pairwise_iff_getElem]
  intro first second firstWithin secondWithin before
  rwa [place first firstWithin, place second secondWithin]

/-- Findings stand in the order of their places, first by rule and then by line. -/
theorem findings_ordered (distinct : (catalog.map Rule.id).Nodup) (source : String) :
    (findings catalog source).Pairwise fun earlier later =>
      Prod.Lex (· < ·) (· < ·) (earlier.place catalog) (later.place catalog) := by
  rw [findings, List.pairwise_flatMap]
  constructor
  · intro rule member
    apply (rule.findings_increase (Text.lines source)).imp_of_mem
    intro earlier later earlierFound laterFound before
    rw [place_eq_of_mem earlierFound, place_eq_of_mem laterFound]
    exact Prod.Lex.right _ before
  · apply (positions_increase distinct).imp
    intro rule laterRule before earlier earlierFound later laterFound
    rw [place_eq_of_mem earlierFound, place_eq_of_mem laterFound]
    exact Prod.Lex.left _ _ before

theorem not_lex_self (place : Nat × Nat) : ¬ Prod.Lex (· < ·) (· < ·) place place := by
  rw [Prod.lex_def]
  omega

/-- In that order no place comes twice. -/
theorem position_eq_of_place_eq {found : List Finding}
    (ordered : found.Pairwise fun earlier later =>
      Prod.Lex (· < ·) (· < ·) (earlier.place catalog) (later.place catalog))
    {first second : Nat} (isFirst : found[first]? = some finding)
    (isSecond : found[second]? = some other)
    (same : finding.place catalog = other.place catalog) : first = second := by
  obtain ⟨firstWithin, rfl⟩ := List.getElem?_eq_some_iff.mp isFirst
  obtain ⟨secondWithin, rfl⟩ := List.getElem?_eq_some_iff.mp isSecond
  have strict := List.pairwise_iff_getElem.mp ordered
  rcases Nat.lt_trichotomy first second with before | equal | after
  · have less := strict first second firstWithin secondWithin before
    rw [same] at less
    exact (not_lex_self _ less).elim
  · exact equal
  · have less := strict second first secondWithin firstWithin after
    rw [same] at less
    exact (not_lex_self _ less).elim

/-- **What is found is exact, if the ids of the rules are distinct.** -/
theorem findings_exact (distinct : (catalog.map Rule.id).Nodup) (source : String) :
    AreExact catalog source (findings catalog source) where
  once := by
    intro rule member index hits
    have found := mem_findings_iff.mpr ⟨rule, member, index, hits, rfl⟩
    obtain ⟨position, isPosition⟩ := List.mem_iff_getElem?.mp found
    refine ⟨position, ⟨_, isPosition, rule.finding_reports index⟩, ?_⟩
    rintro otherPosition ⟨other, isOther, reports⟩
    apply position_eq_of_place_eq (findings_ordered distinct source) isOther isPosition
    rw [reports.place_eq, (rule.finding_reports index).place_eq]
  silent := by
    intro rule member index misses finding found reports
    obtain ⟨otherRule, otherMember, otherIndex, hits, rfl⟩ := mem_findings_iff.mp found
    obtain ⟨sameId, rfl⟩ := reports.index_eq (otherRule.finding_reports otherIndex) rfl
    obtain rfl := eq_of_id_eq distinct member otherMember sameId
    exact misses hits
  grounded := by
    intro finding found
    obtain ⟨rule, member, index, hits, rfl⟩ := mem_findings_iff.mp found
    exact ⟨rule, member, index, hits, rule.finding_reports index⟩
  ordered := findings_ordered distinct source
  distinct := by
    rw [List.Nodup, List.pairwise_map]
    apply (findings_ordered distinct source).imp_of_mem
    intro earlier later earlierFound laterFound before same
    obtain ⟨rule, -, index, -, rfl⟩ := mem_findings_iff.mp earlierFound
    obtain ⟨laterRule, -, laterIndex, -, rfl⟩ := mem_findings_iff.mp laterFound
    have reports := rule.finding_reports index
    have laterReports := laterRule.finding_reports laterIndex
    have sameOrigin : (rule.finding index).origin? = (laterRule.finding laterIndex).origin? := by
      rw [Finding.origin?, Finding.origin?, same]
    obtain ⟨sameId, rfl⟩ := reports.index_eq laterReports sameOrigin
    rw [reports.place_eq, laterReports.place_eq, sameId] at before
    exact not_lex_self _ before

end Catalogs

/-- Two rules for the same lines, one of which has an id like a finding of the other. -/
def hyphenRules : List Rule := [
  .ofPattern "a" (.literal "x") .low "" "" "" "",
  .ofPattern "a-1" (.literal "x") .high "" "" "" ""]

theorem findings_exact_hyphenRules :
    (hyphenRules.map Rule.id).Nodup ∧
      (findings hyphenRules "x\ny\nx").map Finding.id = ["a-0", "a-2", "a-1-0", "a-1-2"] ∧
      AreExact hyphenRules "x\ny\nx" (findings hyphenRules "x\ny\nx") := by
  have distinct : (hyphenRules.map Rule.id).Nodup := by decide
  exact ⟨distinct, by decide +kernel, findings_exact distinct _⟩

end Soliscope.Scan
