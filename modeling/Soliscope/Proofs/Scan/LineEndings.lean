import Mathlib.Data.List.Forall2
import Soliscope.Proofs.Scan.Languages
import Soliscope.Scan.Report

/-! # Scans and line endings

A carriage return in front of every newline leaves the lines of a text as they are, or adds a return
at their end (`segments_addReturns`). Some patterns take a return for blank space, and in some it
may be in a run of other characters. But the texts of a pattern end in a fixed text: a text that
does not end in a return and lies in a line with one lies in the line without it
(`Pattern.accepts_gained`). So a scan reports the same whichever line ending a source has
(`scan_withReturns`).
-/

namespace Soliscope

namespace Text

/-- Put a carriage return in front of every newline. -/
def addReturns (text : List Char) : List Char :=
  text.flatMap fun c => if c = '\n' then ['\r', '\n'] else [c]

/-- A source in which every newline has a carriage return in front of it. -/
def withReturns (source : String) : String :=
  String.ofList (addReturns source.toList)

/-- A line that is the same as another, or has gained a return at its end. -/
def IsGained (line gained : List Char) : Prop :=
  gained = line ∨ gained = line ++ ['\r']

theorem IsGained.cons {line gained : List Char} (same : IsGained line gained) (c : Char) :
    IsGained (c :: line) (c :: gained) := by
  rcases same with rfl | rfl
  · exact Or.inl rfl
  · exact Or.inr rfl

theorem addReturns_newline (rest : List Char) :
    addReturns ('\n' :: rest) = '\r' :: '\n' :: addReturns rest := rfl

/-- Any other character stays alone. -/
theorem addReturns_cons {c : Char} (different : c ≠ '\n') (rest : List Char) :
    addReturns (c :: rest) = c :: addReturns rest := by
  rw [addReturns, List.flatMap_cons, if_neg different]
  rfl

/-- A newline ends an empty segment. -/
theorem segments_newline (rest : List Char) : segments ('\n' :: rest) = [] :: segments rest := by
  rw [segments, List.splitOn_cons_eq_if_modifyHead, if_pos (beq_self_eq_true '\n')]
  rfl

/-- Any other character belongs to the first segment. -/
theorem segments_cons {c : Char} (different : c ≠ '\n') (rest : List Char) :
    segments (c :: rest) = (segments rest).modifyHead (c :: ·) := by
  rw [segments, List.splitOn_cons_eq_if_modifyHead, if_neg (by simpa using different)]
  rfl

/-- A character in front of the first lines leaves them the same. -/
theorem forall₂_isGained_modifyHead {lines gained : List (List Char)}
    (same : List.Forall₂ IsGained lines gained) (c : Char) :
    List.Forall₂ IsGained (lines.modifyHead (c :: ·)) (gained.modifyHead (c :: ·)) := by
  cases same with
  | nil => exact .nil
  | cons first others => exact .cons (first.cons c) others

/-- **The lines of a text with returns are its lines, some of them with a return at their end.** -/
theorem segments_addReturns (text : List Char) :
    List.Forall₂ IsGained (segments text) (segments (addReturns text)) := by
  induction text with
  | nil => exact .cons (Or.inl rfl) .nil
  | cons c rest ih =>
      by_cases newline : c = '\n'
      · subst newline
        rw [addReturns_newline, segments_newline, segments_cons (by decide), segments_newline]
        exact .cons (Or.inr rfl) ih
      · rw [addReturns_cons newline, segments_cons newline, segments_cons newline]
        exact forall₂_isGained_modifyHead ih c

/-- Each line gains a return at its end, or nothing if it is the last. -/
theorem lines_withReturns (source : String) :
    List.Forall₂ (fun line gained => IsGained line.toList gained.toList)
      (lines source) (lines (withReturns source)) := by
  rw [lines, lines, List.forall₂_map_left_iff, List.forall₂_map_right_iff, withReturns,
    String.toList_ofList]
  simp only [String.toList_ofList]
  exact segments_addReturns source.toList

end Text

namespace Scan

open Soliscope.Text

/-- The last of some pieces is a fixed text that does not end in a carriage return. -/
def endsFirmly (pieces : List Piece) : Bool :=
  match pieces.getLast? with
  | some (.text written) => written.getLast?.any (· != '\r')
  | _ => false

/-- Every choice of a pattern ends in a fixed text that does not end in a carriage return. -/
def Pattern.isFirm (pattern : Pattern) : Bool :=
  pattern.choices.all endsFirmly

/-- What such pieces stand for ends as they do. -/
theorem Spells.ends {pieces : List Piece} {part : List Char} (spelled : Spells pieces part)
    (firm : endsFirmly pieces = true) : ∃ last, last ≠ '\r' ∧ [last] <:+ part := by
  induction pieces generalizing part with
  | nil => cases firm
  | cons piece pieces ih =>
      obtain ⟨first, rest, spelledFirst, spelledRest, rfl⟩ := spelled
      cases pieces with
      | nil =>
          obtain rfl : rest = [] := spelledRest
          cases piece with
          | text written =>
              obtain rfl : first = written := spelledFirst
              obtain ⟨last, isLast, other⟩ := (Option.any_eq_true _ _).mp firm
              obtain ⟨front, rfl⟩ := List.getLast?_eq_some_iff.mp isLast
              refine ⟨last, bne_iff_ne.mp other, front, ?_⟩
              rw [List.append_nil]
          | _ => cases firm
      | cons next others =>
          have firmRest : endsFirmly (next :: others) = true := by
            rwa [endsFirmly, List.getLast?_cons_cons] at firm
          obtain ⟨last, other, isLast⟩ := ih spelledRest firmRest
          exact ⟨last, other, isLast.trans (List.suffix_append first rest)⟩

/-- A part that does not end in a return lies in a line that has gained one if it lies in the line.
-/
theorem infix_gained_iff {part line gained : List Char} {last : Char} (ends : [last] <:+ part)
    (other : last ≠ '\r') (same : IsGained line gained) : part <:+: gained ↔ part <:+: line := by
  rcases same with rfl | rfl
  · exact Iff.rfl
  · constructor
    · intro within
      rcases List.infix_concat_iff.mp within with atEnd | before
      · obtain ⟨front, isEnd⟩ := ends.trans atEnd
        exact (other (List.singleton_inj.mp (List.append_inj' isEnd rfl).2)).elim
      · exact before
    · intro within
      exact within.trans (List.prefix_append line ['\r']).isInfix

/-- A firm pattern takes a line with or without a return. -/
theorem Pattern.accepts_gained {pattern : Pattern} (firm : pattern.isFirm = true)
    {line gained : String} (same : IsGained line.toList gained.toList) :
    pattern.accepts gained = pattern.accepts line := by
  rw [Bool.eq_iff_iff, pattern.accepts_iff, pattern.accepts_iff]
  refine exists_congr fun part => and_congr_right fun spelled => ?_
  obtain ⟨pieces, member, spelledPieces⟩ := spelled
  obtain ⟨last, other, ends⟩ := spelledPieces.ends (List.all_eq_true.mp firm pieces member)
  exact infix_gained_iff ends other same

/-- The rule reports a line whether or not it has a return at its end. -/
def Rule.IgnoresReturns (rule : Rule) : Prop :=
  ∀ line gained : String, IsGained line.toList gained.toList →
    rule.accepts gained = rule.accepts line

/-- A rule with a firm pattern ignores returns. -/
theorem Rule.ofPattern_ignoresReturns {pattern : Pattern} (firm : pattern.isFirm = true)
    (id : String) (severity : Severity)
    (title description recommendation category : String) :
    (ofPattern id pattern severity title description recommendation category).IgnoresReturns :=
  fun _ _ same => pattern.accepts_gained firm same

/-- All rules that are built in have firm patterns. -/
theorem builtinCatalog_ignoresReturns : ∀ rule ∈ builtinCatalog, rule.IgnoresReturns := by
  simp only [builtinCatalog, List.forall_mem_cons]
  refine ⟨?_, ?_, ?_, ?_, ?_, ?_, ?_, ?_, ?_, ?_, List.forall_mem_nil _⟩
  all_goals exact Rule.ofPattern_ignoresReturns (by decide) _ _ _ _ _ _

/-- What a rule finds depends on which lines it accepts only. -/
theorem Rule.findings_congr {rule : Rule} {lines others : List String}
    (same : List.Forall₂ (fun line other => rule.accepts other = rule.accepts line) lines others) :
    rule.findings others = rule.findings lines := by
  unfold findings
  generalize 0 = start
  induction same generalizing start with
  | nil => rfl
  | @cons line other lines others alike _ ih =>
      simp only [List.zipIdx_cons, List.filterMap_cons, alike, ih (start + 1)]

/-- Rules that ignore returns find the same. -/
theorem findings_withReturns {catalog : List Rule}
    (ignores : ∀ rule ∈ catalog, rule.IgnoresReturns) (source : String) :
    findings catalog (withReturns source) = findings catalog source := by
  refine List.flatMap_congr fun rule member => rule.findings_congr ?_
  exact (lines_withReturns source).imp fun line gained same => ignores rule member line gained same

/-- **The report on a source is the same for both line endings.** -/
theorem scan_withReturns (source : String) :
    (scan builtinCatalog (withReturns source)).value = (scan builtinCatalog source).value :=
  congrArg Report.ofFindings (findings_withReturns builtinCatalog_ignoresReturns source)

end Scan

end Soliscope
