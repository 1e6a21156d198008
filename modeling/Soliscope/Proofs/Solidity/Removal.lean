import Mathlib.Data.List.Infix
import Soliscope.Proofs.Solidity.Flattening

/-! # Whether flattening removes the imports that it resolves

A step takes the statement of an import out where the text has it first, and by then the text has
the code of the imports before it in front of the rest of the source. If that code holds the
statement, it is lost there, and the import stays in the source. This is the only thing that can go
wrong in a source whose statements stand alone: its own text keeps none of them exactly if no code
holds the statement of a later import (`flatten_removes_iff`).

Code that is hit once may be torn, so what a statement meets afterwards is not known. But a step
never takes more out of the source's own text than one statement, and after a step that took nothing
out of it the text stays too long (`foldl_inline_tail`).
-/

namespace Soliscope.Solidity

open Soliscope.Text

/-- The import is still to come after the text up to the first semicolon and the lines in front of
the first statement. -/
structure IsLater (opening line : List Char) (one : Resolved) : Prop where
  written : one.IsWritten
  whole : ';' ∉ one.path
  unbroken : '\n' ∉ one.statement
  clearOpening : ¬ one.statement <:+: opening ++ [';']
  clearLine : ¬ one.statement <:+: line

/-- The characters of the statements together. -/
def sizeOfStatements (ones : List Resolved) : Nat :=
  (ones.flatMap (·.statement)).length

/-- The sizes of statements add up. -/
theorem sizeOfStatements_cons (one : Resolved) (ones : List Resolved) :
    sizeOfStatements (one :: ones) = one.statement.length + sizeOfStatements ones := by
  rw [sizeOfStatements, List.flatMap_cons, List.length_append]
  rfl

/-- One of the statements is found in text that is not the source's own: in what has been put in
before, or in the code of an import before it. -/
def IsDistracted (put : List Char) (ones : List Resolved) : Prop :=
  (∃ one ∈ ones, one.statement <:+: put) ∨ ¬ IsApart ones

namespace IsLater

variable {opening line : List Char} {one : Resolved}

/-- A later statement is not removed from the opening. -/
theorem remove_after_opening (later : IsLater opening line one) (opens : ';' ∉ opening)
    (text : List Char) :
    replaceFirst one.statement [] (opening ++ ';' :: text) =
      opening ++ ';' :: replaceFirst one.statement [] text := by
  obtain ⟨inner, noTerminator, ends⟩ := later.written.statement_end later.whole
  have clear : ∀ before after, opening ++ [';'] = before ++ after → after ≠ [] →
      ¬ one.statement <+: after ++ text := by
    intro before after cut given starts
    rcases List.suffix_concat_iff.mp ⟨before, cut.symm⟩ with nothing | ⟨short, rfl, inOpening⟩
    · exact given nothing
    · obtain ⟨rest, starts⟩ := starts
      have shortOpens : ';' ∉ short := fun member => opens (inOpening.subset member)
      simp only [ends, List.append_assoc, List.singleton_append] at starts
      obtain rfl := eq_of_append_break noTerminator shortOpens starts
      refine later.clearOpening ⟨before, [], ?_⟩
      rw [ends, cut, List.append_nil]
  simpa using replaceFirst_after clear []

/-- A statement that occurs in the lines put in is removed there, and they remain lines. -/
theorem remove_in_lines (later : IsLater opening line one) {put : List Char} (lined : IsLines put)
    (within : one.statement <:+: put) :
    ∃ left, IsLines left ∧ ∀ text,
      replaceFirst one.statement [] (put ++ text) = left ++ text := by
  have given := later.written.statement_ne_nil
  rcases lined with rfl | ⟨front, rfl⟩
  · exact (given (List.infix_nil.mp within)).elim
  · have inFront : one.statement <:+: front :=
      (infix_append_break later.unbroken within).resolve_right fun nothing =>
        given (List.infix_nil.mp nothing)
    refine ⟨replaceFirst one.statement [] front ++ ['\n'], Or.inr ⟨_, rfl⟩, fun text => ?_⟩
    rw [List.append_assoc, replaceFirst_within inFront, List.append_assoc]

theorem remove_after_lines (later : IsLater opening line one) {put : List Char}
    (lined : IsLines put) (missing : ¬ one.statement <:+: put) (text : List Char) :
    replaceFirst one.statement [] (put ++ (line ++ '\n' :: text)) =
      put ++ (line ++ '\n' :: replaceFirst one.statement [] text) := by
  have clear := lined.not_infix_append later.unbroken missing later.clearLine
  rw [← List.append_assoc, replaceFirst_past_break later.unbroken clear, List.append_assoc]

end IsLater

/-- The code is a part of what is put in. -/
theorem Resolved.code_infix_block (one : Resolved) : one.code <:+: one.block :=
  ⟨['\n', '\n'], ['\n'], rfl⟩

/-- Statements that are distracted without the first of them, which is not, are so by what is there
when it has been put in. -/
theorem IsDistracted.tail {put : List Char} {one : Resolved} {ones : List Resolved}
    (distracted : IsDistracted put (one :: ones)) (missing : ¬ one.statement <:+: put) :
    IsDistracted (one.block ++ put) ones := by
  rcases distracted with ⟨other, member, within⟩ | close
  · rcases List.mem_cons.mp member with rfl | later
    · exact (missing within).elim
    · exact Or.inl ⟨other, later, within.trans (List.suffix_append _ _).isInfix⟩
  · by_cases apart : IsApart ones
    · refine Or.inl ?_
      by_contra missingNext
      refine close (List.Pairwise.cons (fun other later within => missingNext ?_) apart)
      refine ⟨other, later, within.trans ?_⟩
      exact one.code_infix_block.trans (List.prefix_append _ _).isInfix
    · exact Or.inr apart

/-- **What a run leaves of the source's own text.** Every step takes at most its statement out of
it, and no newline; if a statement is found elsewhere, too much is left. -/
theorem foldl_inline_tail {opening line : List Char} (opens : ';' ∉ opening)
    {ones : List Resolved} (later : ∀ one ∈ ones, IsLater opening line one) {put : List Char}
    (lined : IsLines put) (text : List Char) :
    ∃ left rest,
      ones.foldl Resolved.inline (opening ++ ';' :: (put ++ (line ++ '\n' :: text))) =
        opening ++ ';' :: (left ++ (line ++ '\n' :: rest)) ∧
      rest.count '\n' = text.count '\n' ∧
      text.length ≤ rest.length + sizeOfStatements ones ∧
      (IsDistracted put ones → text.length < rest.length + sizeOfStatements ones) := by
  induction ones generalizing put text with
  | nil =>
      refine ⟨put, text, rfl, rfl, Nat.le_add_right _ _, ?_⟩
      rintro (⟨one, member, -⟩ | close)
      · exact (List.not_mem_nil member).elim
      · exact (close List.Pairwise.nil).elim
  | cons one ones ih =>
      obtain ⟨first, others⟩ := List.forall_mem_cons.mp later
      have positive := List.length_pos_of_ne_nil first.written.statement_ne_nil
      have size := sizeOfStatements_cons one ones
      by_cases within : one.statement <:+: put
      · obtain ⟨torn, tornLined, removed⟩ := first.remove_in_lines lined within
        obtain ⟨left, rest, run, newlines, atLeast, -⟩ :=
          ih others (one.isLines_block.append tornLined) text
        refine ⟨left, rest, ?_, newlines, by omega, fun _ => by omega⟩
        rw [List.foldl_cons, Resolved.inline, first.remove_after_opening opens, removed,
          insertCode_of_terminator opens, ← List.append_assoc, run]
      · obtain ⟨left, rest, run, newlines, atLeast, more⟩ :=
          ih others (one.isLines_block.append lined) (replaceFirst one.statement [] text)
        have taken := length_le_removeFirst one.statement text
        refine ⟨left, rest, ?_, ?_, by omega, ?_⟩
        · rw [List.foldl_cons, Resolved.inline, first.remove_after_opening opens,
            first.remove_after_lines lined within, insertCode_of_terminator opens,
            ← List.append_assoc, run]
        · rw [newlines, count_removeFirst first.unbroken]
        · intro distracted
          have := more (distracted.tail within)
          omega

/-- Outside the statements is what the text has without them, with all newlines. -/
theorem Divided.outside_size {files : List (String × String)} {before text : List Char}
    {ones : List Resolved} (divided : Divided files before text ones)
    (unbroken : ∀ one ∈ ones, '\n' ∉ one.statement) :
    (outside ones before.length text).length + sizeOfStatements ones = text.length ∧
      (outside ones before.length text).count '\n' = text.count '\n' := by
  induction divided with
  | last before text =>
      rw [outside_nil]
      exact ⟨rfl, rfl⟩
  | @next before gap rest one ones starts clear divided ih =>
      obtain ⟨unbrokenFirst, unbrokenLater⟩ := List.forall_mem_cons.mp unbroken
      obtain ⟨size, newlines⟩ := ih unbrokenLater
      have stops := length_before_stop starts
      rw [stops] at size newlines
      rw [outside_gap starts (stops ▸ divided.length_le_start)]
      constructor
      · simp only [List.length_append, sizeOfStatements_cons]
        omega
      · simp only [List.count_append, newlines, List.count_eq_zero_of_not_mem unbrokenFirst,
          Nat.zero_add]

/-- A text that goes on too long after a newline, without a newline more, has other last lines. -/
theorem not_suffix_of_longer {front kept rest : List Char} (longer : rest.length < kept.length)
    (newlines : kept.count '\n' = rest.count '\n') : ¬ '\n' :: rest <:+ front ++ '\n' :: kept := by
  intro ends
  have lastLines : '\n' :: rest <:+ '\n' :: kept :=
    List.suffix_of_suffix_length_le ends (List.suffix_append _ _) (Nat.succ_le_succ longer.le)
  rcases List.suffix_cons_iff.mp lastLines with same | inKept
  · rw [(List.cons.inj same).2] at longer
    exact Nat.lt_irrefl _ longer
  · have atMost := inKept.sublist.count_le '\n'
    rw [List.count_cons_self, newlines] at atMost
    exact Nat.not_succ_le_self _ atMost

section Sources

variable {files : List (String × String)} {source opening text : List Char}

/-- Every resolved import of a stand-alone source is looked for. -/
theorem StandAlone.isSought (alone : StandAlone source (resolved files source)) :
    ∀ one ∈ resolved files source, IsSought files one.toImport := by
  intro one member
  obtain ⟨written, -, given⟩ := isWritten_of_mem_resolved member
  exact ⟨written, by rw [given]; rfl, alone.whole one member⟩

/-- Statements that stand alone have the text up to the first semicolon in front of them. -/
theorem StandAlone.front
    (alone : StandAlone (opening ++ ';' :: text) (resolved files (opening ++ ';' :: text)))
    (opens : ';' ∉ opening) :
    Divided files (opening ++ [';']) text (resolved files (opening ++ ';' :: text)) ∧
      IsFront (resolved files (opening ++ ';' :: text)) opening [] := by
  have sought := alone.isSought
  have after := alone.after
  have divided : Divided files [] (opening ++ ';' :: text)
      (resolved files (opening ++ ';' :: text)) := Divided.of_placedFrom files [] _
  have whole : opening ++ ';' :: text = (opening ++ [';']) ++ text := by simp
  rw [codeStart_of_terminator opens] at after
  rw [whole] at divided after sought ⊢
  obtain ⟨fromCode, clearOpening⟩ := divided.drop_front after
  refine ⟨fromCode, opens, fun one member => clearOpening one member (sought one member),
    Or.inl rfl, fun one member within => ?_⟩
  exact (sought one member).written.statement_ne_nil (List.infix_nil.mp within)

/-- A source whose statements are found in code before them does not lose all of them. -/
theorem not_suffix_of_close {before text : List Char} {ones : List Resolved}
    (divided : Divided files before text ones) (alone : StandAlone (before ++ text) ones)
    (sought : ∀ one ∈ ones, IsSought files one.toImport) (ends : before.getLast? = some ';')
    {opening : List Char} (front : IsFront ones opening []) (close : ¬ IsApart ones) :
    ¬ outside ones before.length text <:+ ones.foldl Resolved.inline (opening ++ ';' :: text) := by
  cases divided with
  | last _ _ => exact (close List.Pairwise.nil).elim
  | @next _ gap rest one ones starts clear divided =>
      obtain ⟨line, rfl⟩ := alone.gap_eq starts ends
      have later : ∀ other ∈ one :: ones, IsLater opening line other := fun other member =>
        { written := (sought other member).written
          whole := (sought other member).whole
          unbroken := alone.unbroken other member
          clearOpening := front.clearOpening other member
          clearLine := fun within => clear _ (sought other member)
            (within.trans (List.prefix_append _ _).isInfix) }
      obtain ⟨left, kept, run, newlines, -, more⟩ :=
        foldl_inline_tail front.opens later (Or.inl rfl) (one.statement ++ rest)
      obtain ⟨unbroken, unbrokenLater⟩ := List.forall_mem_cons.mp alone.unbroken
      obtain ⟨size, expected⟩ := divided.outside_size unbrokenLater
      have stops := length_before_stop starts
      rw [stops] at size expected
      have shape : outside (one :: ones) before.length (line ++ ['\n'] ++ (one.statement ++ rest)) =
          line ++ '\n' :: outside ones one.stop rest := by
        rw [outside_gap starts (stops ▸ divided.length_le_start), List.append_assoc,
          List.singleton_append]
      have tooLong : (outside ones one.stop rest).length < kept.length := by
        have much := more (Or.inr close)
        rw [List.length_append, sizeOfStatements_cons] at much
        omega
      intro ends
      have split : line ++ ['\n'] ++ (one.statement ++ rest) =
          [] ++ (line ++ '\n' :: (one.statement ++ rest)) := by simp
      have regrouped : opening ++ ';' :: (left ++ (line ++ '\n' :: kept)) =
          (opening ++ ';' :: (left ++ line)) ++ '\n' :: kept := by simp
      rw [shape, split, run, regrouped] at ends
      rw [List.count_append, List.count_eq_zero_of_not_mem unbroken, Nat.zero_add] at newlines
      have lastLines := (List.suffix_append line _).trans ends
      exact not_suffix_of_longer tooLong (newlines.trans expected.symm) lastLines

/-- **The source's own text keeps none of the resolved statements exactly if no code holds the
statement of a later import.** -/
theorem flatten_removes_iff {source : String}
    (alone : StandAlone source.toList (resolved files source.toList)) :
    outside (resolved files source.toList) (codeStart source.toList)
        (source.toList.drop (codeStart source.toList)) <:+ (flatten source files).toList ↔
      IsApart (resolved files source.toList) := by
  rw [flatten, foldl_inlineImport, String.toList_ofList]
  generalize source.toList = source at *
  by_cases terminated : ';' ∈ source
  · obtain ⟨opening, text, rfl, opens⟩ := List.eq_append_cons_of_mem terminated
    obtain ⟨divided, front⟩ := alone.front opens
    have sought := alone.isSought
    have place := codeStart_of_terminator opens text
    have whole : opening ++ ';' :: text = (opening ++ [';']) ++ text := by simp
    have dropped : (opening ++ ';' :: text).drop (codeStart (opening ++ ';' :: text)) = text := by
      rw [place, whole, List.drop_left]
    rw [dropped, place]
    generalize resolved files (opening ++ ';' :: text) = ones at *
    rw [whole] at alone
    constructor
    · intro ends
      by_contra close
      exact not_suffix_of_close divided alone sought List.getLast?_concat front close ends
    · intro apart
      have run := foldl_inline_apart divided alone apart sought List.getLast?_concat [] front
      rw [List.nil_append, List.nil_append] at run
      rw [run]
      exact ⟨opening ++ ';' :: ones.reverse.flatMap Resolved.block, by simp⟩
  · rw [resolved_of_unterminated terminated, outside_nil]
    exact iff_of_true (List.drop_suffix _ _) List.Pairwise.nil

end Sources

/-- A source that imports a library and a file that imports this library itself, in one order and in
the other. -/
def libraryFirst : String :=
  "pragma solidity ^0.8.0;\nimport 'B';\nimport 'A';\ncontract C \x7b\x7d"

def libraryLast : String :=
  "pragma solidity ^0.8.0;\nimport 'A';\nimport 'B';\ncontract C \x7b\x7d"

def sharedLibrary : List (String × String) :=
  [("A", "import 'B';\nlibrary A \x7b\x7d"), ("B", "library B \x7b\x7d")]

theorem flatten_removes_libraryFirst :
    StandAlone libraryFirst.toList (resolved sharedLibrary libraryFirst.toList) ∧
      IsApart (resolved sharedLibrary libraryFirst.toList) ∧
      "\n\n\ncontract C \x7b\x7d".toList <:+ (flatten libraryFirst sharedLibrary).toList := by
  have alone : StandAlone libraryFirst.toList (resolved sharedLibrary libraryFirst.toList) := by
    decide +kernel
  have apart : IsApart (resolved sharedLibrary libraryFirst.toList) := by decide +kernel
  have own : outside (resolved sharedLibrary libraryFirst.toList) (codeStart libraryFirst.toList)
      (libraryFirst.toList.drop (codeStart libraryFirst.toList)) =
        "\n\n\ncontract C \x7b\x7d".toList := by
    decide +kernel
  refine ⟨alone, apart, ?_⟩
  rw [← own]
  exact (flatten_removes_iff alone).mpr apart

/-- The statement of the library is taken out of the code of the other file, and the source keeps
its own. -/
theorem import_left_of_shared_library :
    StandAlone libraryLast.toList (resolved sharedLibrary libraryLast.toList) ∧
      flatten libraryLast sharedLibrary =
        "pragma solidity ^0.8.0;" ++ "\n\nlibrary B \x7b\x7d\n" ++
          "\n\n\nlibrary A \x7b\x7d\n" ++ "\n\nimport 'B';\ncontract C \x7b\x7d" ∧
      ¬ outside (resolved sharedLibrary libraryLast.toList) (codeStart libraryLast.toList)
          (libraryLast.toList.drop (codeStart libraryLast.toList)) <:+
        (flatten libraryLast sharedLibrary).toList := by
  refine ⟨?_, ?_, ?_⟩ <;> decide +kernel

end Soliscope.Solidity
