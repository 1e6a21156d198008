import Soliscope.Proofs.Solidity.Removal

/-! # Whether flattening puts code in whole

Code goes after the first semicolon of the text as it is by then. While this is one and the same
semicolon, new code comes in front of the code that is there, and the rest of the text only loses
statements. A statement of a single line is not part of code without imports, and it does not reach
into code either, for there is a newline on both sides of it (`Resolved.block_keeps`).

The semicolon changes when a statement that ends with it is taken out. Then code may be put into
code. The first import cannot do this harm, since nothing has been put in before; a source is
anchored if no other one does, and then every code is found in one piece (`flatten_inlines_whole`).
Statements that stand alone, in particular those after a pragma, anchor a source
(`StandAlone.isAnchored`).
-/

namespace Soliscope.Solidity

open Soliscope.Text

/-- When the first import is gone, no other one ends with the first semicolon. These others are of a
single line. -/
def IsAnchored (source : List Char) : List Resolved → Prop
  | [] => True
  | first :: later => ∀ one ∈ later, '\n' ∉ one.statement ∧
      ¬ one.statement <:+ (splitAtTerminator (replaceFirst first.statement [] source)).1

instance (source : List Char) : (ones : List Resolved) → Decidable (IsAnchored source ones)
  | [] => inferInstanceAs (Decidable True)
  | _ :: later => inferInstanceAs (Decidable (∀ one ∈ later, _))

/-- The text has these codes, each in its block, after its first semicolon. -/
def HoldsCode (opening : List Char) (done : List Resolved) (text : List Char) : Prop :=
  ∃ body, text = opening ++ ';' :: '\n' :: body ∧ ∀ one ∈ done, one.block <:+: '\n' :: body

/-! ## Code without imports -/

/-- A text with a statement in it has an import. -/
theorem placedFrom_ne_nil {sought : Import} (written : sought.IsWritten) {text : List Char}
    (within : sought.statement <:+: text) (position : Nat) : placedFrom position 0 text ≠ [] := by
  induction text using scan_induction generalizing position with
  | nil => exact (written.statement_ne_nil (List.infix_nil.mp within)).elim
  | pass c rest nothing ih =>
      rw [placedFrom_pass nothing]
      rcases List.infix_cons_iff.mp within with starts | inRest
      · rw [(importAt?_eq_some_iff _ _).mpr ⟨written, starts⟩] at nothing
        cases nothing
      · exact ih inRest (position + 1)
  | statement found isWritten rest ih =>
      rw [placedFrom_statement isWritten]
      exact List.cons_ne_nil _ _

/-- A text without imports does not hold a statement. -/
theorem Import.IsWritten.not_within {sought : Import} (written : sought.IsWritten)
    {code : List Char} (plain : imports code = []) : ¬ sought.statement <:+: code := by
  intro within
  have found := map_placedImports code
  rw [plain, List.map_eq_nil_iff] at found
  exact placedFrom_ne_nil written within 0 found

/-! ## One import after another -/

/-- A part of a single line that is not in the code can be taken out of the text around it. -/
theorem Resolved.block_keeps (one : Resolved) {part text : List Char} (given : part ≠ [])
    (unbroken : '\n' ∉ part) (apart : ¬ part <:+: one.code) (holds : one.block <:+: text) :
    one.block <:+: replaceFirst part [] text := by
  rcases replaceFirst_cases part [] text with ⟨-, same⟩ | ⟨before, after, cut, removed⟩
  · rwa [same]
  · rw [removed, List.nil_append]
    obtain ⟨front, back, blocked⟩ := holds
    have whole : front ++ '\n' :: ([] ++ '\n' :: (one.code ++ '\n' :: back)) =
        before ++ (part ++ after) := by
      rw [← cut, ← blocked, Resolved.block]
      simp
    rcases split_at_break unbroken whole with ⟨rest, -, rfl⟩ | ⟨passed, rfl, afterFirst⟩
    · exact ⟨before ++ rest, back, by simp [Resolved.block]⟩
    rcases split_at_break unbroken afterFirst with ⟨rest, nothing, -⟩ | ⟨passed, rfl, afterSecond⟩
    · have empty : passed = [] ∧ part = [] ∧ rest = [] := by simpa using nothing.symm
      exact (given empty.2.1).elim
    rcases split_at_break unbroken afterSecond with ⟨rest, inCode, -⟩ | ⟨passed, rfl, -⟩
    · exact (apart ⟨passed, rest, by rw [inCode, List.append_assoc]⟩).elim
    · exact ⟨front, passed ++ after, by simp [Resolved.block]⟩

section Run

variable {opening text : List Char} {one : Resolved} {done ones : List Resolved}

/-- Code is put in front of the code that is there, which stays whole. -/
theorem HoldsCode.step (holds : HoldsCode opening done text) (opens : ';' ∉ opening)
    (written : one.IsWritten) (unbroken : '\n' ∉ one.statement)
    (anchored : ¬ one.statement <:+ opening ++ [';'])
    (plain : ∀ other ∈ done, imports other.code = []) :
    HoldsCode opening (one :: done) (one.inline text) := by
  obtain ⟨body, rfl, blocks⟩ := holds
  have missing : ¬ one.statement <:+: opening ++ [';'] := by
    intro within
    rcases List.infix_concat_iff.mp within with atEnd | inside
    · exact anchored atEnd
    · exact opens (inside.subset written.terminator_mem)
  have removed : replaceFirst one.statement [] (opening ++ ';' :: '\n' :: body) =
      opening ++ ';' :: '\n' :: replaceFirst one.statement [] body := by
    simpa using replaceFirst_past_break unbroken missing [] body
  have inBody : replaceFirst one.statement [] ('\n' :: body) =
      '\n' :: replaceFirst one.statement [] body :=
    @replaceFirst_past_break _ [] _ unbroken
      (fun within => written.statement_ne_nil (List.infix_nil.mp within)) [] body
  refine ⟨'\n' :: (one.code ++ '\n' :: '\n' :: replaceFirst one.statement [] body), ?_, ?_⟩
  · rw [Resolved.inline, removed, insertCode_of_terminator opens]
    simp [Resolved.block]
  · intro other member
    rcases List.mem_cons.mp member with rfl | before
    · exact ⟨[], '\n' :: replaceFirst other.statement [] body, by simp [Resolved.block]⟩
    · have kept := other.block_keeps written.statement_ne_nil unbroken
        (written.not_within (plain other before)) (blocks other before)
      rw [inBody] at kept
      exact kept.trans ⟨'\n' :: '\n' :: (one.code ++ ['\n']), [], by simp⟩

/-- The whole run puts in the code of every import and keeps what was put in before. -/
theorem HoldsCode.run (holds : HoldsCode opening done text) (opens : ';' ∉ opening)
    (later : ∀ one ∈ ones, one.IsWritten ∧ '\n' ∉ one.statement ∧
      ¬ one.statement <:+ opening ++ [';'])
    (plainDone : ∀ one ∈ done, imports one.code = [])
    (plain : ∀ one ∈ ones, imports one.code = []) :
    HoldsCode opening (ones.reverse ++ done) (ones.foldl Resolved.inline text) := by
  induction ones generalizing done text with
  | nil => exact holds
  | cons one ones ih =>
      obtain ⟨⟨written, unbroken, anchored⟩, laterOnes⟩ := List.forall_mem_cons.mp later
      obtain ⟨plainOne, plainOnes⟩ := List.forall_mem_cons.mp plain
      have next := holds.step opens written unbroken anchored plainDone
      rw [List.reverse_cons, List.append_assoc, List.singleton_append, List.foldl_cons]
      exact ih next laterOnes (List.forall_mem_cons.mpr ⟨plainOne, plainDone⟩) plainOnes

end Run

/-- A source from which taking out the first import takes the last semicolon has no other import. -/
theorem Divided.eq_nil_of_unterminated {files : List (String × String)} {before source : List Char}
    {first : Resolved} {later : List Resolved}
    (divided : Divided files before source (first :: later))
    (written : ∀ one ∈ later, one.IsWritten)
    (unterminated : ';' ∉ replaceFirst first.statement [] source) : later = [] := by
  cases divided with
  | @next _ gap rest _ _ starts clear divided =>
      cases divided with
      | last _ _ => rfl
      | @next _ gapNext restNext second others _ _ _ =>
          have terminated := (written second List.mem_cons_self).terminator_mem
          have more := List.count_pos_iff.mpr terminated
          exfalso
          rcases replaceFirst_cases first.statement []
            (gap ++ (first.statement ++ (gapNext ++ (second.statement ++ restNext)))) with
            ⟨-, same⟩ | ⟨front, back, cut, removed⟩
          · rw [same] at unterminated
            simp [terminated] at unterminated
          · have total := congrArg (List.count ';') cut
            rw [removed, List.nil_append] at unterminated
            have nothing := List.count_eq_zero_of_not_mem unterminated
            simp only [List.count_append] at total nothing
            omega

/-- The first step puts its code behind the opening of the text that it leaves. -/
theorem first_holdsCode {opening text source : List Char} {first : Resolved} (opens : ';' ∉ opening)
    (cut : replaceFirst first.statement [] source = opening ++ ';' :: text) :
    HoldsCode opening [first] (first.inline source) := by
  refine ⟨'\n' :: (first.code ++ '\n' :: text), ?_, ?_⟩
  · rw [Resolved.inline, cut, insertCode_of_terminator opens]
    simp [Resolved.block]
  · intro one member
    obtain rfl := List.mem_singleton.mp member
    exact ⟨[], text, by simp [Resolved.block]⟩

/-- Without a semicolon the code goes to the front. -/
theorem insertCode_of_unterminated {text : List Char} (unterminated : ';' ∉ text) (one : Resolved) :
    insertCode one.code text = one.block ++ text := by
  have goesOn : text.dropWhile (· != ';') = [] := List.dropWhile_eq_nil_iff.mpr fun c member =>
    bne_iff_ne.mpr (ne_of_mem_of_not_mem member unterminated)
  rw [insertCode, splitAtTerminator, goesOn]
  simp [Resolved.block]

/-- **Code without imports is found in one piece where an anchored source is flattened.** -/
theorem flatten_inlines_whole {source : String} {files : List (String × String)}
    (plain : ∀ one ∈ resolved files source.toList, imports one.code = [])
    (anchored : IsAnchored source.toList (resolved files source.toList)) :
    ∀ one ∈ resolved files source.toList, one.block <:+: (flatten source files).toList := by
  rw [flatten, foldl_inlineImport, String.toList_ofList]
  generalize source.toList = source at *
  have divided : Divided files [] source (resolved files source) :=
    Divided.of_placedFrom files [] source
  have written : ∀ one ∈ resolved files source, one.IsWritten := fun one member =>
    (isWritten_of_mem_resolved member).1
  generalize resolved files source = ones at *
  cases ones with
  | nil => exact fun one member => (List.not_mem_nil member).elim
  | cons first later =>
      obtain ⟨plainFirst, plainLater⟩ := List.forall_mem_cons.mp plain
      have writtenLater := (List.forall_mem_cons.mp written).2
      rw [List.foldl_cons]
      by_cases terminated : ';' ∈ replaceFirst first.statement [] source
      · obtain ⟨opening, text, cut, opens⟩ := List.eq_append_cons_of_mem terminated
        have front : (splitAtTerminator (replaceFirst first.statement [] source)).1 =
            opening ++ [';'] := by
          rw [cut, splitAtTerminator_append opens]
        have anchoredLater : ∀ one ∈ later, one.IsWritten ∧ '\n' ∉ one.statement ∧
            ¬ one.statement <:+ opening ++ [';'] := by
          intro one member
          obtain ⟨unbroken, free⟩ := anchored one member
          rw [front] at free
          exact ⟨writtenLater one member, unbroken, free⟩
        have start := first_holdsCode opens cut
        obtain ⟨body, result, blocks⟩ :=
          start.run opens anchoredLater (by simpa using plainFirst) plainLater
        intro one member
        have inBody := blocks one (by simpa [or_comm] using member)
        rw [result]
        exact inBody.trans ⟨opening ++ [';'], [], by simp⟩
      · obtain rfl := divided.eq_nil_of_unterminated writtenLater terminated
        intro one member
        obtain rfl := List.mem_singleton.mp member
        rw [List.foldl_nil, Resolved.inline, insertCode_of_unterminated terminated]
        exact (List.prefix_append _ _).isInfix

/-- **Statements that stand alone anchor their source**: the first semicolon comes before all of
them and stays. -/
theorem StandAlone.isAnchored {files : List (String × String)} {source : List Char}
    (alone : StandAlone source (resolved files source)) :
    IsAnchored source (resolved files source) := by
  by_cases terminated : ';' ∈ source
  · obtain ⟨opening, text, rfl, opens⟩ := List.eq_append_cons_of_mem terminated
    obtain ⟨-, front⟩ := alone.front opens
    have sought := alone.isSought
    generalize resolved files (opening ++ ';' :: text) = ones at *
    cases ones with
    | nil => trivial
    | cons first later =>
        have isSought := sought first List.mem_cons_self
        have isLater : IsLater opening [] first :=
          { written := isSought.written
            whole := isSought.whole
            unbroken := alone.unbroken first List.mem_cons_self
            clearOpening := front.clearOpening first List.mem_cons_self
            clearLine := front.clearBody first List.mem_cons_self }
        intro one member
        have inOnes := List.mem_cons_of_mem first member
        refine ⟨alone.unbroken one inOnes, fun atEnd => front.clearOpening one inOnes ?_⟩
        rw [isLater.remove_after_opening opens, splitAtTerminator_append opens] at atEnd
        exact atEnd.isInfix
  · rw [resolved_of_unterminated terminated]
    trivial

/-- An import in front of the pragma and one after it, or no pragma at all. -/
def aroundPragma : String :=
  "import 'A';\npragma solidity ^0.8.0;\nimport 'B';\ncontract C \x7b\x7d"

def withoutPragma : String :=
  "import 'A';\nimport 'B';\ncontract C \x7b\x7d"

def twoLibraries : List (String × String) :=
  [("A", "library A \x7b uint x; uint y; \x7d"), ("B", "library B \x7b\x7d")]

theorem flatten_inlines_whole_aroundPragma :
    (∀ one ∈ resolved twoLibraries aroundPragma.toList, imports one.code = []) ∧
      IsAnchored aroundPragma.toList (resolved twoLibraries aroundPragma.toList) ∧
      ∀ one ∈ resolved twoLibraries aroundPragma.toList,
        one.block <:+: (flatten aroundPragma twoLibraries).toList := by
  have plain : ∀ one ∈ resolved twoLibraries aroundPragma.toList, imports one.code = [] := by
    decide +kernel
  have anchored : IsAnchored aroundPragma.toList (resolved twoLibraries aroundPragma.toList) := by
    decide +kernel
  exact ⟨plain, anchored, @flatten_inlines_whole aroundPragma twoLibraries plain anchored⟩

/-- The first semicolon that is left is in the code of the first library, and the second library is
put in there. -/
theorem code_cut_without_pragma :
    (∀ one ∈ resolved twoLibraries withoutPragma.toList, imports one.code = []) ∧
      flatten withoutPragma twoLibraries =
        "\n\n\nlibrary A \x7b uint x;" ++ "\n\nlibrary B \x7b\x7d\n" ++
          " uint y; \x7d\n\ncontract C \x7b\x7d" ∧
      ¬ ∀ one ∈ resolved twoLibraries withoutPragma.toList,
        one.code <:+: (flatten withoutPragma twoLibraries).toList := by
  refine ⟨?_, ?_, ?_⟩ <;> decide +kernel

end Soliscope.Solidity
