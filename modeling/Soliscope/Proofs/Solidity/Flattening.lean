import Soliscope.Proofs.Solidity.Statements

/-! # What flattening an ordinary source gives

Each import whose code is given is looked up again in the text that the earlier ones have changed,
and its first occurrence there is deleted. In an ordinary source every such statement begins a line
after the first semicolon, is of a single line and has no other semicolon, and none of the code put
in holds one of the statements. Then the occurrence deleted is always the one that was found, and
the code always goes to the same place, so that the result is known in full (`flatten_ordinary`).

The source is divided into the statements and the gaps between them, and no gap holds a statement
that is still looked for (`Divided`). What stands in front of a statement during the run consists of
gaps and code that end in newlines, and a statement without a newline lies in one of them or in
none.
-/

namespace Soliscope.Solidity

open Soliscope.Text

/-- An import with its place whose code is given. -/
structure Resolved extends PlacedImport where
  code : List Char
  deriving DecidableEq

/-- The import together with its code, if that is given. -/
def resolve? (files : List (String × String)) (placed : PlacedImport) : Option Resolved :=
  (placed.toImport.code? files).map (⟨placed, ·⟩)

/-- The imports of a source whose code is given, in order. -/
def resolved (files : List (String × String)) (source : List Char) : List Resolved :=
  (placedImports source).filterMap (resolve? files)

/-- The place after the first semicolon. -/
def codeStart (source : List Char) : Nat :=
  source.idxOf ';' + 1

/-- What is put in for an import. -/
def Resolved.block (one : Resolved) : List Char :=
  '\n' :: '\n' :: (one.code ++ ['\n'])

/-- The place belongs to one of the statements. -/
def covers (ones : List Resolved) (place : Nat) : Bool :=
  ones.any fun one => one.start ≤ place && place < one.stop

/-- A text that stands at a position of the source, without the statements. -/
def outside (ones : List Resolved) (position : Nat) (text : List Char) : List Char :=
  ((text.zipIdx position).filter fun placed => !covers ones placed.2).map Prod.fst

/-- The source is ordinary as far as these of its imports go. What follows a statement on its line
does not matter. -/
structure IsOrdinary (source : List Char) (ones : List Resolved) : Prop where
  after : ∀ one ∈ ones, codeStart source ≤ one.start
  beginsLine : ∀ one ∈ ones, (source.take one.start).getLast? = some '\n'
  unbroken : ∀ one ∈ ones, '\n' ∉ one.statement
  whole : ∀ one ∈ ones, ';' ∉ one.path
  apart : ∀ one ∈ ones, ∀ other ∈ ones, ¬ one.statement <:+: other.code

instance (source : List Char) (ones : List Resolved) : Decidable (IsOrdinary source ones) :=
  decidable_of_iff
    ((∀ one ∈ ones, codeStart source ≤ one.start) ∧
      (∀ one ∈ ones, (source.take one.start).getLast? = some '\n') ∧
      (∀ one ∈ ones, '\n' ∉ one.statement) ∧ (∀ one ∈ ones, ';' ∉ one.path) ∧
      ∀ one ∈ ones, ∀ other ∈ ones, ¬ one.statement <:+: other.code)
    ⟨fun ⟨after, beginsLine, unbroken, whole, apart⟩ =>
        ⟨after, beginsLine, unbroken, whole, apart⟩,
      fun ordinary => ⟨ordinary.after, ordinary.beginsLine, ordinary.unbroken, ordinary.whole,
        ordinary.apart⟩⟩

/-- The statements stand in an ordinary way, whatever the code put in for them holds. -/
structure StandAlone (source : List Char) (ones : List Resolved) : Prop where
  after : ∀ one ∈ ones, codeStart source ≤ one.start
  beginsLine : ∀ one ∈ ones, (source.take one.start).getLast? = some '\n'
  unbroken : ∀ one ∈ ones, '\n' ∉ one.statement
  whole : ∀ one ∈ ones, ';' ∉ one.path

instance (source : List Char) (ones : List Resolved) : Decidable (StandAlone source ones) :=
  decidable_of_iff
    ((∀ one ∈ ones, codeStart source ≤ one.start) ∧
      (∀ one ∈ ones, (source.take one.start).getLast? = some '\n') ∧
      (∀ one ∈ ones, '\n' ∉ one.statement) ∧ ∀ one ∈ ones, ';' ∉ one.path)
    ⟨fun ⟨after, beginsLine, unbroken, whole⟩ => ⟨after, beginsLine, unbroken, whole⟩,
      fun alone => ⟨alone.after, alone.beginsLine, alone.unbroken, alone.whole⟩⟩

/-- No code holds the statement of an import that comes after its own. -/
def IsApart (ones : List Resolved) : Prop :=
  ones.Pairwise fun earlier later => ¬ later.statement <:+: earlier.code

instance (ones : List Resolved) : Decidable (IsApart ones) :=
  inferInstanceAs (Decidable (ones.Pairwise _))

namespace IsOrdinary

variable {source : List Char} {ones : List Resolved}

/-- The statements of an ordinary source stand alone. -/
theorem standAlone (ordinary : IsOrdinary source ones) : StandAlone source ones :=
  ⟨ordinary.after, ordinary.beginsLine, ordinary.unbroken, ordinary.whole⟩

/-- In an ordinary source no code holds a later statement. -/
theorem isApart (ordinary : IsOrdinary source ones) : IsApart ones :=
  List.pairwise_of_forall_mem_list fun earlier before later after =>
    ordinary.apart later after earlier before

end IsOrdinary

/-! ## One import after another -/

/-- Put the code of an import in the place of its statement. -/
def Resolved.inline (text : List Char) (one : Resolved) : List Char :=
  insertCode one.code (replaceFirst one.statement [] text)

/-- Flattening only looks at the imports whose code is given. -/
theorem foldl_inlineImport (files : List (String × String)) (source text : List Char) :
    (imports source).foldl (inlineImport files) text =
      (resolved files source).foldl Resolved.inline text := by
  rw [← map_placedImports, List.foldl_map, resolved, List.foldl_filterMap]
  congr 1
  funext text placed
  rw [inlineImport, resolve?]
  cases placed.toImport.code? files <;> rfl

/-- The text is cut behind its first semicolon. -/
theorem splitAtTerminator_append {opening : List Char} (opens : ';' ∉ opening) (text : List Char) :
    splitAtTerminator (opening ++ ';' :: text) = (opening ++ [';'], text) := by
  have goesOn : ∀ c ∈ opening, (c != ';') = true := fun c member =>
    bne_iff_ne.mpr (ne_of_mem_of_not_mem member opens)
  rw [splitAtTerminator, @dropWhile_run (· != ';') _ _ goesOn rfl,
    @takeWhile_run (· != ';') _ _ goesOn rfl]

/-- Code goes behind the first semicolon. -/
theorem insertCode_of_terminator {opening : List Char} (opens : ';' ∉ opening) (one : Resolved)
    (text : List Char) :
    insertCode one.code (opening ++ ';' :: text) = opening ++ ';' :: (one.block ++ text) := by
  rw [insertCode, splitAtTerminator_append opens]
  simp [Resolved.block]

/-- A resolved import is in writing, stands at its place in the source and has its code from the
files. -/
theorem isWritten_of_mem_resolved {files : List (String × String)} {source : List Char}
    {one : Resolved} (member : one ∈ resolved files source) :
    one.IsWritten ∧ one.statement <+: source.drop one.start ∧
      one.code? files = some one.code := by
  obtain ⟨placed, found, read⟩ := List.mem_filterMap.mp member
  obtain ⟨code, given, rfl⟩ := Option.map_eq_some_iff.mp read
  obtain ⟨written, stands⟩ := isWritten_of_mem_placedImports found
  exact ⟨written, stands, given⟩

/-! ## The text outside the statements -/

section Outside

variable {ones others : List Resolved} {position : Nat} {text : List Char}

/-- What is outside the statements can be taken piece by piece. -/
theorem outside_append (ones : List Resolved) (position : Nat) (front back : List Char) :
    outside ones position (front ++ back) =
      outside ones position front ++ outside ones (position + front.length) back := by
  rw [outside, List.zipIdx_append, List.filter_append, List.map_append]
  rfl

/-- A text that meets no statement is outside as a whole. -/
theorem outside_of_free
    (free : ∀ place, position ≤ place → place < position + text.length →
      covers ones place = false) : outside ones position text = text := by
  rw [outside, List.filter_eq_self.mpr, List.zipIdx_map_fst]
  intro placed member
  obtain ⟨atLeast, below, -⟩ := List.mem_zipIdx member
  rw [free placed.2 atLeast below, Bool.not_false]

/-- A text within the statements leaves nothing. -/
theorem outside_of_covered
    (covered : ∀ place, position ≤ place → place < position + text.length →
      covers ones place = true) : outside ones position text = [] := by
  rw [outside, List.filter_eq_nil_iff.mpr, List.map_nil]
  intro placed member
  obtain ⟨atLeast, below, -⟩ := List.mem_zipIdx member
  rw [covered placed.2 atLeast below, Bool.not_true]
  exact Bool.false_ne_true

/-- Statements that cover the same places leave the same text. -/
theorem outside_congr (same : ∀ place, position ≤ place → covers ones place = covers others place) :
    outside ones position text = outside others position text := by
  rw [outside, outside, List.filter_congr]
  intro placed member
  rw [same placed.2 (List.le_snd_of_mem_zipIdx member)]

/-- In front of all statements nothing is covered. -/
theorem covers_eq_false {place : Nat} (before : ∀ one ∈ ones, place < one.start) :
    covers ones place = false := by
  simp only [covers, List.any_eq_false, Bool.and_eq_true, decide_eq_true_eq, not_and]
  intro one member starts
  exact absurd starts (Nat.not_le.mpr (before one member))

/-- Without statements the whole text is outside. -/
theorem outside_nil (position : Nat) (text : List Char) : outside [] position text = text :=
  outside_of_free fun _ _ _ => rfl

/-- A statement ends where the text up to it ends. -/
theorem length_before_stop {one : Resolved} {before gap : List Char}
    (starts : one.start = before.length + gap.length) :
    (before ++ (gap ++ one.statement)).length = one.stop := by
  rw [PlacedImport.stop, starts, ← List.append_assoc, List.length_append, List.length_append]

/-- Outside the statements lies the gap before the first of them, and what is outside the others. -/
theorem outside_gap {one : Resolved} {gap rest : List Char}
    (starts : one.start = position + gap.length) (later : ∀ other ∈ ones, one.stop ≤ other.start) :
    outside (one :: ones) position (gap ++ (one.statement ++ rest)) =
      gap ++ outside ones one.stop rest := by
  have stops : one.stop = one.start + one.statement.length := rfl
  have inGap : outside (one :: ones) position gap = gap := by
    refine outside_of_free fun place _ below => covers_eq_false fun other member => ?_
    rcases List.mem_cons.mp member with rfl | laterOne
    · omega
    · have := later other laterOne
      omega
  have inStatement : outside (one :: ones) one.start one.statement = [] := by
    refine outside_of_covered fun place atLeast below => ?_
    simp [covers, atLeast, stops, below]
  have inRest : outside (one :: ones) one.stop rest = outside ones one.stop rest := by
    refine outside_congr fun place atLeast => ?_
    simp [covers, Nat.not_lt.mpr atLeast]
  rw [outside_append, outside_append, inGap, ← starts, inStatement, ← stops, inRest,
    List.nil_append]

end Outside

/-! ## Gaps and statements -/

/-- A statement that could be looked for: its code is given, and its path has no semicolon. -/
structure IsSought (files : List (String × String)) (sought : Import) : Prop where
  written : sought.IsWritten
  given : (sought.code? files).isSome = true
  whole : ';' ∉ sought.path

/-- A text, with what stands before it in the source, is divided at the statements of these imports.
No statement that could be looked for lies in a gap between them. -/
inductive Divided (files : List (String × String)) :
    List Char → List Char → List Resolved → Prop
  | last (before text : List Char) : Divided files before text []
  | next {before gap rest : List Char} {one : Resolved} {ones : List Resolved}
      (starts : one.start = before.length + gap.length)
      (clear : ∀ sought, IsSought files sought → ¬ sought.statement <:+: gap)
      (divided : Divided files (before ++ (gap ++ one.statement)) rest ones) :
      Divided files before (gap ++ (one.statement ++ rest)) (one :: ones)

namespace Divided

variable {files : List (String × String)} {before piece rest text : List Char}
  {ones : List Resolved}

/-- All statements start behind what was passed already. -/
theorem length_le_start (divided : Divided files before text ones) :
    ∀ one ∈ ones, before.length ≤ one.start := by
  induction divided with
  | last before text => exact fun one member => (List.not_mem_nil member).elim
  | next starts clear divided ih =>
      intro other member
      rcases List.mem_cons.mp member with rfl | later
      · omega
      · have after := ih other later
        rw [List.length_append] at after
        omega

/-- A piece of text with which no statement starts belongs to the gap after it. -/
theorem widen (divided : Divided files (before ++ piece) rest ones)
    (free : ∀ sought, IsSought files sought → ∀ passed left, piece = passed ++ left → left ≠ [] →
      ¬ sought.statement <+: left ++ rest) :
    Divided files before (piece ++ rest) ones := by
  cases divided with
  | last _ _ => exact last before _
  | @next _ gap rest one ones starts clear divided =>
      rw [← List.append_assoc]
      refine next (by rw [starts]; simp [Nat.add_assoc]) ?_ (by simpa using divided)
      intro sought isSought within
      rcases infix_append_starts within with ⟨passed, left, cut, given, begins⟩ | inGap
      · refine free sought isSought passed left cut given (begins.trans ?_)
        exact (List.prefix_append_right_inj left).mpr (List.prefix_append _ _)
      · exact clear sought isSought inGap

/-- **A text is divided at the imports found in it whose code is given.** -/
theorem of_placedFrom (files : List (String × String)) (before text : List Char) :
    Divided files before text ((placedFrom before.length 0 text).filterMap (resolve? files)) := by
  induction text using scan_induction generalizing before with
  | nil => exact last before []
  | pass c rest nothing ih =>
      rw [placedFrom_pass nothing]
      have later := ih (before ++ [c])
      rw [List.length_append, List.length_singleton] at later
      refine @widen files before [c] rest _ later fun sought isSought passed left cut given => ?_
      intro begins
      obtain ⟨rfl, rfl⟩ : passed = [] ∧ left = [c] := by
        rcases List.append_eq_singleton_iff.mp cut.symm with split | ⟨-, nothingLeft⟩
        · exact split
        · exact (given nothingLeft).elim
      rw [(importAt?_eq_some_iff (c :: rest) sought).mpr ⟨isSought.written, begins⟩] at nothing
      cases nothing
  | statement found written rest ih =>
      rw [placedFrom_statement written]
      have later := ih (before ++ found.statement)
      rw [List.length_append] at later
      cases lookup : found.code? files with
      -- Without code the statement is part of the gap: none that is looked for starts in it.
      | none =>
          have unresolved : resolve? files ⟨found, before.length⟩ = none := by
            rw [resolve?, lookup, Option.map_none]
          rw [List.filterMap_cons_none unresolved]
          refine widen later fun sought isSought passed left cut given begins => ?_
          rcases List.eq_nil_or_concat passed with rfl | ⟨front, c, begun⟩
          · rw [List.nil_append] at cut
            subst cut
            have same := isSought.written.eq_of_prefix written begins (List.prefix_append _ _)
            have given := isSought.given
            rw [same, lookup] at given
            cases given
          · refine isSought.written.not_prefix_within isSought.whole written cut ?_ given rest begins
            rw [begun, List.concat_eq_append]
            exact List.concat_ne_nil c front
      | some code =>
          have found : resolve? files ⟨found, before.length⟩ =
              some ⟨⟨found, before.length⟩, code⟩ := by
            rw [resolve?, lookup, Option.map_some]
          rw [List.filterMap_cons_some found]
          refine @next files before [] rest ⟨⟨_, before.length⟩, code⟩ _ rfl ?_ later
          intro sought isSought nothing
          exact isSought.written.statement_ne_nil (List.infix_nil.mp nothing)

/-- A front that ends before the first statement is taken off its gap. -/
theorem drop_front {front : List Char} (divided : Divided files before (front ++ text) ones)
    (after : ∀ one ∈ ones, (before ++ front).length ≤ one.start) :
    Divided files (before ++ front) text ones ∧
      ∀ one ∈ ones, IsSought files one.toImport → ¬ one.statement <:+: front := by
  generalize whole : front ++ text = joined at divided
  cases divided with
  | last _ _ => exact ⟨last _ _, fun one member => (List.not_mem_nil member).elim⟩
  | @next _ gap rest one ones starts clear divided =>
      have fits : front.length ≤ gap.length := by
        have := after one List.mem_cons_self
        rw [List.length_append] at this
        omega
      obtain ⟨left, rfl⟩ : front <+: gap :=
        List.prefix_of_prefix_length_le ⟨text, whole⟩ (List.prefix_append _ _) fits
      rw [List.append_assoc] at whole
      obtain rfl := List.append_cancel_left whole
      constructor
      · refine next (by rw [starts]; simp [Nat.add_assoc]) ?_ (by simpa using divided)
        exact fun sought isSought within =>
          clear sought isSought (within.trans (List.suffix_append _ _).isInfix)
      · exact fun other _ isSought within =>
          clear _ isSought (within.trans (List.prefix_append _ _).isInfix)

end Divided

/-! ## The run -/

/-- The text is empty or ends in a newline. -/
def IsLines (text : List Char) : Prop :=
  text = [] ∨ ∃ front, text = front ++ ['\n']

/-- Lines behind lines are lines. -/
theorem IsLines.append {front back : List Char} (lined : IsLines front) (linedBack : IsLines back) :
    IsLines (front ++ back) := by
  rcases linedBack with rfl | ⟨lines, rfl⟩
  · rwa [List.append_nil]
  · exact Or.inr ⟨front ++ lines, (List.append_assoc _ _ _).symm⟩

/-- A statement on one line lies in one of two texts of lines or in neither. -/
theorem IsLines.not_infix_append {statement front back : List Char} (lined : IsLines front)
    (unbroken : '\n' ∉ statement) (notFront : ¬ statement <:+: front)
    (notBack : ¬ statement <:+: back) : ¬ statement <:+: front ++ back := by
  intro within
  rcases lined with rfl | ⟨line, rfl⟩
  · exact notBack within
  · rw [List.append_assoc, List.singleton_append] at within
    rcases infix_append_break unbroken within with inLine | inBack
    · exact notFront (inLine.trans (List.prefix_append _ _).isInfix)
    · exact notBack inBack

/-- What is put in for an import ends its last line. -/
theorem Resolved.isLines_block (one : Resolved) : IsLines one.block :=
  Or.inr ⟨'\n' :: '\n' :: one.code, rfl⟩

/-- The breaks around the code add no occurrence of a statement. -/
theorem Resolved.not_infix_block {one : Resolved} {statement : List Char}
    (given : statement ≠ []) (unbroken : '\n' ∉ statement) (apart : ¬ statement <:+: one.code) :
    ¬ statement <:+: one.block := by
  have nothing : ¬ statement <:+: [] := fun within => given (List.infix_nil.mp within)
  have newline : ¬ statement <:+: ['\n'] := fun within =>
    (@infix_append_break _ [] _ _ unbroken within).elim nothing nothing
  have newlines : ¬ statement <:+: ['\n', '\n'] := fun within =>
    (@infix_append_break _ [] _ _ unbroken within).elim nothing newline
  intro within
  have cut : one.block = ['\n', '\n'] ++ (one.code ++ '\n' :: []) := rfl
  rw [cut] at within
  refine IsLines.not_infix_append (Or.inr ⟨['\n'], rfl⟩) unbroken newlines ?_ within
  exact fun later => (infix_append_break unbroken later).elim apart nothing

namespace StandAlone

variable {before gap rest source : List Char} {one : Resolved} {ones : List Resolved}

/-- The later statements stand alone if all do. -/
theorem tail (alone : StandAlone source (one :: ones)) : StandAlone source ones where
  after other member := alone.after other (List.mem_cons_of_mem _ member)
  beginsLine other member := alone.beginsLine other (List.mem_cons_of_mem _ member)
  unbroken other member := alone.unbroken other (List.mem_cons_of_mem _ member)
  whole other member := alone.whole other (List.mem_cons_of_mem _ member)

/-- Between a semicolon and a statement stands at least the newline before the statement. -/
theorem gap_eq (alone : StandAlone (before ++ (gap ++ rest)) (one :: ones))
    (starts : one.start = before.length + gap.length) (ends : before.getLast? = some ';') :
    ∃ line, gap = line ++ ['\n'] := by
  have newline := alone.beginsLine one List.mem_cons_self
  rw [starts, ← List.append_assoc, ← List.length_append, List.take_left, List.getLast?_append,
    ends] at newline
  cases last : gap.getLast? with
  | none =>
      rw [last] at newline
      cases newline
  | some c =>
      rw [last, Option.some_or, Option.some.injEq] at newline
      rw [newline] at last
      exact List.getLast?_eq_some_iff.mp last

end StandAlone

/-- The text in front of what is left of the source: the part up to the first semicolon, and a body
of code and gaps after it. None of the statements still to come lies in it. -/
structure IsFront (ones : List Resolved) (opening body : List Char) : Prop where
  opens : ';' ∉ opening
  clearOpening : ∀ one ∈ ones, ¬ one.statement <:+: opening ++ [';']
  lined : IsLines body
  clearBody : ∀ one ∈ ones, ¬ one.statement <:+: body

namespace IsFront

variable {files : List (String × String)} {source opening body line : List Char} {one : Resolved}
  {ones : List Resolved}

/-- A gap that is clear of all statements adds no occurrence to the front. -/
theorem clear_gap (front : IsFront ones opening body) (alone : StandAlone source ones)
    (sought : ∀ one ∈ ones, IsSought files one.toImport) {gap : List Char}
    (clear : ∀ sought, IsSought files sought → ¬ sought.statement <:+: gap) :
    ∀ one ∈ ones, ¬ one.statement <:+: body ++ gap := fun one member =>
  front.lined.not_infix_append (alone.unbroken one member) (front.clearBody one member)
    (clear _ (sought one member))

/-- The first statement is deleted where it stands, and its code comes before the body. -/
theorem inline_eq (front : IsFront (one :: ones) opening body)
    (alone : StandAlone source (one :: ones)) (written : one.IsWritten)
    (clear : ¬ one.statement <:+: body ++ (line ++ ['\n'])) (rest : List Char) :
    one.inline (opening ++ ';' :: (body ++ (line ++ '\n' :: (one.statement ++ rest)))) =
      opening ++ ';' :: (one.block ++ (body ++ (line ++ '\n' :: rest))) := by
  have clearLine : ¬ one.statement <:+: body ++ line := fun within =>
    clear (within.trans ⟨[], ['\n'], by simp⟩)
  have missing : ¬ one.statement <:+: opening ++ ';' :: (body ++ line) := by
    obtain ⟨inner, noTerminator, ends⟩ :=
      written.statement_end (alone.whole one List.mem_cons_self)
    have clearOpening := front.clearOpening one List.mem_cons_self
    intro within
    rw [ends] at within clearOpening clearLine
    exact (infix_append_end noTerminator within).elim clearOpening clearLine
  have replaced := @replaceFirst_break _ _ rest _ (alone.unbroken one List.mem_cons_self) missing []
  simp only [List.append_assoc, List.cons_append, List.nil_append] at replaced
  rw [Resolved.inline, replaced, insertCode_of_terminator front.opens]

/-- Then the code and the gap belong to the body, and the other statements are still to come. -/
theorem step (front : IsFront (one :: ones) opening body)
    (alone : StandAlone source (one :: ones))
    (apart : ∀ other ∈ ones, ¬ other.statement <:+: one.code)
    (sought : ∀ other ∈ ones, IsSought files other.toImport)
    (clear : ∀ other ∈ one :: ones, ¬ other.statement <:+: body ++ (line ++ ['\n'])) :
    IsFront ones opening (one.block ++ (body ++ (line ++ ['\n']))) where
  opens := front.opens
  clearOpening other member := front.clearOpening other (List.mem_cons_of_mem _ member)
  lined := Or.inr ⟨one.block ++ (body ++ line), by simp⟩
  clearBody other member := by
    have later := List.mem_cons_of_mem one member
    have unbroken := alone.unbroken other later
    have clearBlock := Resolved.not_infix_block (sought other member).written.statement_ne_nil
      unbroken (apart other member)
    exact one.isLines_block.not_infix_append unbroken clearBlock (clear other later)

end IsFront

/-- **A run over the statements of a divided text.** Every step puts code after the first semicolon
and takes the next statement out of the text that is left. -/
theorem foldl_inline_apart {files : List (String × String)} {before text : List Char}
    {ones : List Resolved} (divided : Divided files before text ones)
    (alone : StandAlone (before ++ text) ones) (apart : IsApart ones)
    (sought : ∀ one ∈ ones, IsSought files one.toImport) (ends : before.getLast? = some ';')
    {opening : List Char} (body : List Char) (front : IsFront ones opening body) :
    ones.foldl Resolved.inline (opening ++ ';' :: (body ++ text)) =
      opening ++ ';' ::
        (ones.reverse.flatMap Resolved.block ++ (body ++ outside ones before.length text)) := by
  -- The body grows by the code and the gap of every step, so it is general in the induction.
  induction divided generalizing body with
  | last before text =>
      rw [outside_nil]
      rfl
  | @next before gap rest one ones starts clear divided ih =>
      obtain ⟨line, rfl⟩ := alone.gap_eq starts ends
      obtain ⟨isSought, soughtLater⟩ := List.forall_mem_cons.mp sought
      obtain ⟨apartFirst, apartLater⟩ := List.pairwise_cons.mp apart
      have clearGap := front.clear_gap alone sought clear
      have stops := length_before_stop starts
      have endsAgain : (before ++ (line ++ ['\n'] ++ one.statement)).getLast? = some ';' := by
        obtain ⟨inner, -, ended⟩ := isSought.written.statement_end isSought.whole
        rw [ended, ← List.append_assoc, ← List.append_assoc, List.getLast?_concat]
      have first := front.inline_eq alone isSought.written (clearGap one List.mem_cons_self) rest
      have remaining := ih (by simpa using alone.tail) apartLater soughtLater endsAgain _
        (front.step alone apartFirst soughtLater clearGap)
      rw [stops] at remaining
      rw [outside_gap starts (stops ▸ divided.length_le_start), List.foldl_cons, List.reverse_cons,
        List.flatMap_append, List.flatMap_singleton]
      simp only [List.append_assoc, List.cons_append, List.nil_append] at first remaining ⊢
      rw [first, remaining]

/-- The run over all statements, by induction on the division of the source and with the front as
the invariant. -/
theorem foldl_inline {files : List (String × String)} {before text : List Char}
    {ones : List Resolved} (divided : Divided files before text ones)
    (ordinary : IsOrdinary (before ++ text) ones)
    (sought : ∀ one ∈ ones, IsSought files one.toImport) (ends : before.getLast? = some ';')
    {opening : List Char} (body : List Char) (front : IsFront ones opening body) :
    ones.foldl Resolved.inline (opening ++ ';' :: (body ++ text)) =
      opening ++ ';' ::
        (ones.reverse.flatMap Resolved.block ++ (body ++ outside ones before.length text)) :=
  foldl_inline_apart divided ordinary.standAlone ordinary.isApart sought ends body front

/-- The code starts behind the opening. -/
theorem codeStart_of_terminator {opening : List Char} (opens : ';' ∉ opening) (text : List Char) :
    codeStart (opening ++ ';' :: text) = (opening ++ [';']).length := by
  rw [codeStart, List.idxOf_append_of_notMem opens, List.idxOf_cons_self, List.length_append]
  rfl

/-- A source without a semicolon has no imports. -/
theorem resolved_of_unterminated {files : List (String × String)} {source : List Char}
    (unterminated : ';' ∉ source) : resolved files source = [] := by
  refine List.eq_nil_iff_forall_not_mem.mpr fun one member => ?_
  obtain ⟨written, stands, -⟩ := isWritten_of_mem_resolved member
  exact unterminated (List.mem_of_mem_drop (stands.subset written.terminator_mem))

/-- **Flattening an ordinary source.** The text up to the first semicolon is kept; then comes the
code of the imports, the last of them first, and then the rest of the source without exactly the
statements of these imports. -/
theorem flatten_ordinary {source : String} {files : List (String × String)}
    (ordinary : IsOrdinary source.toList (resolved files source.toList)) :
    flatten source files = String.ofList
      (source.toList.take (codeStart source.toList) ++
        (resolved files source.toList).reverse.flatMap Resolved.block ++
        outside (resolved files source.toList) (codeStart source.toList)
          (source.toList.drop (codeStart source.toList))) := by
  rw [flatten, foldl_inlineImport]
  congr 1
  generalize source.toList = source at *
  have sought (one : Resolved) (member : one ∈ resolved files source) :
      IsSought files one.toImport := by
    obtain ⟨written, -, given⟩ := isWritten_of_mem_resolved member
    exact ⟨written, by rw [given]; rfl, ordinary.whole one member⟩
  by_cases terminated : ';' ∈ source
  · have divided : Divided files [] source (resolved files source) :=
      Divided.of_placedFrom files [] source
    generalize resolved files source = ones at *
    obtain ⟨opening, text, rfl, opens⟩ := List.eq_append_cons_of_mem terminated
    have whole : opening ++ ';' :: text = (opening ++ [';']) ++ text := by simp
    have place := codeStart_of_terminator opens text
    have after := ordinary.after
    rw [place] at after ⊢
    rw [whole] at divided ordinary ⊢
    obtain ⟨fromCode, clearOpening⟩ := divided.drop_front after
    have front : IsFront ones opening [] :=
      ⟨opens, fun one member => clearOpening one member (sought one member), Or.inl rfl,
        fun one member within =>
          (sought one member).written.statement_ne_nil (List.infix_nil.mp within)⟩
    have run := foldl_inline fromCode ordinary sought List.getLast?_concat [] front
    rw [List.take_left, List.drop_left]
    simpa using run
  · have short : source.length ≤ codeStart source := by
      rw [codeStart, List.idxOf_eq_length terminated]
      exact Nat.le_succ _
    rw [resolved_of_unterminated terminated, List.take_of_length_le short,
      List.drop_eq_nil_of_le short]
    simp [outside]

/-- A source that imports one file twice, another file once, and a third one without its code. -/
def repeatingSource : String :=
  "pragma solidity ^0.8.0;\nimport 'A';\nimport 'B';\nimport 'A';\nimport 'C';\n"

/-- Code for two of the three files, one of which imports the third itself. -/
def repeatingFiles : List (String × String) :=
  [("A", "library A;"), ("B", "import 'C'; library B;")]

theorem flatten_ordinary_repeating :
    IsOrdinary repeatingSource.toList (resolved repeatingFiles repeatingSource.toList) ∧
      flatten repeatingSource repeatingFiles =
        "pragma solidity ^0.8.0;" ++ "\n\nlibrary A;\n" ++ "\n\nimport 'C'; library B;\n" ++
          "\n\nlibrary A;\n" ++ "\n\n\n\nimport 'C';\n" := by
  have ordinary :
      IsOrdinary repeatingSource.toList (resolved repeatingFiles repeatingSource.toList) := by
    decide +kernel
  refine ⟨ordinary, ?_⟩
  rw [flatten_ordinary ordinary]
  decide +kernel

end Soliscope.Solidity
