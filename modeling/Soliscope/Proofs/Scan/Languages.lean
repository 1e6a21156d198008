import Mathlib.Data.List.Infix
import Mathlib.Tactic.IntervalCases
import Soliscope.Scan.Catalog

/-! # What the built-in rules accept

A piece of a pattern stands for some texts, and a sequence of pieces for what is put together from
these in order (`Spells`). The matcher tries all ways to put a text together: pieces match at the
front of a text exactly if one of their texts is there (`continues_iff`), and a pattern accepts a
line exactly if one of its texts is a part of it (`accepts_iff`). So a repeated piece gives back
what the pieces after it need, and a start that leads nowhere does not hide a later one.

The languages of the built-in rules are written out a second time without patterns
(`builtinLanguages`), and every rule recognizes its own (`builtinCatalog_recognizes`).
-/

namespace Soliscope.Scan

open Soliscope.Text

/-- The texts that a piece stands for. -/
def Piece.Spells : Piece → List Char → Prop
  | .text written, part => part = written
  | .optional c, part => part = [] ∨ part = [c]
  | .one among, part => ∃ c, among.has c = true ∧ part = [c]
  | .run among, part => ∀ c ∈ part, among.has c = true
  | .run₁ among, part => part ≠ [] ∧ ∀ c ∈ part, among.has c = true

/-- The texts that pieces stand for one after the other. -/
def Spells : List Piece → List Char → Prop
  | [], text => text = []
  | piece :: pieces, text =>
      ∃ part rest, piece.Spells part ∧ Spells pieces rest ∧ text = part ++ rest

namespace Pattern

/-! ## The matcher -/

/-- Behind a run something follows if it does behind one of the parts that the run may be. -/
theorem afterRun_iff (among : CharClass) (next : List Char → Bool) (text : List Char) :
    afterRun among next text = true ↔
      ∃ part rest, (∀ c ∈ part, among.has c = true) ∧ next rest = true ∧ text = part ++ rest := by
  induction text with
  | nil =>
      rw [afterRun]
      constructor
      · intro ends
        exact ⟨[], [], by simp, ends, rfl⟩
      · rintro ⟨part, rest, -, goesOn, cut⟩
        obtain ⟨rfl, rfl⟩ := List.append_eq_nil_iff.mp cut.symm
        exact goesOn
  | cons c text ih =>
      rw [afterRun, Bool.or_eq_true, Bool.and_eq_true, ih]
      constructor
      · rintro (ends | ⟨first, part, rest, all, goesOn, rfl⟩)
        · exact ⟨[], c :: text, by simp, ends, rfl⟩
        · exact ⟨c :: part, rest, List.forall_mem_cons.mpr ⟨first, all⟩, goesOn, rfl⟩
      · rintro ⟨part, rest, all, goesOn, cut⟩
        cases part with
        | nil =>
            rw [List.nil_append] at cut
            exact Or.inl (cut ▸ goesOn)
        | cons first part =>
            obtain ⟨rfl, rfl⟩ := List.cons.inj cut
            obtain ⟨firstIs, others⟩ := List.forall_mem_cons.mp all
            exact Or.inr ⟨firstIs, part, rest, others, goesOn, rfl⟩

/-- One piece takes one of its texts off the front. -/
theorem continues_cons_iff (piece : Piece) (pieces : List Piece) (text : List Char) :
    continues (piece :: pieces) text = true ↔
      ∃ part rest, piece.Spells part ∧ continues pieces rest = true ∧ text = part ++ rest := by
  cases piece with
  | text written =>
      rw [continues]
      constructor
      · intro goesOn
        split at goesOn
        next rest found =>
          exact ⟨written, rest, rfl, goesOn,
            (List.isPrefixOf?_eq_some_iff_append_eq.mp found).symm⟩
        next => cases goesOn
      · rintro ⟨part, rest, rfl, goesOn, rfl⟩
        rw [List.isPrefixOf?_eq_some_iff_append_eq.mpr rfl]
        exact goesOn
  | optional c =>
      rw [continues.eq_def, Bool.or_eq_true]
      constructor
      · rintro (missing | given)
        · exact ⟨[], text, Or.inl rfl, missing, rfl⟩
        · cases text with
          | nil => cases given
          | cons first rest =>
              rw [Bool.and_eq_true, beq_iff_eq] at given
              exact ⟨[first], rest, Or.inr (by rw [given.1]), given.2, rfl⟩
      · rintro ⟨part, rest, rfl | rfl, goesOn, rfl⟩
        · exact Or.inl goesOn
        · exact Or.inr (by simpa using goesOn)
  | one among =>
      rw [continues.eq_def]
      constructor
      · intro goesOn
        cases text with
        | nil => cases goesOn
        | cons first rest =>
            rw [Bool.and_eq_true] at goesOn
            exact ⟨[first], rest, ⟨first, goesOn.1, rfl⟩, goesOn.2, rfl⟩
      · rintro ⟨part, rest, ⟨first, isAmong, rfl⟩, goesOn, rfl⟩
        exact Bool.and_eq_true_iff.mpr ⟨isAmong, goesOn⟩
  | run among =>
      rw [continues]
      exact afterRun_iff among _ text
  | run₁ among =>
      rw [continues.eq_def]
      constructor
      · intro goesOn
        cases text with
        | nil => cases goesOn
        | cons first rest =>
            rw [Bool.and_eq_true, afterRun_iff] at goesOn
            obtain ⟨isAmong, part, rest, all, goesOn, rfl⟩ := goesOn
            exact ⟨first :: part, rest, ⟨List.cons_ne_nil _ _,
              List.forall_mem_cons.mpr ⟨isAmong, all⟩⟩, goesOn, rfl⟩
      · rintro ⟨part, rest, ⟨given, all⟩, goesOn, rfl⟩
        obtain ⟨first, part, rfl⟩ := List.exists_cons_of_ne_nil given
        obtain ⟨isAmong, others⟩ := List.forall_mem_cons.mp all
        exact Bool.and_eq_true_iff.mpr
          ⟨isAmong, (afterRun_iff among _ _).mpr ⟨part, rest, others, goesOn, rfl⟩⟩

/-- Pieces continue a text if they spell a part at its front. -/
theorem continues_iff (pieces : List Piece) (text : List Char) :
    continues pieces text = true ↔ ∃ part, Spells pieces part ∧ part <+: text := by
  induction pieces generalizing text with
  | nil =>
      rw [continues]
      exact iff_of_true rfl ⟨[], rfl, List.nil_prefix⟩
  | cons piece pieces ih =>
      rw [continues_cons_iff]
      constructor
      · rintro ⟨part, rest, spelled, goesOn, rfl⟩
        obtain ⟨more, others, starts⟩ := (ih rest).mp goesOn
        exact ⟨part ++ more, ⟨part, more, spelled, others, rfl⟩,
          (List.prefix_append_right_inj part).mpr starts⟩
      · rintro ⟨whole, ⟨part, more, spelled, others, rfl⟩, rest, rfl⟩
        refine ⟨part, more ++ rest, spelled, ?_, List.append_assoc _ _ _⟩
        exact (ih _).mpr ⟨more, others, rest, rfl⟩

/-- Pieces occur in a text if they spell a part of it. -/
theorem occurs_iff (pieces : List Piece) (text : List Char) :
    occurs pieces text = true ↔ ∃ part, Spells pieces part ∧ part <:+: text := by
  induction text with
  | nil =>
      rw [occurs, continues_iff]
      simp only [List.prefix_nil, List.infix_nil]
  | cons c text ih =>
      rw [occurs, Bool.or_eq_true, continues_iff, ih]
      constructor
      · rintro (⟨part, spelled, here⟩ | ⟨part, spelled, later⟩)
        · exact ⟨part, spelled, here.isInfix⟩
        · exact ⟨part, spelled, List.infix_cons_iff.mpr (Or.inr later)⟩
      · rintro ⟨part, spelled, within⟩
        rcases List.infix_cons_iff.mp within with here | later
        · exact Or.inl ⟨part, spelled, here⟩
        · exact Or.inr ⟨part, spelled, later⟩

/-- The texts of a pattern. -/
def Spells (pattern : Pattern) (part : List Char) : Prop :=
  ∃ pieces ∈ pattern.choices, Scan.Spells pieces part

/-- **A pattern accepts the lines that one of its texts is a part of.** -/
theorem accepts_iff (pattern : Pattern) (line : String) :
    pattern.accepts line = true ↔ ∃ part, pattern.Spells part ∧ part <:+: line.toList := by
  rw [accepts, List.any_eq_true]
  constructor
  · rintro ⟨pieces, member, found⟩
    obtain ⟨part, spelled, within⟩ := (occurs_iff pieces line.toList).mp found
    exact ⟨part, ⟨pieces, member, spelled⟩, within⟩
  · rintro ⟨part, ⟨pieces, member, spelled⟩, within⟩
    exact ⟨pieces, member, (occurs_iff pieces line.toList).mpr ⟨part, spelled, within⟩⟩

-- The first loop has no length in its head.
example : loopLengthPattern.accepts "for (;;) for (i < a.length" = true := by decide

end Pattern

/-! ## The built-in rules -/

/-- A text of blank space. -/
def IsBlankRun (text : List Char) : Prop :=
  ∀ c ∈ text, isBlank c = true

/-- The built-in rules, and what a line has to have in it for each of them. -/
def builtinLanguages : List (String × (List Char → Prop)) := [
  ("reentrancy", fun part => part = ".call\x7bvalue:".toList),
  ("tx-origin", fun part => part = "tx.origin".toList),
  ("selfdestruct", fun part => part = "selfdestruct".toList ∨ part = "suicide".toList),
  ("timestamp", fun part => part = "block.timestamp".toList),
  ("assembly", fun part => ∃ w, IsBlankRun w ∧ part = "assembly".toList ++ w ++ "\x7b".toList),
  ("old-solidity", fun part => ∃ caret digit, (caret = "".toList ∨ caret = "^".toList) ∧
    digit ∈ "0123456".toList ∧
    part = "pragma solidity ".toList ++ caret ++ "0.".toList ++ [digit] ++ ".".toList),
  ("public-array", fun part => ∃ w x, w ≠ [] ∧ IsBlankRun w ∧ '\n' ∉ x ∧
    part = "public".toList ++ w ++ x ++ "[]".toList),
  ("loop-length", fun part => ∃ w x, IsBlankRun w ∧ ')' ∉ x ∧
    part = "for".toList ++ w ++ "(".toList ++ x ++ ".length".toList),
  ("unchecked", fun part => ∃ w, IsBlankRun w ∧ part = "unchecked".toList ++ w ++ "\x7b".toList),
  ("delegatecall", fun part => part = "delegatecall".toList)]

/-- The rule matches the lines that have a text of the language in them. -/
def Rule.Recognizes (rule : Rule) (language : List Char → Prop) : Prop :=
  ∀ line : String, rule.accepts line = true ↔ ∃ part, language part ∧ part <:+: line.toList

/-- A rule recognizes the language of its pattern. -/
theorem Rule.ofPattern_recognizes {pattern : Pattern} {language : List Char → Prop}
    (same : ∀ part, pattern.Spells part ↔ language part) (id : String) (severity : Severity)
    (title description recommendation category : String) :
    (ofPattern id pattern severity title description recommendation category).Recognizes
      language := by
  intro line
  have found := pattern.accepts_iff line
  simp only [same] at found
  exact found

section Shapes

variable {pieces : List Piece} {part : List Char}

/-- A fixed piece is spelled in one way. -/
theorem spells_fixed {written : String} :
    Spells (fixed written :: pieces) part ↔
      ∃ rest, Spells pieces rest ∧ part = written.toList ++ rest := by
  constructor
  · rintro ⟨_, rest, rfl, spelled, rfl⟩
    exact ⟨rest, spelled, rfl⟩
  · rintro ⟨rest, spelled, rfl⟩
    exact ⟨_, rest, rfl, spelled, rfl⟩

theorem spells_fixed_last {written : String} :
    Spells [fixed written] part ↔ part = written.toList := by
  simp [Spells, Piece.Spells, fixed]

/-- A single choice is spelled as its pieces are. -/
theorem spells_choice : Pattern.Spells ⟨[pieces]⟩ part ↔ Spells pieces part := by
  simp [Pattern.Spells]

/-- A run of all characters but one is a text without this one. -/
theorem all_except_iff {excluded : Char} :
    (∀ c ∈ part, (CharClass.except excluded).has c = true) ↔ excluded ∉ part := by
  simp only [CharClass.has, bne_iff_ne]
  exact ⟨fun all member => all excluded member rfl, fun absent c member same =>
    absent (same ▸ member)⟩

/-- The digits up to six are listed. -/
theorem has_digitUpTo_six {c : Char} :
    (CharClass.digitUpTo '6').has c = true ↔ c ∈ "0123456".toList := by
  constructor
  · intro within
    simp only [CharClass.has, Bool.and_eq_true, decide_eq_true_eq] at within
    have low : 48 ≤ c.toNat := within.1
    have high : c.toNat ≤ 54 := within.2
    rw [← Char.ofNat_toNat c]
    generalize c.toNat = code at low high
    interval_cases code <;> decide
  · intro member
    have digits : ("0123456".toList.all (CharClass.digitUpTo '6').has) = true := by decide
    exact List.all_eq_true.mp digits c member

theorem word_spells (written : String) (part : List Char) :
    Pattern.Spells ⟨[[fixed written]]⟩ part ↔ part = written.toList :=
  spells_choice.trans spells_fixed_last

/-- A contract is destroyed by one of two words. -/
theorem destruction_spells (part : List Char) :
    destructionPattern.Spells part ↔ part = "selfdestruct".toList ∨ part = "suicide".toList := by
  simp [destructionPattern, Pattern.Spells, spells_fixed_last]

/-- The start of a block: a word, blank space and a brace. -/
theorem block_spells (word : String) (part : List Char) :
    Pattern.Spells ⟨[[fixed word, .run .blank, fixed "\x7b"]]⟩ part ↔
      ∃ w, IsBlankRun w ∧ part = word.toList ++ w ++ "\x7b".toList := by
  rw [spells_choice, spells_fixed]
  constructor
  · rintro ⟨_, ⟨w, rest, blank, brace, rfl⟩, rfl⟩
    obtain rfl := spells_fixed_last.mp brace
    exact ⟨w, blank, (List.append_assoc _ _ _).symm⟩
  · rintro ⟨w, blank, rfl⟩
    exact ⟨_, ⟨w, _, blank, spells_fixed_last.mpr rfl, rfl⟩, List.append_assoc _ _ _⟩

/-- An old version begins with a small number after the zero, with or without a caret. -/
theorem oldVersion_spells (part : List Char) :
    oldVersionPattern.Spells part ↔ ∃ caret digit, (caret = "".toList ∨ caret = "^".toList) ∧
      digit ∈ "0123456".toList ∧
      part = "pragma solidity ".toList ++ caret ++ "0.".toList ++ [digit] ++ ".".toList := by
  rw [oldVersionPattern, spells_choice, spells_fixed]
  constructor
  · rintro ⟨_, ⟨caret, _, isCaret, version, rfl⟩, rfl⟩
    obtain ⟨_, ⟨_, _, ⟨digit, isDigit, rfl⟩, dot, rfl⟩, rfl⟩ := spells_fixed.mp version
    obtain rfl := spells_fixed_last.mp dot
    exact ⟨caret, digit, isCaret, has_digitUpTo_six.mp isDigit, by simp⟩
  · rintro ⟨caret, digit, isCaret, isDigit, rfl⟩
    refine ⟨caret ++ ("0.".toList ++ ([digit] ++ ".".toList)), ?_, by simp⟩
    refine ⟨caret, _, isCaret, spells_fixed.mpr ⟨_, ?_, rfl⟩, rfl⟩
    exact ⟨_, _, ⟨digit, has_digitUpTo_six.mpr isDigit, rfl⟩, spells_fixed_last.mpr rfl, rfl⟩

/-- A public array has its brackets behind the word, on the same line. -/
theorem publicArray_spells (part : List Char) :
    publicArrayPattern.Spells part ↔ ∃ w x, w ≠ [] ∧ IsBlankRun w ∧ '\n' ∉ x ∧
      part = "public".toList ++ w ++ x ++ "[]".toList := by
  rw [publicArrayPattern, spells_choice, spells_fixed]
  constructor
  · rintro ⟨_, ⟨w, _, ⟨given, blank⟩, ⟨x, _, unbroken, brackets, rfl⟩, rfl⟩, rfl⟩
    obtain rfl := spells_fixed_last.mp brackets
    exact ⟨w, x, given, blank, all_except_iff.mp unbroken, by simp⟩
  · rintro ⟨w, x, given, blank, unbroken, rfl⟩
    refine ⟨w ++ (x ++ "[]".toList), ⟨w, _, ⟨given, blank⟩, ⟨x, _, ?_, ?_, rfl⟩, rfl⟩, by simp⟩
    · exact all_except_iff.mpr unbroken
    · exact spells_fixed_last.mpr rfl

/-- A loop asks for a length within its parentheses. -/
theorem loopLength_spells (part : List Char) :
    loopLengthPattern.Spells part ↔ ∃ w x, IsBlankRun w ∧ ')' ∉ x ∧
      part = "for".toList ++ w ++ "(".toList ++ x ++ ".length".toList := by
  rw [loopLengthPattern, spells_choice, spells_fixed]
  constructor
  · rintro ⟨_, ⟨w, _, blank, head, rfl⟩, rfl⟩
    obtain ⟨_, ⟨x, _, inside, length, rfl⟩, rfl⟩ := spells_fixed.mp head
    obtain rfl := spells_fixed_last.mp length
    exact ⟨w, x, blank, all_except_iff.mp inside, by simp⟩
  · rintro ⟨w, x, blank, inside, rfl⟩
    refine ⟨w ++ ("(".toList ++ (x ++ ".length".toList)), ?_, by simp⟩
    refine ⟨w, _, blank, spells_fixed.mpr ⟨_, ⟨x, _, ?_, ?_, rfl⟩, rfl⟩, rfl⟩
    · exact all_except_iff.mpr inside
    · exact spells_fixed_last.mpr rfl

end Shapes

/-- **Every built-in rule recognizes its language.** -/
theorem builtinCatalog_recognizes :
    List.Forall₂ (fun rule named => rule.id = named.1 ∧ rule.Recognizes named.2)
      builtinCatalog builtinLanguages := by
  refine .cons ⟨rfl, Rule.ofPattern_recognizes (word_spells _) _ _ _ _ _ _⟩ <|
    .cons ⟨rfl, Rule.ofPattern_recognizes (word_spells _) _ _ _ _ _ _⟩ <|
    .cons ⟨rfl, Rule.ofPattern_recognizes destruction_spells _ _ _ _ _ _⟩ <|
    .cons ⟨rfl, Rule.ofPattern_recognizes (word_spells _) _ _ _ _ _ _⟩ <|
    .cons ⟨rfl, Rule.ofPattern_recognizes (block_spells _) _ _ _ _ _ _⟩ <|
    .cons ⟨rfl, Rule.ofPattern_recognizes oldVersion_spells _ _ _ _ _ _⟩ <|
    .cons ⟨rfl, Rule.ofPattern_recognizes publicArray_spells _ _ _ _ _ _⟩ <|
    .cons ⟨rfl, Rule.ofPattern_recognizes loopLength_spells _ _ _ _ _ _⟩ <|
    .cons ⟨rfl, Rule.ofPattern_recognizes (block_spells _) _ _ _ _ _ _⟩ <|
    .cons ⟨rfl, Rule.ofPattern_recognizes (word_spells _) _ _ _ _ _ _⟩ .nil

end Soliscope.Scan
