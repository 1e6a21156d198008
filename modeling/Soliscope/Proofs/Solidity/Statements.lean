import Soliscope.Proofs.Text.Runs
import Soliscope.Proofs.Text.Search
import Soliscope.Solidity.Import

/-! # Import statements and the places where they stand

An import is read off the front of a text exactly if the text begins with a statement written as
imports are (`importAt?_eq_some_iff`). Its path has no quotation mark, so that a statement whose
path has no semicolon either never starts within another one (`IsWritten.not_prefix_within`).

The imports of a source are listed a second time with the places where they start
(`placedImports`). What holds of the empty text, and of a text with one more character or one more
statement in front of it, holds of every text (`scan_induction`).
-/

namespace Soliscope.Solidity

open Soliscope.Text

/-- A statement written as imports are: the word, blank space, a path in quotes and a semicolon. -/
def Import.IsWritten (written : Import) : Prop :=
  ∃ blanks opening closing,
    blanks ≠ [] ∧ (∀ c ∈ blanks, isBlank c = true) ∧
    isQuote opening = true ∧ isQuote closing = true ∧
    written.path ≠ [] ∧ (∀ c ∈ written.path, isQuote c = false) ∧
    written.statement = importKeyword ++ blanks ++ opening :: written.path ++ [closing, ';']

/-- A quotation mark is no blank. -/
theorem not_isBlank_of_isQuote {c : Char} (quote : isQuote c = true) : isBlank c = false := by
  rw [isQuote, Bool.or_eq_true, beq_iff_eq, beq_iff_eq] at quote
  rcases quote with rfl | rfl <;> decide

/-- What the reader finds is in writing at the start of the text. -/
theorem isWritten_of_importAt? {text : List Char} {found : Import}
    (read : importAt? text = some found) : found.IsWritten ∧ found.statement <+: text := by
  unfold importAt? at read
  split at read
  · cases read
  next afterWord isWord =>
    split at read
    next opening afterQuote atQuote =>
      dsimp only at read
      split at read
      next closing rest atEnd =>
        split at read
        · cases read
        next complete =>
          cases read
          simp only [Bool.or_eq_true, List.isEmpty_iff, Bool.not_eq_true', not_or,
            Bool.not_eq_false] at complete
          obtain ⟨⟨spaced, opens⟩, given⟩ := complete
          have closes : isQuote closing = true := by
            have stopped := @List.head_dropWhile_not _ (!isQuote ·) afterQuote (by simp [atEnd])
            simpa [atEnd] using stopped
          refine ⟨⟨afterWord.takeWhile isBlank, opening, closing, spaced,
            fun c member => List.mem_takeWhile_imp member, opens, closes, given,
            fun c member => by simpa using List.mem_takeWhile_imp member, rfl⟩, rest, ?_⟩
          have path : afterQuote.takeWhile (!isQuote ·) ++ closing :: ';' :: rest = afterQuote := by
            rw [← atEnd, List.takeWhile_append_dropWhile]
          have spacing : afterWord.takeWhile isBlank ++ opening :: afterQuote = afterWord := by
            rw [← atQuote, List.takeWhile_append_dropWhile]
          rw [← List.isPrefixOf?_eq_some_iff_append_eq.mp isWord]
          simp only [List.append_assoc, List.cons_append, List.nil_append, path, spacing]
      · cases read
    · cases read

/-- An import in writing is found, whatever comes behind it. -/
theorem importAt?_of_isWritten {found : Import} (written : found.IsWritten) (rest : List Char) :
    importAt? (found.statement ++ rest) = some found := by
  obtain ⟨statement, path⟩ := found
  obtain ⟨blanks, opening, closing, spaced, blank, opens, closes, given, unquoted, shape⟩ := written
  dsimp only at given unquoted shape
  subst shape
  have isWord : importKeyword.isPrefixOf?
      (importKeyword ++ (blanks ++ opening :: (path ++ closing :: ';' :: rest))) =
        some (blanks ++ opening :: (path ++ closing :: ';' :: rest)) :=
    List.isPrefixOf?_eq_some_iff_append_eq.mpr rfl
  have notBlank : isBlank opening = false := not_isBlank_of_isQuote opens
  have spacing := takeWhile_run blank notBlank (path ++ closing :: ';' :: rest)
  have atQuote := dropWhile_run blank notBlank (path ++ closing :: ';' :: rest)
  have inside : ∀ c ∈ path, (!isQuote c) = true := fun c member => by simp [unquoted c member]
  have notInside : (!isQuote closing) = false := by simp [closes]
  have name := @takeWhile_run (!isQuote ·) _ _ inside notInside (';' :: rest)
  have atEnd := @dropWhile_run (!isQuote ·) _ _ inside notInside (';' :: rest)
  simp only [List.append_assoc, List.cons_append, List.nil_append, importAt?, isWord, spacing,
    atQuote, name, atEnd]
  simp [spaced, opens, given]

/-- **An import is read off a text that begins with a written statement, and off no other.** -/
theorem importAt?_eq_some_iff (text : List Char) (found : Import) :
    importAt? text = some found ↔ found.IsWritten ∧ found.statement <+: text := by
  constructor
  · exact isWritten_of_importAt?
  · rintro ⟨written, rest, rfl⟩
    exact importAt?_of_isWritten written rest

namespace Import.IsWritten

variable {written other : Import}

/-- A text starts with one import at most. -/
theorem eq_of_prefix (isWritten : written.IsWritten) (isOther : other.IsWritten) {text : List Char}
    (starts : written.statement <+: text) (otherStarts : other.statement <+: text) :
    written = other := by
  have read := (importAt?_eq_some_iff text written).mpr ⟨isWritten, starts⟩
  rw [(importAt?_eq_some_iff text other).mpr ⟨isOther, otherStarts⟩] at read
  exact (Option.some.inj read).symm

/-- Every statement starts with the first letter of its keyword. -/
theorem statement_head (isWritten : written.IsWritten) :
    ∃ tail, written.statement = 'i' :: tail := by
  obtain ⟨blanks, opening, closing, -, -, -, -, -, -, shape⟩ := isWritten
  exact ⟨_, shape⟩

/-- No statement is empty. -/
theorem statement_ne_nil (isWritten : written.IsWritten) : written.statement ≠ [] := by
  obtain ⟨tail, starts⟩ := isWritten.statement_head
  rw [starts]
  exact List.cons_ne_nil _ _

/-- Every statement holds a semicolon. -/
theorem terminator_mem (isWritten : written.IsWritten) : ';' ∈ written.statement := by
  obtain ⟨blanks, opening, closing, -, -, -, -, -, -, shape⟩ := isWritten
  rw [shape]
  simp

/-- A statement whose path has no semicolon has its only semicolon at its end. -/
theorem statement_end (isWritten : written.IsWritten) (whole : ';' ∉ written.path) :
    ∃ inner, ';' ∉ inner ∧ written.statement = inner ++ [';'] := by
  obtain ⟨blanks, opening, closing, -, blank, opens, closes, -, -, shape⟩ := isWritten
  refine ⟨importKeyword ++ blanks ++ opening :: written.path ++ [closing], ?_, ?_⟩
  · have notKeyword : ';' ∉ importKeyword := by decide
    have notBlank : ';' ∉ blanks := fun member => by cases blank _ member
    have notOpening : ';' ≠ opening := by
      rintro rfl
      cases opens
    have notClosing : ';' ≠ closing := by
      rintro rfl
      cases closes
    simp [notKeyword, notBlank, notOpening, notClosing, whole]
  · rw [shape]
    simp

/-- The first letter of the word comes a second time neither in the word nor in the blank space. -/
theorem first_notMem {blanks : List Char} (blank : ∀ c ∈ blanks, isBlank c = true) :
    'i' ∉ importKeyword.tail ++ blanks := by
  intro member
  rcases List.mem_append.mp member with ofKeyword | ofBlanks
  · exact (by decide : 'i' ∉ importKeyword.tail) ofKeyword
  · cases blank _ ofBlanks

/-- No statement starts in the path of another one and goes beyond it. -/
theorem not_prefix_at_end (isWritten : written.IsWritten) (whole : ';' ∉ written.path)
    {inside : List Char} (unquoted : ∀ c ∈ inside, isQuote c = false) {mark : Char}
    (closes : isQuote mark = true) (rest : List Char) :
    ¬ written.statement <+: inside ++ mark :: ';' :: rest := by
  rintro ⟨after, together⟩
  obtain ⟨blanks, opening, closing, -, blank, opens, -, given, -, shape⟩ := isWritten
  have passed : ∀ c ∈ importKeyword ++ blanks, (!isQuote c) = true := by
    intro c member
    rcases List.mem_append.mp member with ofKeyword | ofBlanks
    · have unquotedWord : importKeyword.all (!isQuote ·) = true := by decide +kernel
      exact List.all_eq_true.mp unquotedWord c ofKeyword
    · cases quote : isQuote c with
      | false => rfl
      | true => exact absurd (blank c ofBlanks) (by simp [not_isBlank_of_isQuote quote])
  have atOpening : (written.statement ++ after).dropWhile (!isQuote ·) =
      opening :: (written.path ++ closing :: ';' :: after) := by
    rw [shape]
    simp only [List.append_assoc, List.cons_append, List.nil_append]
    rw [← List.append_assoc]
    exact @dropWhile_run (!isQuote ·) _ _ passed (by simp [opens]) _
  have atMark : (inside ++ mark :: ';' :: rest).dropWhile (!isQuote ·) = mark :: ';' :: rest :=
    @dropWhile_run (!isQuote ·) _ _ (fun c member => by simp [unquoted c member])
      (by simp [closes]) _
  rw [together, atMark] at atOpening
  obtain ⟨c, path, named⟩ := List.exists_cons_of_ne_nil given
  rw [named, List.cons_append] at atOpening
  injection atOpening with _ following
  injection following with first _
  exact whole (by simp [named, ← first])

/-- **A statement whose path has no semicolon does not start within another statement.** Only the
last quotation mark of that other one could open its path, and what follows it is a semicolon. -/
theorem not_prefix_within (isWritten : written.IsWritten) (whole : ';' ∉ written.path)
    (isOther : other.IsWritten) {passed left : List Char} (divided : other.statement = passed ++ left)
    (begun : passed ≠ []) (given : left ≠ []) (rest : List Char) :
    ¬ written.statement <+: left ++ rest := by
  intro starts
  obtain ⟨tail, keyword⟩ := isWritten.statement_head
  obtain ⟨c, left, rfl⟩ := List.exists_cons_of_ne_nil given
  obtain rfl : 'i' = c := by
    rw [keyword, List.cons_append] at starts
    exact (List.cons_prefix_cons.mp starts).1
  obtain ⟨blanks, opening, closing, -, blank, opens, closes, -, unquoted, shape⟩ := isOther
  have lined : (importKeyword ++ blanks) ++ opening :: (other.path ++ [closing, ';']) =
      passed ++ 'i' :: left := by
    rw [← divided, shape]
    simp
  rcases List.append_eq_append_iff.mp lined with ⟨inside, -, cut⟩ | ⟨inFront, front, cut⟩
  -- The rest begins with the opening quotation mark or after it.
  · cases inside with
    | nil =>
        injection cut with same _
        rw [same] at opens
        cases opens
    | cons mark inside =>
        injection cut with _ cut
        rcases List.append_eq_append_iff.mp cut with ⟨inEnd, -, ended⟩ | ⟨inPath, path, ended⟩
        · have member : 'i' ∈ [closing, ';'] := by rw [ended]; simp
          obtain rfl : 'i' = closing := by simpa using member
          cases closes
        · refine isWritten.not_prefix_at_end whole (fun c member => unquoted c ?_) closes rest
            (show written.statement <+: inPath ++ closing :: ';' :: rest from ?_)
          · rw [path]
            exact List.mem_append_right _ member
          · rw [ended] at starts
            simpa using starts
  -- The rest begins before the quotation mark, but not with the word itself.
  · cases inFront with
    | nil =>
        injection cut with same _
        rw [← same] at opens
        cases opens
    | cons first inFront =>
        injection cut with same _
        subst same
        obtain ⟨before, passed, rfl⟩ := List.exists_cons_of_ne_nil begun
        injection front with _ later
        have member : 'i' ∈ importKeyword.tail ++ blanks := by
          rw [show importKeyword.tail ++ blanks = passed ++ 'i' :: inFront from later]
          simp
        exact first_notMem blank member

end Import.IsWritten

/-- An import and the place in the source where its statement starts. -/
structure PlacedImport extends Import where
  start : Nat
  deriving DecidableEq

/-- The place after the statement. -/
def PlacedImport.stop (placed : PlacedImport) : Nat :=
  placed.start + placed.statement.length

/-- The imports of a text that stands at a position of the source, where `skip` characters still
belong to a statement already found. -/
def placedFrom (position skip : Nat) : List Char → List PlacedImport
  | [] => []
  | c :: rest =>
    match skip with
    | skip + 1 => placedFrom (position + 1) skip rest
    | 0 =>
      match importAt? (c :: rest) with
      | some found =>
        ⟨found, position⟩ :: placedFrom (position + 1) (found.statement.length - 1) rest
      | none => placedFrom (position + 1) 0 rest

/-- The imports of a source with their places, in order. -/
def placedImports (source : List Char) : List PlacedImport :=
  placedFrom 0 0 source

/-- The places are the only thing that the scan with places adds. -/
theorem map_placedFrom (position skip : Nat) (text : List Char) :
    (placedFrom position skip text).map PlacedImport.toImport = importsFrom skip text := by
  induction text generalizing position skip with
  | nil => rfl
  | cons c rest ih =>
      cases skip with
      | succ skip => exact ih (position + 1) skip
      | zero =>
          rw [placedFrom, importsFrom]
          cases importAt? (c :: rest) with
          | some found => exact congrArg (found :: ·) (ih (position + 1) _)
          | none => exact ih (position + 1) 0

/-- The places are those of the imports that the model finds. -/
theorem map_placedImports (source : List Char) :
    (placedImports source).map PlacedImport.toImport = imports source :=
  map_placedFrom 0 0 source

/-- Characters of a statement that was found are skipped. -/
theorem placedFrom_skip (position : Nat) (skipped rest : List Char) :
    placedFrom position skipped.length (skipped ++ rest) =
      placedFrom (position + skipped.length) 0 rest := by
  induction skipped generalizing position with
  | nil => rfl
  | cons c skipped ih =>
      rw [List.cons_append, List.length_cons, placedFrom, ih, Nat.add_right_comm, Nat.add_assoc]

/-- A character at which no import starts is passed. -/
theorem placedFrom_pass {c : Char} {rest : List Char} (nothing : importAt? (c :: rest) = none)
    (position : Nat) : placedFrom position 0 (c :: rest) = placedFrom (position + 1) 0 rest := by
  rw [placedFrom, nothing]

/-- A statement is found and passed as a whole. -/
theorem placedFrom_statement {found : Import} (written : found.IsWritten) (position : Nat)
    (rest : List Char) :
    placedFrom position 0 (found.statement ++ rest) =
      ⟨found, position⟩ :: placedFrom (position + found.statement.length) 0 rest := by
  have read := importAt?_of_isWritten written rest
  obtain ⟨tail, starts⟩ := written.statement_head
  rw [starts, List.cons_append] at read ⊢
  rw [placedFrom, read]
  dsimp only
  rw [starts, List.length_cons, Nat.add_sub_cancel, placedFrom_skip, Nat.add_right_comm,
    Nat.add_assoc]

/-- A text is empty, or has a character in front with which no statement starts, or has a statement
in front. -/
theorem scan_induction {motive : List Char → Prop} (nil : motive [])
    (pass : ∀ c rest, importAt? (c :: rest) = none → motive rest → motive (c :: rest))
    (statement : ∀ found : Import, found.IsWritten → ∀ rest, motive rest →
      motive (found.statement ++ rest)) (text : List Char) : motive text := by
  induction length : text.length using Nat.strong_induction_on generalizing text with
  | h size ih =>
      cases text with
      | nil => exact nil
      | cons c rest =>
          cases read : importAt? (c :: rest) with
          | none =>
              exact pass c rest read (ih rest.length (by rw [← length]; simp) rest rfl)
          | some found =>
              obtain ⟨written, later, whole⟩ := isWritten_of_importAt? read
              rw [← whole]
              have shorter : later.length < size := by
                have given := List.length_pos_of_ne_nil written.statement_ne_nil
                rw [← length, ← whole, List.length_append]
                omega
              exact statement found written later (ih later.length shorter later rfl)

/-- An import with a place is written, and its statement stands at that place. -/
theorem isWritten_of_mem_placedImports {source : List Char} {placed : PlacedImport}
    (member : placed ∈ placedImports source) :
    placed.IsWritten ∧ placed.statement <+: source.drop placed.start := by
  have stands (before text : List Char) (here : placed ∈ placedFrom before.length 0 text) :
      placed.IsWritten ∧ placed.statement <+: (before ++ text).drop placed.start := by
    induction text using scan_induction generalizing before with
    | nil => cases here
    | pass c rest nothing ih =>
        rw [placedFrom_pass nothing] at here
        simpa using ih (before ++ [c]) (by simpa using here)
    | statement found written rest ih =>
        rw [placedFrom_statement written] at here
        rcases List.mem_cons.mp here with rfl | later
        · refine ⟨written, ?_⟩
          rw [List.drop_left]
          exact List.prefix_append _ _
        · simpa using ih (before ++ found.statement) (by simpa using later)
  exact stands [] source member

end Soliscope.Solidity
