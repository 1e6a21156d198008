import Soliscope.Text.Blank

/-! # Line patterns

A pattern is a choice of sequences of pieces.  It accepts a line in which one of the sequences
occurs, anywhere.  `Pattern.render` writes a pattern the way regular expressions are written.

Matching goes from piece to piece: `Pattern.continues` asks whether the pieces match at the front of
a text, and a piece that repeats tries every length of its run.
-/

namespace Soliscope.Scan

open Soliscope.Text

/-- A class of characters. -/
inductive CharClass where
  | blank
  /-- Everything but one character. -/
  | except (excluded : Char)
  /-- The digits from zero up to one of them. -/
  | digitUpTo (last : Char)
  deriving DecidableEq, Repr

namespace CharClass

/-- The class holds a character. -/
def has : CharClass → Char → Bool
  | blank, c => isBlank c
  | except excluded, c => c != excluded
  | digitUpTo last, c => '0' ≤ c && c ≤ last

/-- The class in writing. -/
def render : CharClass → List Char
  | blank => ['\\', 's']
  | except '\n' => ['.']
  | except excluded => ['[', '^', excluded, ']']
  | digitUpTo last => ['[', '0', '-', last, ']']

end CharClass

/-- A piece of a pattern. -/
inductive Piece where
  | text (written : List Char)
  /-- A character that may be missing. -/
  | optional (c : Char)
  | one (among : CharClass)
  /-- A run of any length. -/
  | run (among : CharClass)
  /-- A run of at least one character. -/
  | run₁ (among : CharClass)
  deriving DecidableEq, Repr

/-- A choice of sequences of pieces. -/
structure Pattern where
  choices : List (List Piece)
  deriving DecidableEq, Repr

namespace Pattern

/-- A run of some length at the front of a text leaves a rest that `next` accepts. -/
def afterRun (among : CharClass) (next : List Char → Bool) : List Char → Bool
  | [] => next []
  | c :: rest => next (c :: rest) || (among.has c && afterRun among next rest)

/-- The pieces match at the front of a text. -/
def continues : List Piece → List Char → Bool
  | [], _ => true
  | .text written :: pieces, text =>
    match written.isPrefixOf? text with
    | some rest => continues pieces rest
    | none => false
  | .optional c :: pieces, text =>
    continues pieces text ||
      match text with
      | first :: rest => first == c && continues pieces rest
      | [] => false
  | .one among :: pieces, text =>
    match text with
    | first :: rest => among.has first && continues pieces rest
    | [] => false
  | .run among :: pieces, text => afterRun among (continues pieces) text
  | .run₁ among :: pieces, text =>
    match text with
    | first :: rest => among.has first && afterRun among (continues pieces) rest
    | [] => false

/-- The pieces match somewhere in a text. -/
def occurs (pieces : List Piece) : List Char → Bool
  | [] => continues pieces []
  | c :: rest => continues pieces (c :: rest) || occurs pieces rest

/-- The pattern accepts a line. -/
def accepts (pattern : Pattern) (line : String) : Bool :=
  pattern.choices.any (occurs · line.toList)

/-- The characters that stand for something else in a written pattern. -/
def special : List Char :=
  ['\\', '.', '^', '$', '*', '+', '?', '(', ')', '[', ']', '{', '|']

/-- A character in writing. -/
def renderChar (c : Char) : List Char :=
  if special.contains c then ['\\', c] else [c]

/-- A piece in writing. -/
def renderPiece : Piece → List Char
  | .text written => written.flatMap renderChar
  | .optional c => renderChar c ++ ['?']
  | .one among => among.render
  | .run among => among.render ++ ['*']
  | .run₁ among => among.render ++ ['+']

/-- The pattern in writing. -/
def render (pattern : Pattern) : String :=
  String.ofList (['|'].intercalate (pattern.choices.map (·.flatMap renderPiece)))

/-- The pattern that is a text. -/
def literal (text : String) : Pattern :=
  ⟨[[.text text.toList]]⟩

end Pattern

end Soliscope.Scan
