import Soliscope.Compression.Bits

/-! # Prefix codes

A prefix code gives each symbol a word of bits, none of which starts another.  It is told by the
lengths of the words alone: shorter words come before longer ones, and among words of one length the
symbols are in order.
-/

namespace Soliscope.Compression

/-- The words of a code as ways through a tree, each to its symbol. -/
inductive CodeTree where
  | unused
  | symbol (value : Nat)
  | branch (zero one : CodeTree)
  deriving DecidableEq, Repr

namespace CodeTree

/-- Read a symbol; `invalid` is the flaw of a word that has none. -/
def read (invalid : Flaw) : CodeTree → BitReader Nat
  | .unused => refuse invalid
  | .symbol value => pure value
  | .branch zero one => fun bits =>
    match bits with
    | [] => .error .ended
    | false :: rest => zero.read invalid rest
    | true :: rest => one.read invalid rest

/-- Grow the tree below a place.  `words` holds the symbols that have no place yet by the lengths of
their words, from the length that ends at this place.  A symbol with such a word takes the place;
otherwise the place branches, as long as symbols are left. -/
def grow : Nat → List (List Nat) → CodeTree × List (List Nat)
  | depth + 1, [] :: longer =>
    if longer.all (·.isEmpty) then (.unused, [] :: longer)
    else
      let (zero, longer) := grow depth longer
      let (one, longer) := grow depth longer
      (.branch zero one, [] :: longer)
  | _, (value :: later) :: longer => (.symbol value, later :: longer)
  | _, words => (.unused, words)

/-- The greatest length of a word. -/
def longestWord : Nat := 15

/-- The symbols by the lengths of their words, from length one.  A symbol of length zero has no
word. -/
def wordsOf (lengths : List Nat) : List (List Nat) :=
  (List.range longestWord).map fun shorter =>
    (lengths.zipIdx.filter (·.1 == shorter + 1)).map Prod.snd

/-- How many words of the greatest length could still be given out; negative if there are too many
words. -/
def spareWords (words : List (List Nat)) : Int :=
  words.foldl (fun spare symbols => 2 * spare - symbols.length) 1

/-- The tree for words by length. -/
def ofWords (words : List (List Nat)) : CodeTree :=
  let (zero, words) := grow longestWord words
  let (one, _) := grow longestWord words
  .branch zero one

/-- The tree of a code, if it has neither too many words nor too few.  A code without words is
taken, and one with a single word of a single bit. -/
def ofLengths? (lengths : List Nat) : Option CodeTree :=
  let words := wordsOf lengths
  let spare := spareWords words
  if words.all (·.isEmpty) || spare == 0 || (0 < spare && (words.drop 1).all (·.isEmpty)) then
    some (ofWords words)
  else none

/-- The tree of the code for the lengths of words.  It has all its words, or none; in the latter
case every bit stands for zero. -/
def ofLengthLengths? (lengths : List Nat) : Option CodeTree :=
  let words := wordsOf lengths
  if words.all (·.isEmpty) then some (.branch (.symbol 0) (.symbol 0))
  else if spareWords words == 0 then some (ofWords words)
  else none

end CodeTree

end Soliscope.Compression
