import Soliscope.Text.Ascii
import Soliscope.Text.Direction
import Soliscope.Text.Joining
import Soliscope.Text.Mark
import Soliscope.Text.Normal
import Soliscope.Text.Script
import Soliscope.Url.DomainLetter
import Soliscope.Url.Punycode

/-! # Domain names

A domain name is made of labels between dots.  Labels with characters beyond ASCII are written in
ASCII after the mark `xn--`, in one way only.  Both ways a label has to keep the rules for labels:
on hyphens, on the characters that it may hold, and on the direction of writing.

What is written in ASCII may stand for code points that are no characters.  Labels are therefore
checked as code points; a label that passes has characters only.
-/

namespace Soliscope.Url

open Soliscope.Text

/-- What is wrong with a domain name. -/
inductive NameFlaw where
  | emptyName
  | longName
  | emptyLabel
  | longLabel
  | notComposed
  | innerHyphens
  | outerHyphen
  | leadingMark
  /-- A code point that may not stand in any label. -/
  | character (position : Nat) (label : List Nat)
  /-- A character that may not stand at this place. -/
  | place (position : Nat) (label : List Nat)
  /-- A joiner between characters that it cannot join. -/
  | joiner (position : Nat) (label : List Nat)
  /-- A joiner after a character about which nothing is known. -/
  | unknownNeighbor (position : Nat) (label : List Nat)
  | unknownDirection (position : Nat) (label : List Nat)
  | firstDirection (label : List Nat)
  /-- A character that goes against the direction of its label. -/
  | direction (position : Nat) (rightToLeft : Bool)
  | mixedNumbers
  | lastDirection
  /-- Nothing follows the mark of a label in ASCII. -/
  | bareMark
  | finalHyphen
  | notEncoded
  /-- The label in ASCII is not the one that its meaning is written as. -/
  | otherEncoding
  deriving DecidableEq, Repr

/-- The code point at a position of a label, in writing. -/
def pointText (position : Nat) (label : List Nat) : String :=
  let point := label.getD (position - 1) 0
  String.ofList ('U' :: '+' :: (hexDigits 4 point).map Char.toUpper)

/-- The text of a flaw. -/
def NameFlaw.message : NameFlaw → String
  | .emptyName => "Empty domain"
  | .longName => "Domain too long"
  | .emptyLabel => "Empty Label"
  | .longLabel => "Label too long"
  | .notComposed => "Label must be in Normalization Form C"
  | .innerHyphens => "Label has disallowed hyphens in 3rd and 4th position"
  | .outerHyphen => "Label must not start or end with a hyphen"
  | .leadingMark => "Label begins with an illegal combining character"
  | .character position label =>
    "Codepoint " ++ pointText position label ++ " at position " ++ toString position ++ " of " ++
      quotedPoints label ++ " not allowed"
  | .place position label =>
    "Codepoint " ++ pointText position label ++ " not allowed at position " ++ toString position ++
      " in " ++ quotedPoints label
  | .joiner position label =>
    "Joiner " ++ pointText position label ++ " not allowed at position " ++ toString position ++
      " in " ++ quotedPoints label
  | .unknownNeighbor position label =>
    "Unknown codepoint adjacent to joiner " ++ pointText position label ++ " at position " ++
      toString position ++ " in " ++ quotedPoints label
  | .unknownDirection position label =>
    "Unknown directionality in label " ++ quotedPoints label ++ " at position " ++
      toString position
  | .firstDirection label =>
    "First codepoint in label " ++ quotedPoints label ++ " must be directionality L, R or AL"
  | .direction position rightToLeft =>
    "Invalid direction for codepoint at position " ++ toString position ++ " in a " ++
      (if rightToLeft then "right-to-left" else "left-to-right") ++ " label"
  | .mixedNumbers => "Can not mix numeral types in a right-to-left label"
  | .lastDirection => "Label ends with illegal codepoint directionality"
  | .bareMark => "Malformed A-label, no Punycode eligible content found"
  | .finalHyphen => "A-label must not end with a hyphen"
  | .notEncoded => "Invalid A-label"
  | .otherEncoding => "A-label is not the canonical Punycode encoding of its U-label"

/-- The joiners. -/
def isJoiner (c : Char) : Bool :=
  c == '\u200C' || c == '\u200D'

/-- A joiner between the characters before it, the last one first, and those after it can join
them. -/
def joinerFits (before : List Char) (joiner : Char) (after : List Char) : Bool :=
  before.head?.any isVirama ||
    (joiner == '\u200C' &&
      (before.dropWhile isTransparent).head?.any joinsNext &&
      (after.dropWhile isTransparent).head?.any joinsPrevious)

/-- An Arabic digit of the common row. -/
def isArabicDigit (c : Char) : Bool :=
  0x660 ≤ c.toNat && c.toNat ≤ 0x669

/-- An Arabic digit of the eastern row. -/
def isEasternDigit (c : Char) : Bool :=
  0x6F0 ≤ c.toNat && c.toNat ≤ 0x6F9

/-- The characters that may stand in some places only; none if a character is not one of them.  The
characters before are given the last one first. -/
def fitsPlace? (before : List Char) (c : Char) (after : List Char) : Option Bool :=
  if c == '\u00B7' then some (before.head? == some 'l' && after.head? == some 'l')
  else if c == '\u0375' then some (after.head?.any fun next => greekRanges.has next.toNat)
  else if c == '\u05F3' || c == '\u05F4' then
    some (before.head?.any fun last => hebrewRanges.has last.toNat)
  else if c == '\u30FB' then
    some ((before ++ after).any fun other => other != c && japaneseRanges.has other.toNat)
  else if isArabicDigit c then some (!(before ++ after).any isEasternDigit)
  else if isEasternDigit c then some (!(before ++ after).any isArabicDigit)
  else none

/-- What is wrong with a character between those before it, the last one first, and those after it,
if anything. -/
def characterFlaw? (before : List Char) (c : Char) (after : List Char) :
    Option (Nat → List Nat → NameFlaw) :=
  if isDomainLetter c then none
  else if isJoiner c then
    if before.head?.any (direction · == .unknown) then some .unknownNeighbor
    else if joinerFits before c after then none
    else some .joiner
  else
    match fitsPlace? before c after with
    | some true => none
    | some false => some .place
    | none => some .character

/-- Check the characters of a label after those already checked, the last one first. -/
def checkCharacters (label : List Nat) (before : List Char) : List Char → Except NameFlaw Unit
  | [] => .ok ()
  | c :: after =>
    match characterFlaw? before c after with
    | some flaw => .error (flaw (before.length + 1) label)
    | none => checkCharacters label (c :: before) after

/-- A direction may occur in a label of a direction. -/
def mayOccur (rightToLeft : Bool) : Direction → Bool
  | .leftToRight => !rightToLeft
  | .rightToLeft | .arabicNumber => rightToLeft
  | .europeanNumber | .neutral | .mark => true
  | .unknown => false

/-- A label of a direction may end with a direction. -/
def mayEnd (rightToLeft : Bool) : Direction → Bool
  | .leftToRight => !rightToLeft
  | .rightToLeft | .arabicNumber => rightToLeft
  | .europeanNumber => true
  | .neutral | .mark | .unknown => false

/-- The first position whose direction has a property, counted from one. -/
def positionWhere? (property : Direction → Bool) (directions : List Direction) : Option Nat :=
  (directions.findIdx? property).map (· + 1)

/-- The directions are written from right to left in part. -/
def hasRightToLeft (directions : List Direction) : Bool :=
  directions.any fun direction => direction == .rightToLeft || direction == .arabicNumber

/-- Where a mixture of numbers shows in a label, counted from one. -/
def mixedNumbers? (directions : List Direction) : Option Nat :=
  match directions.find? fun kind => kind == .arabicNumber || kind == .europeanNumber with
  | some .arabicNumber => positionWhere? (· == .europeanNumber) directions
  | some .europeanNumber => positionWhere? (· == .arabicNumber) directions
  | _ => none

/-- Check the directions of a label that is written from right to left in part. -/
def checkMixedDirections (label : List Nat) (directions : List Direction) :
    Except NameFlaw Unit :=
  match directions.head? with
  | some first =>
    if first != .rightToLeft && first != .leftToRight then .error (.firstDirection label)
    else
      let rightToLeft := first == .rightToLeft
      let against := positionWhere? (!mayOccur rightToLeft ·) directions
      let mixed := if rightToLeft then mixedNumbers? directions else none
      match against, mixed with
      | some position, none => .error (.direction position rightToLeft)
      | some position, some number =>
        if position ≤ number then .error (.direction position rightToLeft) else .error .mixedNumbers
      | none, some _ => .error .mixedNumbers
      | none, none =>
        let last := (directions.reverse.dropWhile (· == .mark)).head?
        if last.any (mayEnd rightToLeft) then .ok () else .error .lastDirection
  | none => .ok ()

/-- Check the directions of a label. -/
def checkDirections (label : List Nat) (directions : List Direction) : Except NameFlaw Unit :=
  match positionWhere? (· == .unknown) directions with
  | some position => .error (.unknownDirection position label)
  | none => if hasRightToLeft directions then checkMixedDirections label directions else .ok ()

/-- Check the hyphens of a label. -/
def checkHyphens (label : List Char) : Except NameFlaw Unit :=
  if (label.drop 2).take 2 == ['-', '-'] then .error .innerHyphens
  else if label.head? == some '-' || label.getLast? == some '-' then .error .outerHyphen
  else .ok ()

/-- The greatest length of a name, with its final dot. -/
def nameLimit : Nat := 254

/-- The greatest length of a label in ASCII. -/
def labelLimit : Nat := 63

/-- Check a label, and give its characters.  Code points that are no characters are looked at as the
null character, which no label may hold. -/
def checkLabel (points : List Nat) : Except NameFlaw (List Char) := do
  if points.isEmpty then throw .emptyLabel
  if nameLimit < points.length then throw .longLabel
  let label := points.map Char.ofNat
  if !isComposed label then throw .notComposed
  checkHyphens label
  if label.head?.any isMark then throw .leadingMark
  checkCharacters points [] label
  checkDirections points (label.map direction)
  pure label

/-- The mark of a label that is written in ASCII. -/
def asciiMark : List Char := "xn--".toList

/-- The label that an ASCII label stands for. -/
def decodeAsciiLabel (written : List Char) : Except NameFlaw (List Char) := do
  match asciiMark.isPrefixOf? written with
  | none => checkLabel (written.map Char.toNat)
  | some encoded =>
    if encoded.isEmpty then throw .bareMark
    if encoded.getLast? == some '-' then throw .finalHyphen
    match Punycode.decode? encoded with
    | none => throw .notEncoded
    | some points =>
      let label ← checkLabel points
      if Punycode.encode label == encoded then pure label else throw .otherEncoding

/-- The label that a written label stands for. -/
def decodeLabel (written : List Char) : Except NameFlaw (List Char) :=
  if isAscii written then decodeAsciiLabel (written.map Char.toLower)
  else checkLabel (written.map Char.toNat)

/-- A label in ASCII. -/
def encodeLabel (label : List Char) : Except NameFlaw (List Char) := do
  let written ←
    if isAscii label then do
      let _ ← decodeLabel label
      pure label
    else do
      let label ← checkLabel (label.map Char.toNat)
      pure (asciiMark ++ Punycode.encode label)
  if labelLimit < written.length then throw .longLabel
  pure written

/-- A dot between labels, in any script. -/
def isLabelDot (c : Char) : Bool :=
  c == '.' || c == '\u3002' || c == '\uFF0E' || c == '\uFF61'

/-- Change every label of a name.  A dot at the end stays. -/
def mapLabels (change : List Char → Except NameFlaw (List Char)) (name : List Char) :
    Except NameFlaw (List Char) := do
  if nameLimit < name.length then throw .longName
  let labels := name.splitOnP isLabelDot
  if labels == [[]] then throw .emptyName
  if labels.getLast? == some [] then do
    let changed ← labels.dropLast.mapM change
    pure (['.'].intercalate (changed ++ [[]]))
  else do
    let changed ← labels.mapM change
    pure (['.'].intercalate changed)

/-- A name in ASCII. -/
def encodeName (name : List Char) : Except NameFlaw (List Char) := do
  let written ← mapLabels encodeLabel name
  if (if written.getLast? == some '.' then nameLimit else nameLimit - 1) < written.length then
    throw .longName
  pure written

/-- The name that a written name stands for. -/
def decodeName (written : List Char) : Except NameFlaw (List Char) :=
  mapLabels decodeLabel written

end Soliscope.Url
