/-! # Punycode

Text in ASCII: the ASCII characters as they are, and the others by numbers.  The others are put in
one after the other, in the order of their code points.  From one to the next, a number tells how
many places are passed over, where all places for a code point come before those for the next code
point.  Numbers are in base 36 with digits whose weights follow the size of the numbers before.
-/

namespace Soliscope.Url.Punycode

/-- A digit: a letter, or from 26 a decimal digit. -/
def digitChar (digit : Nat) : Char :=
  if digit < 26 then Char.ofNat ('a'.toNat + digit) else Char.ofNat ('0'.toNat + (digit - 26))

/-- The value of a digit, in either case. -/
def digitValue? (c : Char) : Option Nat :=
  if 'a' ≤ c && c ≤ 'z' then some (c.toNat - 'a'.toNat)
  else if 'A' ≤ c && c ≤ 'Z' then some (c.toNat - 'A'.toNat)
  else if c.isDigit then some (c.toNat - '0'.toNat + 26)
  else none

/-- The least value that a digit may have with a further one after it.  `place` counts by 36 from
36. -/
def threshold (bias place : Nat) : Nat :=
  max 1 (min 26 (place - bias))

/-- The bias for the next number: the number is scaled down to the size that the next one should
have, and then to the count of its digits. -/
def scaled (bias number : Nat) : Nat :=
  if 455 < number then scaled (bias + 36) (number / 35) else bias + 36 * number / (number + 38)
  termination_by number

/-- The bias after a number, when so many characters are in the text. -/
def adapt (first : Bool) (number count : Nat) : Nat :=
  let halved := if first then number / 700 else number / 2
  scaled 0 (halved + halved / count)

/-- The digits of a number, in at most `steps` steps. -/
def writeNumber (bias : Nat) : Nat → Nat → Nat → List Char
  | 0, _, _ => []
  | steps + 1, place, number =>
    let least := threshold bias place
    if number < least then [digitChar number]
    else
      digitChar (least + (number - least) % (36 - least)) ::
        writeNumber bias steps (place + 36) ((number - least) / (36 - least))

/-- What is written so far: the number of places passed over since the last character, the bias, and
how many characters are in the text. -/
structure Writing where
  written : List Char
  passed : Nat
  bias : Nat
  count : Nat

/-- Pass a character of the text while the places for a code point are gone through. -/
def Writing.pass (basicCount point : Nat) (writing : Writing) (c : Char) : Writing :=
  if c.toNat < point then { writing with passed := writing.passed + 1 }
  else if c.toNat == point then
    { written := writing.written ++ writeNumber writing.bias (writing.passed + 1) 36 writing.passed
      passed := 0
      bias := adapt (writing.count == basicCount) writing.passed (writing.count + 1)
      count := writing.count + 1 }
  else writing

/-- Write the characters with the given code points, the first of which may be `next`. -/
def writePoints (text : List Char) (basicCount : Nat) (next : Nat) (writing : Writing) :
    List Nat → List Char
  | [] => writing.written
  | point :: points =>
    let skipped := { writing with
      passed := writing.passed + (point - next) * (writing.count + 1) }
    let passed := text.foldl (Writing.pass basicCount point) skipped
    writePoints text basicCount (point + 1) { passed with passed := passed.passed + 1 } points

/-- A text in ASCII. -/
def encode (text : List Char) : List Char :=
  let basic := text.filter (·.toNat < 128)
  let points := ((text.map Char.toNat).filter (128 ≤ ·)).mergeSort.eraseDups
  let written := writePoints text basic.length 128 ⟨[], 0, 72, basic.length⟩ points
  if basic.isEmpty then written else basic ++ '-' :: written

/-- Read a number, and what follows it. -/
def readNumber? (bias place weight value : Nat) : List Char → Option (Nat × List Char)
  | [] => none
  | c :: rest =>
    match digitValue? c with
    | none => none
    | some digit =>
      let least := threshold bias place
      let value := value + digit * weight
      if digit < least then some (value, rest)
      else readNumber? bias (place + 36) (weight * (36 - least)) value rest

/-- The greatest code point. -/
def lastPoint : Nat := 0x10FFFF

/-- Put code points into a text, in at most `steps` steps: `point` is the code point and `place` the
place to go on from. -/
def putPoints? (first : Bool) (bias point place : Nat) (text : List Nat) :
    Nat → List Char → Option (List Nat)
  | _, [] => some text
  | 0, _ => none
  | steps + 1, written => do
    let (number, rest) ← readNumber? bias 36 1 0 written
    let places := text.length + 1
    let point := point + (place + number) / places
    let place := (place + number) % places
    if lastPoint < point then none
    else
      putPoints? false (adapt first number places) point (place + 1)
        (text.take place ++ point :: text.drop place) steps rest

/-- The code points of the text that is written in ASCII, among which may be some that are no
characters.  The characters before the last hyphen stand for themselves. -/
def decode? (written : List Char) : Option (List Nat) :=
  let (after, before) := written.reverse.span (· != '-')
  putPoints? true 72 128 0 ((before.drop 1).reverse.map Char.toNat) written.length after.reverse

end Soliscope.Url.Punycode
