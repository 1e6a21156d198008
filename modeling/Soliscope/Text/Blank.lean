import Soliscope.Text.CodeRanges

/-! # Blank characters

Two classes of spacing are in use.  `isWhiteSpace` is the Unicode property White_Space;
`isBlank` adds the four information separators U+001C to U+001F and is what the source patterns
and the trimming of compiler output go by.
-/

namespace Soliscope.Text

/-- The code points with the Unicode property White_Space. -/
def whiteSpaceRanges : CodeRanges :=
  [(0x09, 0x0D), (0x20, 0x20), (0x85, 0x85), (0xA0, 0xA0), (0x1680, 0x1680), (0x2000, 0x200A),
    (0x2028, 0x2029), (0x202F, 0x202F), (0x205F, 0x205F), (0x3000, 0x3000)]

/-- The Unicode property White_Space. -/
def isWhiteSpace (c : Char) : Bool :=
  whiteSpaceRanges.has c.toNat

/-- White space, or one of the information separators. -/
def isBlank (c : Char) : Bool :=
  isWhiteSpace c || (0x1C ≤ c.toNat && c.toNat ≤ 0x1F)

/-- Drop the leading and trailing characters of a class. -/
def trimWhere (dropped : Char → Bool) (text : List Char) : List Char :=
  (((text.dropWhile dropped).reverse).dropWhile dropped).reverse

/-- Drop leading and trailing blanks. -/
def trimBlanks (text : String) : String :=
  String.ofList (trimWhere isBlank text.toList)

end Soliscope.Text
