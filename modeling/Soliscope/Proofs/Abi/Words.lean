import Soliscope.Abi.Interface
import Soliscope.Proofs.Number.Decimals
import Soliscope.Proofs.Url.Characters
import Soliscope.Text.Identifier
import Soliscope.Text.Lines

/-! # The words of a method line

The line of a method is divided by parentheses, commas and colons, and ends at a line boundary. The
names that requests may carry hold none of these characters, and neither do the names of types,
however odd the Solidity type is that they stand for. What a type name starts with tells it from the
words around the results of a method.
-/

namespace Soliscope.Abi

/-- A character that divides a method line, or ends it. -/
def isMark (c : Char) : Bool :=
  c == '(' || c == ')' || c == ',' || c == ':' || Text.isLineBoundary c

/-- A text that is kept in one piece when a line is divided. -/
def IsWord (text : List Char) : Prop := ∀ c ∈ text, isMark c = false

/-- A text of letters without marks is a word. -/
theorem isWord_of_all {text : List Char} (all : text.all (!isMark ·) = true) : IsWord text := by
  intro c member
  simpa using List.all_eq_true.mp all c member

theorem IsWord.append {first second : List Char} (one : IsWord first) (other : IsWord second) :
    IsWord (first ++ second) := by
  intro c member
  rcases List.mem_append.mp member with inFirst | inSecond
  · exact one c inFirst
  · exact other c inSecond

/-- A word holds no mark. -/
theorem IsWord.notMem {text : List Char} (word : IsWord text) {c : Char} (mark : isMark c = true) :
    c ∉ text := by
  intro member
  rw [word c member] at mark
  cases mark

/-- Beyond ASCII only three characters are marks, each of which ends a line. -/
theorem toNat_of_isMark {c : Char} (foreign : ¬ c.toNat < 128) (mark : isMark c = true) :
    c.toNat = 0x85 ∨ c.toNat = 0x2028 ∨ c.toNat = 0x2029 := by
  simp only [isMark, Text.isLineBoundary, Bool.or_eq_true, Bool.and_eq_true, beq_iff_eq,
    decide_eq_true_eq] at mark
  rcases mark with (((rfl | rfl) | rfl) | rfl) | boundary
  · exact (foreign (by decide)).elim
  · exact (foreign (by decide)).elim
  · exact (foreign (by decide)).elim
  · exact (foreign (by decide)).elim
  · omega

/-- The characters of identifiers are no marks. -/
theorem isMark_of_isIdentifierPart {c : Char} (part : Text.isIdentifierPart c = true) :
    isMark c = false := by
  by_cases ascii : c.toNat < 128
  · have found := Url.ascii_all (fun c => !Text.isIdentifierPart c || !isMark c)
      (by decide +kernel) ascii
    simpa [part] using found
  · rw [Text.isIdentifierPart, if_neg ascii] at part
    cases mark : isMark c with
    | false => rfl
    | true =>
        rcases toNat_of_isMark ascii mark with same | same | same
        all_goals
          rw [same] at part
          exact absurd part (by decide +kernel)

/-- What may begin an identifier may also stand in it. -/
theorem isIdentifierPart_of_isIdentifierStart {c : Char}
    (start : Text.isIdentifierStart c = true) : Text.isIdentifierPart c = true := by
  have ascii : c.toNat < 128 := by
    apply Url.toNat_lt_of_isUnreserved
    rcases Bool.or_eq_true_iff.mp start with letter | underscore
    · simp [Url.isUnreserved, Char.isAlphanum, letter]
    · simp [Url.isUnreserved, eq_of_beq underscore]
  have found := Url.ascii_all (fun c => !Text.isIdentifierStart c || Text.isIdentifierPart c)
    (by decide +kernel) ascii
  simpa [start] using found

/-- An identifier is a word. -/
theorem isWord_of_isIdentifier {name : List Char} (identifier : Text.isIdentifier name = true) :
    IsWord name := by
  cases name with
  | nil => cases identifier
  | cons first rest =>
      obtain ⟨start, parts⟩ := Bool.and_eq_true_iff.mp identifier
      intro c member
      apply isMark_of_isIdentifierPart
      rcases List.mem_cons.mp member with rfl | later
      · exact isIdentifierPart_of_isIdentifierStart start
      · exact List.all_eq_true.mp parts c later

/-- The name of a parameter without one. -/
def positionName (position : Nat) : String :=
  "arg" ++ toString position

/-- The name made from a position is a word. -/
theorem isWord_positionName (position : Nat) : IsWord (positionName position).toList := by
  rw [positionName, String.toList_append]
  apply IsWord.append
  · exact isWord_of_all rfl
  · intro c member
    apply isMark_of_isIdentifierPart
    have digit : c.isDigit = true := Number.isDigit_of_mem_toString member
    have ascii : c.toNat < 128 := by
      apply Url.toNat_lt_of_isUnreserved
      simp [Url.isUnreserved, Char.isAlphanum, digit]
    rw [Text.isIdentifierPart, if_pos ascii, Char.isAlphanum, digit, Bool.or_true, Bool.true_or]

section Types

variable (language : Language)

theorem scalarName_isWord (scalar : Scalar) : IsWord (language.scalarName scalar) := by
  cases language <;> cases scalar <;> exact isWord_of_all rfl

/-- The name of a type is a word, brackets and all. -/
theorem typeNameOfReverse_isWord (reversed : List Char) :
    IsWord (language.typeNameOfReverse reversed) := by
  induction reversed using Language.typeNameOfReverse.induct with
  | case1 rest ih =>
      rw [Language.typeNameOfReverse]
      cases language with
      | typescript =>
          apply IsWord.append ih
          exact isWord_of_all rfl
      | python =>
          apply IsWord.append
          · exact isWord_of_all rfl
          · apply IsWord.append ih
            exact isWord_of_all rfl
  | case2 reversed other =>
      rw [Language.typeNameOfReverse]
      · exact scalarName_isWord language _
      · exact other

theorem typeName_isWord (solidityType : String) :
    IsWord (language.typeName solidityType).toList := by
  rw [Language.typeName, String.toList_ofList]
  exact typeNameOfReverse_isWord language _

/-- What the names of types start with. -/
def typeFronts : List Char := "bsailA".toList

/-- The name of a type begins like that of a kind of values or of a list. -/
theorem typeNameOfReverse_front (reversed : List Char) :
    ∃ front rest, language.typeNameOfReverse reversed = front :: rest ∧ front ∈ typeFronts := by
  induction reversed using Language.typeNameOfReverse.induct with
  | case1 inner ih =>
      obtain ⟨front, rest, named, isFront⟩ := ih
      rw [Language.typeNameOfReverse, named]
      cases language with
      | typescript => exact ⟨front, rest ++ ['[', ']'], rfl, isFront⟩
      | python => exact ⟨'l', "ist[".toList ++ (front :: rest ++ [']']), rfl, by decide⟩
  | case2 reversed other =>
      rw [Language.typeNameOfReverse]
      · generalize Scalar.ofTypeName reversed.reverse = scalar
        cases language <;> cases scalar <;> exact ⟨_, _, rfl, by decide⟩
      · exact other

theorem typeName_front (solidityType : String) :
    ∃ front rest, (language.typeName solidityType).toList = front :: rest ∧
      front ∈ typeFronts := by
  rw [Language.typeName, String.toList_ofList]
  exact typeNameOfReverse_front language _

end Types

end Soliscope.Abi
