import Soliscope.Number.Written

/-! # The text of a double

A double shown as a value always has a point, an exponent or letters, so that its text cannot be
taken for that of an integer (`valueText_ne_toString`). Besides digits, it has no other characters
than signs, a point and a few letters (`isDoubleWriting_valueText`).
-/

namespace Soliscope.Number

/-- A character that no integer is written with. -/
def isForeignToIntegers (c : Char) : Prop :=
  c ≠ '-' ∧ c.isDigit = false

theorem point_foreign : isForeignToIntegers '.' := ⟨by decide, by decide⟩

theorem exponentMark_foreign : isForeignToIntegers 'e' := ⟨by decide, by decide⟩

/-- Positional text that keeps its fraction has a point. -/
theorem point_mem_positional (number : Digits) : '.' ∈ number.positional true := by
  unfold Digits.positional
  by_cases small : number.point ≤ 0
  · simp [small]
  · by_cases short : number.digits.length ≤ number.point.toNat
    · simp [small, short]
    · simp [small, short]

/-- A double in scientific notation has the mark of an exponent. -/
theorem exponentMark_mem_exponential (number : Digits) : 'e' ∈ number.exponential := by
  simp [Digits.exponential, exponentPart]

/-- Digits written as a value have a point or an exponent. -/
theorem exists_foreign_mem_written (number : Digits) :
    ∃ c ∈ number.written .value, isForeignToIntegers c := by
  unfold Digits.written
  split
  · exact ⟨'.', point_mem_positional number, point_foreign⟩
  · exact ⟨'e', exponentMark_mem_exponential number, exponentMark_foreign⟩

/-- Every double in writing holds a character that no integer does. -/
theorem exists_foreign_mem_valueText (x : Float) :
    ∃ c ∈ (valueText x).toList, isForeignToIntegers c := by
  unfold valueText writeDouble
  cases Double.ofFloat x with
  | undefined => exact ⟨'n', by decide, by decide, by decide⟩
  | infinite negative =>
      cases negative
      · exact ⟨'i', by decide, by decide, by decide⟩
      · exact ⟨'i', by decide, by decide, by decide⟩
  | finite value =>
      obtain ⟨c, member, foreign⟩ :=
        exists_foreign_mem_written (shortest value.mantissa value.exponent)
      refine ⟨c, ?_, foreign⟩
      cases negative : value.negative
      · simpa [negative] using member
      · simpa [negative] using Or.inr member

/-- Integers are written with digits and a sign only. -/
theorem not_foreign_of_mem_toString {value : Int} {c : Char}
    (member : c ∈ (toString value).toList) : ¬ isForeignToIntegers c := by
  rintro ⟨noSign, noDigit⟩
  have digit {number : Nat} (among : c ∈ Nat.toDigits 10 number) : False := by
    rw [Nat.isDigit_of_mem_toDigits (by decide) (by decide) among] at noDigit
    cases noDigit
  rw [Int.toString_eq_repr, Int.repr_eq_if] at member
  split at member
  · rw [Nat.toList_repr] at member
    exact digit member
  · rw [String.toList_append, Nat.toList_repr] at member
    rcases List.mem_append.mp member with sign | among
    · exact noSign (List.mem_singleton.mp sign)
    · exact digit among

/-- **No double has the text of an integer.** -/
theorem valueText_ne_toString (x : Float) (value : Int) : valueText x ≠ toString value := by
  intro same
  obtain ⟨c, member, foreign⟩ := exists_foreign_mem_valueText x
  rw [same] at member
  exact not_foreign_of_mem_toString member foreign

/-- A text is in digits and the other characters that doubles are written with. -/
def IsDoubleWriting (text : List Char) : Prop :=
  ∀ c ∈ text, c.isDigit = true ∨ c ∈ "+-.einfa".toList

theorem isDoubleWriting_of_all {text : List Char}
    (all : text.all (fun c => c.isDigit || "+-.einfa".toList.contains c) = true) :
    IsDoubleWriting text := by
  intro c member
  simpa using List.all_eq_true.mp all c member

theorem IsDoubleWriting.append {front back : List Char} (one : IsDoubleWriting front)
    (other : IsDoubleWriting back) : IsDoubleWriting (front ++ back) :=
  List.forall_mem_append.mpr ⟨one, other⟩

theorem IsDoubleWriting.sublist {part text : List Char} (whole : IsDoubleWriting text)
    (within : part.Sublist text) : IsDoubleWriting part :=
  fun c member => whole c (within.mem member)

theorem isDoubleWriting_replicate (size : Nat) : IsDoubleWriting (List.replicate size '0') := by
  intro c member
  rw [List.eq_of_mem_replicate member]
  exact Or.inl rfl

theorem isDoubleWriting_toDigits (value : Nat) : IsDoubleWriting (Nat.toDigits 10 value) :=
  fun _ member => Or.inl (Nat.isDigit_of_mem_toDigits (by decide) (by decide) member)

/-- The digits of a double are digits. -/
theorem isDoubleWriting_ofNat (value : Nat) (place : Int) :
    IsDoubleWriting (Digits.ofNat value place).digits := by
  unfold Digits.ofNat
  split
  · exact isDoubleWriting_replicate 1
  · apply (isDoubleWriting_toDigits value).sublist
    rw [← List.reverse_sublist, List.reverse_reverse]
    exact List.dropWhile_sublist _

/-- The digits of a double are those of some integer, with zeros at the end left out. -/
theorem exists_shortest_eq (mantissa : Nat) (exponent : Int) :
    ∃ value place, shortest mantissa exponent = Digits.ofNat value place := by
  unfold shortest
  split
  · exact ⟨0, 0, rfl⟩
  · dsimp only
    generalize tries : List.findSome? _ (List.range 17) = found
    cases found with
    | none => exact ⟨mantissa, exponent, rfl⟩
    | some digits =>
        obtain ⟨index, -, tried⟩ := List.exists_of_findSome?_eq_some tries
        split at tried
        · exact ⟨_, _, (Option.some.inj tried).symm⟩
        · exact ⟨_, _, (Option.some.inj tried).symm⟩
        · exact ⟨_, _, (Option.some.inj tried).symm⟩
        · cases tried

theorem isDoubleWriting_point : IsDoubleWriting ['.'] :=
  isDoubleWriting_of_all (by decide)

section Written

variable {number : Digits}

/-- A double in positional notation adds a point. -/
theorem isDoubleWriting_positional (digits : IsDoubleWriting number.digits) :
    IsDoubleWriting (number.positional true) := by
  have zeros := isDoubleWriting_replicate
  unfold Digits.positional
  dsimp only
  split
  · exact (((zeros 1).append isDoubleWriting_point).append (zeros _)).append digits
  · split
    · exact (digits.append (zeros _)).append (isDoubleWriting_point.append (zeros 1))
    · exact ((digits.sublist (List.take_sublist _ _)).append isDoubleWriting_point).append
        (digits.sublist (List.drop_sublist _ _))

/-- An exponent has a mark, a sign and digits. -/
theorem isDoubleWriting_exponentPart (exponent : Int) : IsDoubleWriting (exponentPart exponent) := by
  have sign : IsDoubleWriting ['e', if exponent < 0 then '-' else '+'] := by
    split
    · exact isDoubleWriting_of_all (by decide)
    · exact isDoubleWriting_of_all (by decide)
  exact (sign.append (isDoubleWriting_replicate _)).append (isDoubleWriting_toDigits _)

/-- A double in scientific notation adds an exponent. -/
theorem isDoubleWriting_exponential (digits : IsDoubleWriting number.digits) :
    IsDoubleWriting number.exponential := by
  have fraction : IsDoubleWriting
      (if number.digits.length ≤ 1 then [] else '.' :: number.digits.drop 1) := by
    split
    · exact fun _ member => (by cases member)
    · exact isDoubleWriting_point.append (digits.sublist (List.drop_sublist _ _))
  exact ((digits.sublist (List.take_sublist _ _)).append fraction).append
    (isDoubleWriting_exponentPart _)

/-- **The characters that doubles are written with.** -/
theorem isDoubleWriting_valueText (x : Float) : IsDoubleWriting (valueText x).toList := by
  unfold valueText writeDouble
  cases Double.ofFloat x with
  | undefined => exact isDoubleWriting_of_all (by decide)
  | infinite negative =>
      cases negative with
      | false => exact isDoubleWriting_of_all (by decide)
      | true => exact isDoubleWriting_of_all (by decide)
  | finite value =>
      have body : IsDoubleWriting
          ((shortest value.mantissa value.exponent).written .value) := by
        obtain ⟨whole, place, chosen⟩ := exists_shortest_eq value.mantissa value.exponent
        have digits := isDoubleWriting_ofNat whole place
        rw [chosen, Digits.written]
        split
        · exact isDoubleWriting_positional digits
        · exact isDoubleWriting_exponential digits
      have sign : IsDoubleWriting ['-'] := isDoubleWriting_of_all (by decide)
      dsimp only
      rw [String.toList_ofList]
      split
      · exact sign.append body
      · exact body

end Written

/-- Only the number one has the text `1`. -/
theorem toString_eq_one_iff {value : Int} : toString value = "1" ↔ value = 1 := by
  constructor
  · intro same
    rw [Int.toString_eq_repr, Int.repr_eq_if] at same
    have written := congrArg String.toList same
    split at written
    case isTrue nonnegative =>
      rw [Nat.toList_repr] at written
      have read := congrArg (fun digits => Nat.ofDigitChars 10 digits 0) written
      simp only [Nat.ofDigitChars_toDigits (b := 10) (by decide) (by decide)] at read
      have : value.toNat = 1 := read.trans (by decide)
      omega
    case isFalse negative =>
      rw [String.toList_append] at written
      cases written
  · rintro rfl
    decide

end Soliscope.Number
