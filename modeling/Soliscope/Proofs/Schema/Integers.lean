import Mathlib.Data.List.TakeWhile
import Soliscope.Proofs.Schema.Acceptance

/-! # The integers that values stand for

Which integer a value stands for can be told from the value (`Json.StandsFor`): an integer is
itself, a truth value is one or zero, a double is the integer it equals, and a text is the number of
the digits that it has before a point. The lenient reader accepts no other integer than that
(`Json.standsFor_of_integer`). For a text the reader takes away blanks, a sign, zeros, underscores
and a fraction; the lemmas on `wholeDigits` say that none of them tells on the digits that count.
-/

namespace Soliscope

open Soliscope.Number Soliscope.Schema

/-- The digits of a text before a point. -/
def wholeDigits (text : List Char) : List Char :=
  (text.takeWhile (· != '.')).filter Char.isDigit

/-- The number `mantissa * 2 ^ exponent` is an integer, namely this one. -/
def Number.Dyadic.IsInteger (number : Number.Dyadic) (value : Int) : Prop :=
  value * twoPow (-number.exponent).toNat =
    withSign number.negative (number.mantissa * twoPow number.exponent.toNat)

/-- A value stands for an integer. -/
inductive Json.StandsFor : Json → Int → Prop
  | integer (value : Int) : StandsFor (.int value) value
  | truth (value : Bool) : StandsFor (.bool value) (if value then 1 else 0)
  | double {value : Float} {number : Number.Dyadic} {whole : Int}
      (finite : Double.ofFloat value = .finite number) (isWhole : number.IsInteger whole) :
      StandsFor (.float value) whole
  | text {written : String} (digits : wholeDigits written.toList ≠ []) :
      StandsFor (.str written) (withSign (written.toList.contains '-')
        (Nat.ofDigitChars 10 (wholeDigits written.toList) 0))

namespace Schema

/-! ## Digits that count -/

/-- In front of a point all digits count. -/
theorem wholeDigits_append {front : List Char} (pointless : '.' ∉ front) (rest : List Char) :
    wholeDigits (front ++ rest) = front.filter Char.isDigit ++ wholeDigits rest := by
  have all : ∀ c ∈ front, (c != '.') = true := by
    intro c member
    rw [bne_iff_ne]
    rintro rfl
    exact pointless member
  rw [wholeDigits, List.takeWhile_append_of_pos all, List.filter_append, wholeDigits]

/-- Without a point they all do. -/
theorem wholeDigits_of_pointless {text : List Char} (pointless : '.' ∉ text) :
    wholeDigits text = text.filter Char.isDigit := by
  calc
    wholeDigits text = wholeDigits (text ++ []) := by rw [List.append_nil]
    _ = text.filter Char.isDigit ++ [] := wholeDigits_append pointless []
    _ = text.filter Char.isDigit := List.append_nil _

/-- Zeros in front do not change a number. -/
theorem ofDigitChars_zeros (count : Nat) (digits : List Char) :
    Nat.ofDigitChars 10 (List.replicate count '0' ++ digits) 0 = Nat.ofDigitChars 10 digits 0 := by
  induction count with
  | zero => rfl
  | succ count ih =>
      rw [List.replicate_succ, List.cons_append, Nat.ofDigitChars_cons]
      exact ih

/-- Zeros and underscores leave zeros as digits. -/
theorem exists_filter_isDigit_eq_zeros {front : List Char}
    (zeros : ∀ c ∈ front, c = '0' ∨ c = '_') :
    ∃ count, front.filter Char.isDigit = List.replicate count '0' := by
  refine ⟨_, List.eq_replicate_of_mem fun c member => ?_⟩
  obtain ⟨inside, isDigit⟩ := List.mem_filter.mp member
  rcases zeros c inside with rfl | rfl
  · rfl
  · cases isDigit

/-- White space holds nothing that a number is made of. -/
theorem not_numeral_of_isWhiteSpace {c : Char} (spacing : Text.isWhiteSpace c = true) :
    c.isDigit = false ∧ c ≠ '.' ∧ c ≠ '-' := by
  refine ⟨Bool.eq_false_iff.mpr fun isDigit => ?_, ?_, ?_⟩
  · obtain ⟨range, member, least, most⟩ := Text.CodeRanges.has_iff.mp spacing
    simp only [Char.isDigit, Bool.and_eq_true, decide_eq_true_eq] at isDigit
    have low : 48 ≤ c.toNat := isDigit.1
    have high : c.toNat ≤ 57 := isDigit.2
    simp only [Text.whiteSpaceRanges, List.mem_cons, List.not_mem_nil, or_false] at member
    rcases member with rfl | rfl | rfl | rfl | rfl | rfl | rfl | rfl | rfl | rfl <;>
      (simp only at least most; omega)
  · rintro rfl
    exact absurd spacing (by decide)
  · rintro rfl
    exact absurd spacing (by decide)

theorem filter_isDigit_eq_nil {blanks : List Char}
    (spacing : ∀ c ∈ blanks, Text.isWhiteSpace c = true) : blanks.filter Char.isDigit = [] := by
  rw [List.filter_eq_nil_iff]
  intro c member isDigit
  rw [(not_numeral_of_isWhiteSpace (spacing c member)).1] at isDigit
  cases isDigit

/-- Blanks at the end, or a fraction before them, do not count. -/
theorem wholeDigits_of_tail {tail blanks : List Char}
    (fraction : tail = [] ∨ ∃ zeros, tail = '.' :: zeros)
    (spacing : ∀ c ∈ blanks, Text.isWhiteSpace c = true) : wholeDigits (tail ++ blanks) = [] := by
  rcases fraction with rfl | ⟨zeros, rfl⟩
  · have pointless : '.' ∉ blanks := fun member =>
      (not_numeral_of_isWhiteSpace (spacing _ member)).2.1 rfl
    rw [List.nil_append, wholeDigits_of_pointless pointless, filter_isDigit_eq_nil spacing]
  · rfl

/-! ## What the reader takes away -/

/-- Trimming drops characters of the class at both ends. -/
theorem exists_eq_trimWhere (dropped : Char → Bool) (text : List Char) :
    ∃ before after, text = before ++ (Text.trimWhere dropped text ++ after) ∧
      (∀ c ∈ before, dropped c = true) ∧ ∀ c ∈ after, dropped c = true := by
  refine ⟨text.takeWhile dropped,
    ((text.dropWhile dropped).reverse.takeWhile dropped).reverse, ?_, ?_, ?_⟩
  · rw [Text.trimWhere, ← List.reverse_append, List.takeWhile_append_dropWhile,
      List.reverse_reverse, List.takeWhile_append_dropWhile]
  · exact fun c member => List.mem_takeWhile_imp member
  · exact fun c member => List.mem_takeWhile_imp (List.mem_reverse.mp member)

/-- A text is its sign, if it has one, and what follows. -/
theorem exists_eq_signed (text : List Char) :
    ∃ sign, text = sign ++ (signed text).2 ∧ (signed text).1 = sign.contains '-' ∧
      (sign = [] ∨ sign = ['+'] ∨ sign = ['-']) := by
  unfold signed
  split
  · exact ⟨['-'], rfl, rfl, by simp⟩
  · exact ⟨['+'], rfl, rfl, by simp⟩
  · exact ⟨[], rfl, rfl, by simp⟩

/-- Leading zeros are zeros and underscores. -/
theorem exists_eq_afterZeros {last : Char} {rest digits : List Char}
    (isLast : last = '0' ∨ last = '_') (found : afterZeros last rest = some digits) :
    ∃ lead, last :: rest = lead ++ digits ∧ ∀ c ∈ lead, c = '0' ∨ c = '_' := by
  induction rest generalizing last with
  | nil =>
      cases found
      exact ⟨[], rfl, by simp⟩
  | cons c rest ih =>
      rw [afterZeros] at found
      split at found
      next again =>
        have isZero : c = '0' ∨ c = '_' := by simpa using again
        obtain ⟨lead, same, zeros⟩ := ih isZero found
        exact ⟨last :: lead, by rw [same, List.cons_append], by simpa [isLast] using zeros⟩
      next =>
        split at found
        · cases found
          exact ⟨[], rfl, by simp⟩
        · split at found
          · cases found
            exact ⟨[last], rfl, by simpa using isLast⟩
          · cases found

/-- Zeros in front are dropped, with the underscores between them. -/
theorem exists_eq_withoutLeadingZeros {text digits : List Char}
    (found : withoutLeadingZeros? text = some digits) :
    ∃ lead, text = lead ++ digits ∧ ∀ c ∈ lead, c = '0' ∨ c = '_' := by
  unfold withoutLeadingZeros? at found
  split at found
  · exact exists_eq_afterZeros (Or.inl rfl) found
  · split at found
    · cases found
      exact ⟨[], rfl, by simp⟩
    · cases found
  · cases found

/-- A fraction is dropped if it is made of zeros. -/
theorem exists_eq_withoutZeroFraction (text : List Char) :
    ∃ tail, text = withoutZeroFraction text ++ tail ∧
      (tail = [] ∨ ∃ zeros, tail = '.' :: zeros ∧ ∀ c ∈ zeros, c = '0') := by
  unfold withoutZeroFraction
  split
  next zeros isTail =>
    split
    next fraction =>
      refine ⟨'.' :: zeros, ?_, Or.inr ⟨zeros, rfl, ?_⟩⟩
      · rw [← isTail, List.takeWhile_append_dropWhile]
      · rw [Bool.and_eq_true, List.all_eq_true] at fraction
        exact fun c member => beq_iff_eq.mp (fraction.2 c member)
    next => exact ⟨[], (List.append_nil _).symm, Or.inl rfl⟩
  next => exact ⟨[], (List.append_nil _).symm, Or.inl rfl⟩

/-- What is left between marks is the text without them. -/
theorem flatten_splitOn (mark : Char) (text : List Char) :
    (text.splitOn mark).flatten = text.filter (· != mark) := by
  induction text with
  | nil => rfl
  | cons c rest ih =>
      rw [List.splitOn_cons_eq_if_modifyHead]
      by_cases same : c = mark
      · subst same
        simpa using ih
      · have kept : (c != mark) = true := bne_iff_ne.mpr same
        rw [if_neg (by simpa using same), List.filter_cons, if_pos kept, ← ih]
        cases groups : rest.splitOn mark with
        | nil => exact (List.splitOn_ne_nil mark rest groups).elim
        | cons first more => rfl

/-- What is left without the underscores. -/
theorem eq_of_withoutUnderscores {text plain : List Char}
    (found : withoutUnderscores? text = some plain) : plain = text.filter (· != '_') := by
  simp only [withoutUnderscores?, Option.ite_none_right_eq_some, Option.some.injEq] at found
  rw [← found.2, flatten_splitOn]

/-! ## Texts -/

/-- Digits after a minus sign or none. -/
def plainText (negative : Bool) (digits : List Char) : List Char :=
  if negative then '-' :: digits else digits

/-- What follows the sign is digits only. -/
theorem digits_of_unsigned {negative : Bool} {unsigned : List Char} {value : Int}
    (read : PlainInteger.ofUnsigned negative unsigned = .value value) :
    (∀ c ∈ unsigned, c.isDigit = true) ∧ unsigned ≠ [] ∧
      value = withSign negative (Nat.ofDigitChars 10 unsigned 0) := by
  unfold PlainInteger.ofUnsigned at read
  dsimp only at read
  split at read
  · cases read
  next some =>
    split at read
    · split at read
      next zero =>
        cases read
        obtain rfl := beq_iff_eq.mp zero
        exact ⟨by simp, by simp, by cases negative <;> rfl⟩
      next => cases read
    · split at read
      · cases read
      · split at read
        next whole =>
          cases read
          have same : unsigned.takeWhile Char.isDigit = unsigned :=
            (List.takeWhile_prefix _).eq_of_length (beq_iff_eq.mp whole)
          rw [same] at some ⊢
          refine ⟨fun c member => List.mem_takeWhile_imp (same ▸ member), ?_, rfl⟩
          simpa using some
        next => cases read

/-- A text in plain form is digits after a minus sign or none. -/
theorem eq_of_plainInteger {text : List Char} {value : Int}
    (read : PlainInteger.ofText text = .value value) :
    ∃ negative digits, text = plainText negative digits ∧ (∀ c ∈ digits, c.isDigit = true) ∧
      digits ≠ [] ∧ value = withSign negative (Nat.ofDigitChars 10 digits 0) := by
  unfold PlainInteger.ofText at read
  split at read
  · exact ⟨true, _, rfl, digits_of_unsigned read⟩
  · exact ⟨false, _, rfl, digits_of_unsigned read⟩

/-- A plain text holds its digits, and a sign if it is negative. -/
theorem mem_plainText_iff {negative : Bool} {rest : List Char} {c : Char} :
    c ∈ plainText negative rest ↔ (negative = true ∧ c = '-') ∨ c ∈ rest := by
  cases negative with
  | false => simp [plainText]
  | true => simp [plainText]

theorem filter_isDigit_plainText {negative : Bool} {rest : List Char} :
    (plainText negative rest).filter Char.isDigit = rest.filter Char.isDigit := by
  cases negative with
  | false => rfl
  | true => rfl

theorem wholeDigits_plainText {negative : Bool} {digits : List Char}
    (all : ∀ c ∈ digits, c.isDigit = true) : wholeDigits (plainText negative digits) = digits := by
  have pointless : '.' ∉ plainText negative digits := by
    rw [mem_plainText_iff]
    rintro (⟨-, same⟩ | member)
    · cases same
    · exact absurd (all _ member) (by decide)
  rw [wholeDigits_of_pointless pointless, filter_isDigit_plainText, List.filter_eq_self.mpr all]

theorem minus_mem_plainText_iff {negative : Bool} {digits : List Char}
    (all : ∀ c ∈ digits, c.isDigit = true) :
    '-' ∈ plainText negative digits ↔ negative = true := by
  rw [mem_plainText_iff]
  constructor
  · rintro (⟨isNegative, -⟩ | member)
    · exact isNegative
    · exact absurd (all _ member) (by decide)
  · exact fun isNegative => Or.inl ⟨isNegative, rfl⟩

/-- A text that is written more freely, cut into what the plain form keeps, the sign and the whole
digits, and what it drops. -/
structure FreeForm (text plain : List Char) where
  (before sign lead whole tail after : List Char)
  isText : text = before ++ (sign ++ (lead ++ (whole ++ (tail ++ after))))
  leading : ∀ c ∈ before, Text.isWhiteSpace c = true
  isSign : sign = [] ∨ sign = ['+'] ∨ sign = ['-']
  zeros : ∀ c ∈ lead, c = '0' ∨ c = '_'
  fraction : tail = [] ∨ ∃ zeros, tail = '.' :: zeros ∧ ∀ c ∈ zeros, c = '0'
  trailing : ∀ c ∈ after, Text.isWhiteSpace c = true
  isPlain : plain = plainText (sign.contains '-') (whole.filter (· != '_'))

/-- Every text with a plain form can be cut that way. -/
theorem exists_freeForm {text plain : List Char} (found : plainForm? text = some plain) :
    Nonempty (FreeForm text plain) := by
  obtain ⟨before, after, isText, leading, trailing⟩ := exists_eq_trimWhere Text.isWhiteSpace text
  obtain ⟨sign, isTrimmed, isNegative, isSign⟩ :=
    exists_eq_signed (Text.trimWhere Text.isWhiteSpace text)
  unfold plainForm? at found
  dsimp only at found
  obtain ⟨numeral, zerosDropped, found⟩ := Option.bind_eq_some_iff.mp found
  obtain ⟨bare, underscoresDropped, isPlain⟩ := Option.map_eq_some_iff.mp found
  obtain ⟨lead, isUnsigned, zeros⟩ := exists_eq_withoutLeadingZeros zerosDropped
  obtain ⟨tail, isNumeral, fraction⟩ := exists_eq_withoutZeroFraction numeral
  refine ⟨{
    before := before, sign := sign, lead := lead, whole := withoutZeroFraction numeral,
    tail := tail, after := after, isText := ?_, leading := leading, isSign := isSign,
    zeros := zeros, fraction := fraction, trailing := trailing, isPlain := ?_ }⟩
  · rw [isText, isTrimmed, isUnsigned]
    nth_rewrite 1 [isNumeral]
    simp only [List.append_assoc]
  · rw [← isPlain, eq_of_withoutUnderscores underscoresDropped, isNegative]
    rfl

namespace FreeForm

variable {text digits : List Char} {negative : Bool}
  (form : FreeForm text (plainText negative digits)) (all : ∀ c ∈ digits, c.isDigit = true)

include form all

/-- Nothing but the sign and underscores stands beside the digits that are kept. -/
theorem mem_whole {c : Char} (member : c ∈ form.whole) : c = '_' ∨ c = '-' ∨ c.isDigit = true := by
  by_cases underscore : c = '_'
  · exact Or.inl underscore
  · have kept : c ∈ form.whole.filter (· != '_') :=
      List.mem_filter.mpr ⟨member, bne_iff_ne.mpr underscore⟩
    have inside : c ∈ plainText negative digits :=
      form.isPlain ▸ mem_plainText_iff.mpr (Or.inr kept)
    rcases mem_plainText_iff.mp inside with ⟨-, isMinus⟩ | isDigit
    · exact Or.inr (Or.inl isMinus)
    · exact Or.inr (Or.inr (all c isDigit))

/-- The digits of a form are those of its whole part. -/
theorem filter_isDigit_whole : form.whole.filter Char.isDigit = digits := by
  have kept : (form.whole.filter (· != '_')).filter Char.isDigit = digits := by
    rw [← filter_isDigit_plainText, ← form.isPlain, filter_isDigit_plainText,
      List.filter_eq_self.mpr all]
  refine Eq.trans ?_ kept
  rw [List.filter_filter]
  refine List.filter_congr fun c _ => ?_
  by_cases underscore : c = '_'
  · rw [underscore]
    rfl
  · rw [bne_iff_ne.mpr underscore, Bool.and_true]

/-- The digits that count are those of the plain form, up to zeros in front. -/
theorem wholeDigits_eq : ∃ count, wholeDigits text = List.replicate count '0' ++ digits := by
  obtain ⟨count, zerosOfLead⟩ := exists_filter_isDigit_eq_zeros form.zeros
  refine ⟨count, ?_⟩
  have before : '.' ∉ form.before := fun member =>
    (not_numeral_of_isWhiteSpace (form.leading _ member)).2.1 rfl
  have sign : '.' ∉ form.sign ∧ form.sign.filter Char.isDigit = [] := by
    rcases form.isSign with isSign | isSign | isSign <;> rw [isSign] <;> decide
  have lead : '.' ∉ form.lead := fun member => absurd (form.zeros _ member) (by decide)
  have whole : '.' ∉ form.whole := fun member => absurd (form.mem_whole all member) (by decide)
  have tail : form.tail = [] ∨ ∃ zeros, form.tail = '.' :: zeros :=
    form.fraction.imp_right fun ⟨zeros, isTail, _⟩ => ⟨zeros, isTail⟩
  rw [form.isText, wholeDigits_append before, wholeDigits_append sign.1, wholeDigits_append lead,
    wholeDigits_append whole, wholeDigits_of_tail tail form.trailing,
    filter_isDigit_eq_nil form.leading, sign.2, zerosOfLead, form.filter_isDigit_whole all]
  simp only [List.nil_append, List.append_nil]

/-- There is a minus sign exactly if the plain form has one. -/
theorem minus_mem_iff : '-' ∈ text ↔ negative = true := by
  have before : '-' ∉ form.before := fun member =>
    (not_numeral_of_isWhiteSpace (form.leading _ member)).2.2 rfl
  have lead : '-' ∉ form.lead := fun member => absurd (form.zeros _ member) (by decide)
  have tail : '-' ∉ form.tail := by
    rcases form.fraction with isTail | ⟨zeros, isTail, all⟩
    · simp [isTail]
    · rw [isTail]
      exact fun member => absurd (all _ ((List.mem_cons.mp member).resolve_left (by decide)))
        (by decide)
  have after : '-' ∉ form.after := fun member =>
    (not_numeral_of_isWhiteSpace (form.trailing _ member)).2.2 rfl
  calc
    '-' ∈ text ↔ '-' ∈ form.before ++ (form.sign ++ (form.lead ++ (form.whole ++
        (form.tail ++ form.after)))) := by rw [← form.isText]
    _ ↔ '-' ∈ form.sign ∨ '-' ∈ form.whole := by
      simp only [List.mem_append, before, lead, tail, after, false_or, or_false]
    _ ↔ '-' ∈ plainText (form.sign.contains '-') (form.whole.filter (· != '_')) := by
      rw [mem_plainText_iff, List.mem_filter, List.contains_iff_mem]
      simp
    _ ↔ '-' ∈ plainText negative digits := by rw [← form.isPlain]
    _ ↔ negative = true := minus_mem_plainText_iff all

end FreeForm

/-- A text that the reader accepts stands for the integer that is accepted. -/
theorem standsFor_of_integerOfText {text : String} {value : Int}
    (accepted : integerOfText text = .accepted value) : (Json.str text).StandsFor value := by
  have stands {negative : Bool} {digits : List Char} (given : digits ≠ [])
      (counts : ∃ count, wholeDigits text.toList = List.replicate count '0' ++ digits)
      (minus : '-' ∈ text.toList ↔ negative = true) :
      (Json.str text).StandsFor (withSign negative (Nat.ofDigitChars 10 digits 0)) := by
    obtain ⟨count, isWhole⟩ := counts
    have some : wholeDigits text.toList ≠ [] := by
      rw [isWhole]
      simp [given]
    have sameSign : text.toList.contains '-' = negative := by
      rw [Bool.eq_iff_iff, List.contains_iff_mem, minus]
    have number := Json.StandsFor.text some
    rwa [sameSign, isWhole, ofDigitChars_zeros] at number
  unfold integerOfText at accepted
  cases read : PlainInteger.ofText text.toList with
  | value whole =>
      rw [read] at accepted
      cases accepted
      obtain ⟨negative, digits, isText, all, given, rfl⟩ := eq_of_plainInteger read
      refine stands given ⟨0, ?_⟩ ?_
      · rw [isText, wholeDigits_plainText all, List.replicate_zero, List.nil_append]
      · rw [isText, minus_mem_plainText_iff all]
  | tooLong =>
      rw [read] at accepted
      cases accepted
  | other =>
      rw [read] at accepted
      cases found : plainForm? text.toList with
      | none =>
          rw [found] at accepted
          cases accepted
      | some plain =>
          rw [found, Option.map_some] at accepted
          cases readPlain : PlainInteger.ofText plain with
          | value whole =>
              rw [readPlain] at accepted
              cases accepted
              obtain ⟨negative, digits, rfl, all, given, rfl⟩ := eq_of_plainInteger readPlain
              obtain ⟨form⟩ := exists_freeForm found
              exact stands given (form.wholeDigits_eq all) (form.minus_mem_iff all)
          | tooLong =>
              rw [readPlain] at accepted
              cases accepted
          | other =>
              rw [readPlain] at accepted
              cases accepted

/-! ## Doubles -/

theorem withSign_mul (negative : Bool) (magnitude factor : Nat) :
    withSign negative magnitude * factor = withSign negative (magnitude * factor) := by
  cases negative with
  | false => exact (Int.natCast_mul magnitude factor).symm
  | true =>
      calc -(magnitude : Int) * factor = -(magnitude * factor : Int) := Int.neg_mul _ _
        _ = -((magnitude * factor : Nat) : Int) := by rw [Int.natCast_mul]

theorem scaleDown_one (mantissa : Nat) (exponent : Int) :
    scaleDown mantissa 1 (-exponent) =
      (mantissa * twoPow exponent.toNat, twoPow (-exponent).toNat) := by
  unfold scaleDown
  by_cases small : 0 ≤ -exponent
  · have whole : exponent.toNat = 0 := by omega
    rw [if_pos small, whole, Nat.one_mul]
    exact congrArg (·, _) (Nat.mul_one mantissa).symm
  · have whole : (-exponent).toNat = 0 := by omega
    rw [if_neg small, whole, Int.neg_neg]
    rfl

/-- A double that is found to be an integer equals it. -/
theorem isInteger_of_integer? {value : Float} {whole : Int} (found : integer? value = some whole) :
    ∃ number, Double.ofFloat value = .finite number ∧ number.IsInteger whole := by
  unfold integer? at found
  split at found
  next negative mantissa exponent finite =>
    refine ⟨_, finite, ?_⟩
    simp only [scaleDown_one, beq_iff_eq, Option.ite_none_right_eq_some, Option.some.injEq] at found
    obtain ⟨exact, rfl⟩ := found
    have divided : mantissa * twoPow exponent.toNat / twoPow (-exponent).toNat *
        twoPow (-exponent).toNat = mantissa * twoPow exponent.toNat :=
      Nat.div_mul_cancel (Nat.dvd_of_mod_eq_zero exact)
    have scaled := withSign_mul negative
      (mantissa * twoPow exponent.toNat / twoPow (-exponent).toNat) (twoPow (-exponent).toNat)
    rw [divided] at scaled
    exact scaled
  next => cases found

/-- A double is accepted as an integer only if it is this integer. -/
theorem standsFor_of_integerOfFloat {value : Float} {whole : Int}
    (accepted : integerOfFloat value = .accepted whole) : (Json.float value).StandsFor whole := by
  unfold integerOfFloat at accepted
  split at accepted
  next =>
    split at accepted
    next found =>
      split at accepted
      · cases accepted
        obtain ⟨number, finite, isWhole⟩ := isInteger_of_integer? found
        exact .double finite isWhole
      · cases accepted
    next => cases accepted
  next => cases accepted

end Schema

/-- **The reader accepts only the integer that a value stands for.** -/
theorem Json.standsFor_of_integer {value : Json} {whole : Int}
    (accepted : integer value = .accepted whole) : value.StandsFor whole := by
  cases value with
  | int written =>
      cases accepted
      exact .integer whole
  | bool written =>
      cases accepted
      exact .truth written
  | float written => exact standsFor_of_integerOfFloat accepted
  | str written => exact standsFor_of_integerOfText accepted
  | null => cases accepted
  | arr items => cases accepted
  | obj fields => cases accepted

/-- A text with blanks, a sign, zeros, an underscore and a fraction stands for its whole part. -/
example : (Json.str " -00_7.0 ").StandsFor (-7) :=
  Json.standsFor_of_integer rfl

end Soliscope
