import Soliscope.Json.Reader
import Soliscope.Json.Writer

/-!
# Strings written and read back

What stands between the quotes of a written string reads back as the string, and the reader stops
at the closing quote (`readChars_written`). The reader looks at one character of the document at a
time; what it takes at the front of a written character is this character with all that it is
written with (`Spelling.stringStep`).

An escape is read only if more text follows it. In a document the closing quote does.

No written character is half a surrogate pair, and the escape of a half is found behind whatever is
written (`Spelling.escapesHalf`, `escapesHalf_escapeUnit`).
-/

namespace Soliscope.Json

open Soliscope.Text

/-- One digit more stands at the end. -/
theorem hexDigits_succ {width : Nat} (some : 0 < width) (value : Nat) :
    hexDigits (width + 1) value = hexDigits width (value / 16) ++ [(value % 16).digitChar] := by
  by_cases small : value < 16
  · have high : value / 16 = 0 := Nat.div_eq_of_lt small
    have low : value % 16 = value := Nat.mod_eq_of_lt small
    obtain ⟨width, rfl⟩ : ∃ fewer, width = fewer + 1 := ⟨width - 1, by omega⟩
    rw [high, low]
    simp [hexDigits, Nat.toDigits_of_lt_base small, List.replicate_succ']
  · have digits := Nat.toDigits_of_base_le (show 1 < 16 by decide) (Nat.le_of_not_lt small)
    simp [hexDigits, digits, Nat.add_sub_add_right]

/-- A code unit is written with its four digits. -/
theorem escapeUnit_eq {unit : Nat} (bound : unit < 0x10000) :
    escapeUnit unit = ['\\', 'u', (unit / 4096).digitChar, (unit / 256 % 16).digitChar,
      (unit / 16 % 16).digitChar, (unit % 16).digitChar] := by
  have first : unit / 16 / 16 / 16 = unit / 4096 := by omega
  have second : unit / 16 / 16 % 16 = unit / 256 % 16 := by omega
  have top : hexDigits 1 (unit / 4096) = [(unit / 4096).digitChar] := by
    have small : unit / 4096 < 16 := by omega
    simp [hexDigits, Nat.toDigits_of_lt_base small]
  rw [escapeUnit, hexDigits_succ (by decide), hexDigits_succ (by decide),
    hexDigits_succ (by decide), first, second, top]
  rfl

/-- A hexadecimal digit reads back as its value. -/
theorem hexDigit?_digitChar : ∀ value < 16, hexDigit? value.digitChar = some value := by
  decide

/-- The four digits of a code unit read back as the unit. -/
theorem hexUnit?_digits {unit : Nat} (bound : unit < 0x10000) :
    hexUnit? (unit / 4096).digitChar (unit / 256 % 16).digitChar (unit / 16 % 16).digitChar
      (unit % 16).digitChar = some unit := by
  have first := hexDigit?_digitChar (unit / 4096) (by omega)
  have second := hexDigit?_digitChar (unit / 256 % 16) (by omega)
  have third := hexDigit?_digitChar (unit / 16 % 16) (by omega)
  have fourth := hexDigit?_digitChar (unit % 16) (by omega)
  have same : ((unit / 4096 * 16 + unit / 256 % 16) * 16 + unit / 16 % 16) * 16 + unit % 16 =
      unit := by
    omega
  simp [hexUnit?, first, second, third, fourth, same]

theorem isHighSurrogate_iff {unit : Nat} :
    isHighSurrogate unit = true ↔ 0xD800 ≤ unit ∧ unit < 0xDC00 := by
  rw [isHighSurrogate, Bool.and_eq_true, decide_eq_true_iff, decide_eq_true_iff]

theorem isLowSurrogate_iff {unit : Nat} :
    isLowSurrogate unit = true ↔ 0xDC00 ≤ unit ∧ unit < 0xE000 := by
  rw [isLowSurrogate, Bool.and_eq_true, decide_eq_true_iff, decide_eq_true_iff]

theorem lt_of_isHighSurrogate {unit : Nat} (high : isHighSurrogate unit = true) :
    unit < 0x10000 :=
  Nat.lt_trans (isHighSurrogate_iff.mp high).2 (by decide)

theorem lt_of_isLowSurrogate {unit : Nat} (low : isLowSurrogate unit = true) : unit < 0x10000 :=
  Nat.lt_trans (isLowSurrogate_iff.mp low).2 (by decide)

/-- A character is no half of a surrogate pair. -/
theorem not_isSurrogate (c : Char) :
    isHighSurrogate c.toNat = false ∧ isLowSurrogate c.toNat = false := by
  have valid : c.toNat < 0xD800 ∨ 0xDFFF < c.toNat ∧ c.toNat < 0x110000 := c.valid
  rw [← Bool.not_eq_true, ← Bool.not_eq_true, isHighSurrogate_iff, isLowSurrogate_iff]
  omega

/-- The code unit of a character stands for the character. -/
theorem unitChar_toNat (c : Char) : unitChar c.toNat = c := by
  obtain ⟨high, low⟩ := not_isSurrogate c
  simp [unitChar, high, low, Char.ofNat_toNat]

/-- The two code units of a character beyond the basic plane are a pair that joins to it. -/
theorem surrogates_join {c : Char} (beyond : 0x10000 ≤ c.toNat) :
    isHighSurrogate (surrogates c.toNat).1 = true ∧ isLowSurrogate (surrogates c.toNat).2 = true ∧
      joinSurrogates (surrogates c.toNat).1 (surrogates c.toNat).2 = c := by
  have valid : c.toNat < 0xD800 ∨ 0xDFFF < c.toNat ∧ c.toNat < 0x110000 := c.valid
  have quotient : (c.toNat - 0x10000) / 1024 < 1024 := by omega
  have remainder : (c.toNat - 0x10000) % 1024 < 1024 := Nat.mod_lt _ (by decide)
  have offset : 0x10000 + (0xD800 + (c.toNat - 0x10000) / 1024 - 0xD800) * 1024 +
      (0xDC00 + (c.toNat - 0x10000) % 1024 - 0xDC00) = c.toNat := by
    omega
  simp only [surrogates, isHighSurrogate_iff, isLowSurrogate_iff, joinSurrogates, offset,
    Char.ofNat_toNat, and_true]
  omega

/-- The escape of a unit that begins no pair is the character of the unit. -/
theorem unicodeEscape_of_unit {a b c d : Char} {unit : Nat} (digits : hexUnit? a b c d = some unit)
    (single : isHighSurrogate unit = false) (next : Char) (rest : List Char) :
    unicodeEscape (a :: b :: c :: d :: next :: rest) = .char (unitChar unit) 6 := by
  simp only [unicodeEscape, digits, single]

/-- Two escapes that make a pair are one character. -/
theorem unicodeEscape_of_pair {a b c d e f g h : Char} {high low : Nat}
    (highDigits : hexUnit? a b c d = some high) (lowDigits : hexUnit? e f g h = some low)
    (isHigh : isHighSurrogate high = true) (isLow : isLowSurrogate low = true) (next : Char)
    (rest : List Char) :
    unicodeEscape (a :: b :: c :: d :: '\\' :: 'u' :: e :: f :: g :: h :: next :: rest) =
      .char (joinSurrogates high low) 12 := by
  simp only [unicodeEscape, highDigits, lowDigits, isHigh, isLow, ↓reduceIte]

theorem stringStep_unicode (after : List Char) :
    stringStep '\\' ('u' :: after) = unicodeEscape after := rfl

/-- The escape of a unit is taken as a whole. -/
theorem stringStep_escapeUnit {unit : Nat} (bound : unit < 0x10000)
    (single : isHighSurrogate unit = false) (next : Char) (rest : List Char) :
    ∃ more, escapeUnit unit = '\\' :: more ∧
      stringStep '\\' (more ++ next :: rest) = .char (unitChar unit) (more.length + 1) := by
  refine ⟨_, escapeUnit_eq bound, ?_⟩
  simp only [List.cons_append, List.nil_append, stringStep_unicode]
  exact unicodeEscape_of_unit (hexUnit?_digits bound) single next rest

theorem stringStep_escapeUnits {high low : Nat} (isHigh : isHighSurrogate high = true)
    (isLow : isLowSurrogate low = true) (next : Char) (rest : List Char) :
    ∃ more, escapeUnit high ++ escapeUnit low = '\\' :: more ∧
      stringStep '\\' (more ++ next :: rest) =
        .char (joinSurrogates high low) (more.length + 1) := by
  have highBound := lt_of_isHighSurrogate isHigh
  have lowBound := lt_of_isLowSurrogate isLow
  rw [escapeUnit_eq highBound, escapeUnit_eq lowBound, List.cons_append]
  refine ⟨_, rfl, ?_⟩
  simp only [List.cons_append, List.nil_append, stringStep_unicode]
  exact unicodeEscape_of_pair (hexUnit?_digits highBound) (hexUnit?_digits lowBound) isHigh isLow
    next rest

/-- The ways a character is written inside a string. -/
inductive Spelling (c : Char) : List Char → Prop where
  | short (named : Char) (names : shortEscape? named = some c) (ascii : named.toNat < 0x80) :
      Spelling c ['\\', named]
  | plain (noQuote : c ≠ '"') (noBackslash : c ≠ '\\') (visible : 0x20 ≤ c.toNat)
      (ascii : c.toNat < 0x80) : Spelling c [c]
  | unit (basic : c.toNat < 0x10000) : Spelling c (escapeUnit c.toNat)
  | pair (beyond : 0x10000 ≤ c.toNat) :
      Spelling c (escapeUnit (surrogates c.toNat).1 ++ escapeUnit (surrogates c.toNat).2)

/-- Every character is written in one of the ways. -/
theorem spelling_writeChar (c : Char) : Spelling c (writeChar c) := by
  have shortened {other : Char} (named : Char) (same : (c == other) = true)
      (names : shortEscape? named = some other) (ascii : named.toNat < 0x80) :
      Spelling c ['\\', named] :=
    .short named (names.trans (congrArg some (eq_of_beq same).symm)) ascii
  unfold writeChar
  split
  · next same => exact shortened _ same rfl (by decide)
  · next noQuote =>
    split
    · next same => exact shortened _ same rfl (by decide)
    · next noBackslash =>
      repeat' split
      · next same => exact shortened _ same rfl (by decide)
      · next same => exact shortened _ same rfl (by decide)
      · next same => exact shortened _ same rfl (by decide)
      · next same => exact shortened _ same rfl (by decide)
      · next same => exact shortened _ same rfl (by decide)
      · next visible =>
        simp only [Bool.and_eq_true, decide_eq_true_eq] at visible
        exact .plain (fun same => noQuote (beq_of_eq same))
          (fun same => noBackslash (beq_of_eq same)) visible.1 (by omega)
      · next basic => exact .unit basic
      · next beyond => exact .pair (Nat.le_of_not_lt beyond)

/-- A short escape is read as what it names. -/
theorem stringStep_short {named value : Char} (names : shortEscape? named = some value)
    (rest : List Char) : stringStep '\\' (named :: rest) = .char value 2 := by
  have other : named ≠ 'u' := by
    rintro rfl
    cases names
  simp [stringStep, names]

/-- A character that needs no escape is read as it stands. -/
theorem stringStep_self {c : Char} (noQuote : c ≠ '"') (noBackslash : c ≠ '\\')
    (visible : 0x20 ≤ c.toNat) (rest : List Char) : stringStep c rest = .char c 1 := by
  have noControl : ¬ c.toNat < 0x20 := by omega
  simp [stringStep, noQuote, noBackslash, noControl]

/-- **A written character is read as this character, with all that it is written with.** -/
theorem Spelling.stringStep {c : Char} {written : List Char} (spelled : Spelling c written)
    (next : Char) (rest : List Char) :
    ∃ first more, written = first :: more ∧
      stringStep first (more ++ next :: rest) = .char c (more.length + 1) := by
  cases spelled with
  | short named names ascii => exact ⟨'\\', [named], rfl, stringStep_short names _⟩
  | plain noQuote noBackslash visible ascii =>
      exact ⟨c, [], rfl, stringStep_self noQuote noBackslash visible _⟩
  | unit basic =>
      have step := stringStep_escapeUnit basic (not_isSurrogate c).1 next rest
      rw [unitChar_toNat] at step
      exact ⟨_, step⟩
  | pair beyond =>
      obtain ⟨isHigh, isLow, joined⟩ := surrogates_join beyond
      have step := stringStep_escapeUnits isHigh isLow next rest
      rw [joined] at step
      exact ⟨_, step⟩

/-- Characters that belong to the one read last are passed over. -/
theorem readChars_skip (start read skipped rest : List Char) :
    readChars start read skipped.length (skipped ++ rest) = readChars start read 0 rest := by
  induction skipped with
  | nil => rfl
  | cons first skipped ih =>
      rw [List.length_cons, List.cons_append, readChars]
      exact ih

/-- A written character is read, and the reader goes on behind it. -/
theorem readChars_writeChar (start read : List Char) (c next : Char) (rest : List Char) :
    readChars start read 0 (writeChar c ++ next :: rest) =
      readChars start (c :: read) 0 (next :: rest) := by
  obtain ⟨first, more, written, step⟩ := (spelling_writeChar c).stringStep next rest
  rw [written, List.cons_append, readChars, step]
  dsimp only
  rw [Nat.add_sub_cancel, readChars_skip]

/-- What is written of a text reads back, and the reader stops at the closing quote. -/
theorem readChars_flatMap_writeChar (start read text rest : List Char) :
    readChars start read 0 (text.flatMap writeChar ++ '"' :: rest) =
      .ok (String.ofList (read.reverse ++ text), rest) := by
  induction text generalizing read with
  | nil =>
      rw [List.flatMap_nil, List.nil_append, readChars, List.append_nil]
      rfl
  | cons c text ih =>
      -- Text follows every written character: the next one, or the closing quote.
      obtain ⟨next, more, follows⟩ : ∃ next more, text.flatMap writeChar ++ '"' :: rest =
          next :: more := by
        cases written : text.flatMap writeChar with
        | nil => exact ⟨_, _, rfl⟩
        | cons first others => exact ⟨_, _, rfl⟩
      rw [List.flatMap_cons, List.append_assoc, follows, readChars_writeChar, ← follows, ih,
        List.reverse_cons, List.append_assoc]
      rfl

/-- **A written string reads back as the string.** -/
theorem readChars_written (start : List Char) (text : String) (rest : List Char) :
    readChars start [] 0 (text.toList.flatMap writeChar ++ '"' :: rest) = .ok (text, rest) := by
  rw [readChars_flatMap_writeChar, List.reverse_nil, List.nil_append, String.ofList_toList]

/-! ## Written strings are ASCII -/

theorem toNat_digitChar_lt (value : Nat) : value.digitChar.toNat < 0x80 := by
  by_cases small : value < 16
  · have all : ∀ value < 16, value.digitChar.toNat < 0x80 := by decide
    exact all value small
  · rw [Nat.digitChar_eq_star.mpr (Nat.le_of_not_lt small)]
    decide

/-- An escape is ASCII. -/
theorem escapeUnit_ascii {unit : Nat} (bound : unit < 0x10000) :
    ∀ c ∈ escapeUnit unit, c.toNat < 0x80 := by
  rw [escapeUnit_eq bound]
  simp [toNat_digitChar_lt]

/-- However a character is written, it is written in ASCII. -/
theorem Spelling.ascii {c : Char} {written : List Char} (spelled : Spelling c written) :
    ∀ d ∈ written, d.toNat < 0x80 := by
  cases spelled with
  | short named names ascii => simp [ascii]
  | plain noQuote noBackslash visible ascii => simp [ascii]
  | unit basic => exact escapeUnit_ascii basic
  | pair beyond =>
      obtain ⟨isHigh, isLow, -⟩ := surrogates_join beyond
      intro d member
      rcases List.mem_append.mp member with high | low
      · exact escapeUnit_ascii (lt_of_isHighSurrogate isHigh) d high
      · exact escapeUnit_ascii (lt_of_isLowSurrogate isLow) d low

/-- A string is written in ASCII. -/
theorem writeString_ascii (text : String) : ∀ c ∈ writeString text, c.toNat < 0x80 := by
  have quote : '"'.toNat < 0x80 := by decide
  have inside : ∀ c ∈ text.toList.flatMap writeChar, c.toNat < 0x80 := by
    intro c member
    obtain ⟨read, _, written⟩ := List.mem_flatMap.mp member
    exact (spelling_writeChar read).ascii c written
  simp only [writeString, List.mem_cons, List.mem_append, List.not_mem_nil, or_false]
  rintro c (rfl | member | rfl)
  · exact quote
  · exact inside c member
  · exact quote

/-! ## Halves of surrogate pairs -/

section Halves

/-- An escape begins with four digits that tell its unit, and no backslash is among them. -/
theorem leadingUnit?_escapeUnit {unit : Nat} (bound : unit < 0x10000) (rest : List Char) :
    ∃ digits : List Char, digits.length = 4 ∧ (∀ c ∈ digits, (c == '\\') = false) ∧
      escapeUnit unit ++ rest = '\\' :: 'u' :: (digits ++ rest) ∧
      leadingUnit? (digits ++ rest) = some unit := by
  rw [escapeUnit_eq bound]
  refine ⟨[_, _, _, _], rfl, ?_, rfl, hexUnit?_digits bound⟩
  simp

/-- The escape of a unit that is no half of a pair is whole. -/
theorem wholeEscape?_single {text : List Char} {unit : Nat}
    (leads : leadingUnit? text = some unit) (noHigh : isHighSurrogate unit = false)
    (noLow : isLowSurrogate unit = false) : wholeEscape? ('u' :: text) = some 1 := by
  rw [wholeEscape?, leads]
  split
  case h_1 same _ =>
    cases same
    rw [noHigh, noLow]
    rfl
  case h_2 same _ =>
    cases same
    rw [noHigh, noLow]
    rfl
  case h_3 same => cases same

/-- Two escapes that make a pair are whole together. -/
theorem wholeEscape?_pair {text next : List Char} {high low : Nat}
    (leads : leadingUnit? text = some high) (follows : text.drop 4 = '\\' :: 'u' :: next)
    (leadsLow : leadingUnit? next = some low) (isHigh : isHighSurrogate high = true)
    (isLow : isLowSurrogate low = true) : wholeEscape? ('u' :: text) = some 11 := by
  simp [wholeEscape?, leads, follows, leadsLow, isHigh, isLow]

/-- What is passed over holds no half. -/
theorem escapesHalf_skip (skipped rest : List Char) :
    escapesHalf skipped.length (skipped ++ rest) = escapesHalf 0 rest := by
  induction skipped with
  | nil => rfl
  | cons first skipped ih => exact ih

/-- Without a backslash nothing is escaped. -/
theorem escapesHalf_plain {text : List Char} (plain : ∀ c ∈ text, (c == '\\') = false)
    (rest : List Char) : escapesHalf 0 (text ++ rest) = escapesHalf 0 rest := by
  induction text with
  | nil => rfl
  | cons first text ih =>
      obtain ⟨here, after⟩ := List.forall_mem_cons.mp plain
      rw [List.cons_append, escapesHalf]
      simp [here, ih after]

/-- **A written character is no half of a pair.** -/
theorem Spelling.escapesHalf {c : Char} {written : List Char} (spelled : Spelling c written)
    (rest : List Char) : escapesHalf 0 (written ++ rest) = escapesHalf 0 rest := by
  cases spelled with
  | short named names ascii =>
      have other : named ≠ 'u' := by
        rintro rfl
        cases names
      simp [Json.escapesHalf, wholeEscape?, other]
  | plain noQuote noBackslash visible ascii =>
      exact escapesHalf_plain (by simpa using noBackslash) rest
  | unit basic =>
      obtain ⟨digits, -, plain, written, leads⟩ := leadingUnit?_escapeUnit basic rest
      obtain ⟨noHigh, noLow⟩ := not_isSurrogate c
      rw [written, Json.escapesHalf]
      simp only [wholeEscape?_single leads noHigh noLow]
      exact escapesHalf_plain plain rest
  | pair beyond =>
      obtain ⟨isHigh, isLow, -⟩ := surrogates_join beyond
      generalize (surrogates c.toNat).1 = high at isHigh ⊢
      generalize (surrogates c.toNat).2 = low at isLow ⊢
      obtain ⟨second, four, -, follows, leadsLow⟩ :=
        leadingUnit?_escapeUnit (lt_of_isLowSurrogate isLow) rest
      obtain ⟨first, size, -, written, leads⟩ :=
        leadingUnit?_escapeUnit (lt_of_isHighSurrogate isHigh) (escapeUnit low ++ rest)
      have whole : wholeEscape? ('u' :: (first ++ (escapeUnit low ++ rest))) = some 11 := by
        refine wholeEscape?_pair leads ?_ leadsLow isHigh isLow
        rw [← size, List.drop_left, follows]
      rw [List.append_assoc, written, Json.escapesHalf]
      simp only [whole]
      have length : ('u' :: (first ++ '\\' :: 'u' :: second)).length = 11 := by
        rw [List.length_cons, List.length_append, List.length_cons, List.length_cons, size, four]
      have skipped := escapesHalf_skip ('u' :: (first ++ '\\' :: 'u' :: second)) rest
      rw [length, List.cons_append, List.append_assoc] at skipped
      rw [follows]
      exact skipped

/-- A text that is written escapes no half. -/
theorem escapesHalf_flatMap_writeChar (text rest : List Char) :
    Json.escapesHalf 0 (text.flatMap writeChar ++ rest) = Json.escapesHalf 0 rest := by
  induction text with
  | nil => rfl
  | cons c text ih =>
      rw [List.flatMap_cons, List.append_assoc, (spelling_writeChar c).escapesHalf, ih]

/-- **The escape of half a pair is found** at the end of a string, whatever is written before it. -/
theorem escapesHalf_escapeUnit {unit : Nat}
    (half : isHighSurrogate unit = true ∨ isLowSurrogate unit = true) (text : String)
    (rest : List Char) :
    Json.escapesHalf 0 (text.toList.flatMap writeChar ++ (escapeUnit unit ++ '"' :: rest)) =
      true := by
  have bound : unit < 0x10000 := half.elim lt_of_isHighSurrogate lt_of_isLowSurrogate
  obtain ⟨digits, size, -, written, leads⟩ := leadingUnit?_escapeUnit bound ('"' :: rest)
  have noWhole : wholeEscape? ('u' :: (digits ++ '"' :: rest)) = none := by
    have dropped : (digits ++ '"' :: rest).drop 4 = '"' :: rest := by
      rw [← size, List.drop_left]
    rw [wholeEscape?, leads, dropped]
    rcases half with high | low
    · simp [high]
    · simp [low]
  rw [escapesHalf_flatMap_writeChar, written, Json.escapesHalf]
  simp [noWhole]

end Halves
end Soliscope.Json
