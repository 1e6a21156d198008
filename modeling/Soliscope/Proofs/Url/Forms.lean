import Soliscope.Proofs.Text.Utf8
import Soliscope.Proofs.Url.Characters
import Soliscope.Proofs.Url.Reading

/-! # Forms are read back

Reading a form in writing gives the entries that it was written for (`Form.parse_render`), whatever
characters they hold. A text in writing has none of the marks of a form, so that a form is taken
apart where it was put together; and the escapes of a character are read back as its bytes.
-/

namespace Soliscope.Url

open Soliscope.Text

section Escapes

/-- A hexadecimal digit has the value it was written for. -/
theorem hexValue?_hexDigit {value : Nat} (small : value < 16) :
    hexValue? (hexDigit value) = some value := by
  have all : ∀ digit < 16, hexValue? (hexDigit digit) = some digit := by decide
  exact all value small

/-- An escaped byte is read back. -/
theorem unescapeBytes_escapeByte (read : List UInt8) (byte : UInt8) (rest : List Char) :
    unescapeBytes read 0 (escapeByte byte ++ rest) = unescapeBytes (byte :: read) 0 rest := by
  have bound : byte.toNat < 256 := byte.toNat_lt
  have high : hexValue? (hexDigit (byte.toNat / 16)) = some (byte.toNat / 16) :=
    hexValue?_hexDigit (by omega)
  have low : hexValue? (hexDigit (byte.toNat % 16)) = some (byte.toNat % 16) :=
    hexValue?_hexDigit (by omega)
  have value : UInt8.ofNat (byte.toNat / 16 * 16 + byte.toNat % 16) = byte := by
    rw [Nat.div_add_mod']
    exact UInt8.ofNat_toNat
  simp only [escapeByte, List.cons_append, List.nil_append, unescapeBytes, bytesAt, high, low,
    value]
  rfl

theorem unescapeBytes_escapeBytes (read bytes : List UInt8) (rest : List Char) :
    unescapeBytes read 0 (bytes.flatMap escapeByte ++ rest) =
      unescapeBytes (bytes.reverse ++ read) 0 rest := by
  induction bytes generalizing read with
  | nil => rfl
  | cons byte bytes ih =>
      rw [List.flatMap_cons, List.append_assoc, unescapeBytes_escapeByte, ih, List.reverse_cons,
        List.append_assoc]
      rfl

/-- A character that starts no escape is read as it is. -/
theorem unescapeBytes_cons (read : List UInt8) {c : Char} (plain : c ≠ '%') (rest : List Char) :
    unescapeBytes read 0 (c :: rest) = unescapeBytes ((utf8Char c).reverse ++ read) 0 rest := by
  have front : bytesAt c rest = (utf8Char c, 1) := by
    unfold bytesAt
    split
    · exact (plain rfl).elim
    · rfl
  rw [unescapeBytes, front]

end Escapes

namespace Form

/-- What a written character stands for before escapes are read. -/
def spaced (c : Char) : Char :=
  if c == '+' then ' ' else c

/-- An escape holds no plus sign that would be read as a space. -/
theorem spaced_of_mem_escapeChar {c other : Char} (member : c ∈ escapeChar other) :
    spaced c = c := by
  have notPlus : c ≠ '+' := by
    rintro rfl
    rcases mem_escapeChar member with free | percent
    · exact absurd free (by decide)
    · cases percent
  simp [spaced, notPlus]

/-- A character in writing is read as its bytes. -/
theorem unescapeBytes_encodeChar (read : List UInt8) (c : Char) (rest : List Char) :
    unescapeBytes read 0 ((encodeChar c).map spaced ++ rest) =
      unescapeBytes ((utf8Char c).reverse ++ read) 0 rest := by
  unfold encodeChar
  split
  case isTrue free =>
    have notPercent : c ≠ '%' := by
      rintro rfl
      exact absurd free (by decide)
    have notPlus : c ≠ '+' := by
      rintro rfl
      exact absurd free (by decide)
    have kept : spaced c = c := by
      simp [spaced, notPlus]
    rw [List.map_singleton, kept, List.singleton_append, unescapeBytes_cons read notPercent]
  case isFalse =>
    split
    case isTrue isSpace =>
      rw [beq_iff_eq.mp isSpace]
      exact unescapeBytes_cons read (by decide) rest
    case isFalse =>
      have kept : (escapeChar c).map spaced = escapeChar c := by
        calc (escapeChar c).map spaced
            = (escapeChar c).map id :=
              List.map_congr_left fun other member => spaced_of_mem_escapeChar member
          _ = escapeChar c := List.map_id _
      rw [kept, escapeChar, unescapeBytes_escapeBytes]

/-- A form value is read back as the bytes of its text. -/
theorem unescapeBytes_encodeChars (read : List UInt8) (text : List Char) :
    unescapeBytes read 0 ((text.flatMap encodeChar).map spaced) = read.reverse ++ utf8 text := by
  induction text generalizing read with
  | nil => simp [unescapeBytes, utf8]
  | cons c text ih =>
      rw [List.flatMap_cons, List.map_append, unescapeBytes_encodeChar, ih, List.reverse_append,
        List.reverse_reverse, List.append_assoc, utf8, utf8, List.flatMap_cons]

/-- **A text in writing is read back.** -/
theorem decode_encode (text : String) : decode (encode text) = text := by
  change String.ofList (unescape ((encode text).map spaced)) = text
  rw [unescape, encode, unescapeBytes_encodeChars, List.reverse_nil, List.nil_append,
    Utf8.decodeLossy_utf8, String.ofList_toList]

/-- A mark of the form is not found in a value. -/
theorem mark_notMem_encode {mark : Char} (isMark : isValueChar mark = false) (text : String) :
    mark ∉ encode text := by
  intro member
  rw [isValueChar_of_mem_encode member] at isMark
  cases isMark

/-- An entry is read back. -/
theorem parseEntry_encodeEntry (entry : String × String) :
    parseEntry (encodeEntry entry) = entry := by
  have stops : ('=' != '=') = false := by decide
  have goesOn : ∀ c ∈ encode entry.1, (c != '=') = true := by
    intro c member
    rw [bne_iff_ne]
    rintro rfl
    exact mark_notMem_encode (by decide) entry.1 member
  have name : (encodeEntry entry).takeWhile (· != '=') = encode entry.1 := by
    rw [encodeEntry, @takeWhile_append_stop Char (· != '=') '=' stops]
    exact List.takeWhile_eq_self_iff.mpr goesOn
  have value : ((encodeEntry entry).dropWhile (· != '=')).drop 1 = encode entry.2 := by
    rw [encodeEntry, @dropWhile_append_stop Char (· != '=') '=' stops,
      List.dropWhile_eq_nil_iff.mpr goesOn]
    rfl
  rw [parseEntry, name, value, decode_encode, decode_encode]

/-- No entry is written as nothing. -/
theorem encodeEntry_ne_nil (entry : String × String) : encodeEntry entry ≠ [] := by
  simp [encodeEntry]

/-- No entry holds the mark between entries. -/
theorem separator_notMem_encodeEntry (entry : String × String) : '&' ∉ encodeEntry entry := by
  rw [encodeEntry, List.mem_append, List.mem_cons]
  rintro (name | equals | value)
  · exact mark_notMem_encode (by decide) entry.1 name
  · cases equals
  · exact mark_notMem_encode (by decide) entry.2 value

/-- **A form in writing is read back**: the same entries in the same order, and no others. -/
theorem parse_render (entries : List (String × String)) : parse (render entries) = entries := by
  cases entries with
  | nil => decide
  | cons first rest =>
      have split : (render (first :: rest)).splitOn '&' = (first :: rest).map encodeEntry := by
        apply List.splitOn_intercalate
        · intro part member
          obtain ⟨entry, -, rfl⟩ := List.mem_map.mp member
          exact separator_notMem_encodeEntry entry
        · simp
      have noneEmpty : ((first :: rest).map encodeEntry).filter (!·.isEmpty) =
          (first :: rest).map encodeEntry := by
        apply List.filter_eq_self.mpr
        intro part member
        obtain ⟨entry, -, rfl⟩ := List.mem_map.mp member
        simp [encodeEntry_ne_nil entry]
      have readBack : parseEntry ∘ encodeEntry = id := funext parseEntry_encodeEntry
      rw [parse, split, noneEmpty, List.map_map, readBack, List.map_id]

end Form

end Soliscope.Url
