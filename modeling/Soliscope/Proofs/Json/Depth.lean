import Soliscope.Json.Reader

/-! # Containers in containers

Only so many containers may be open at once. Opening brackets beyond that stop the reading of a
document, however long they go on (`readDocument_brackets`).
-/

namespace Soliscope.Json

open Soliscope.Text

/-- The byte of an opening bracket. -/
def bracketByte : UInt8 := 0x5B

/-- Brackets are no space. -/
theorem skipSpace_brackets (count : Nat) :
    skipSpace (List.replicate count '[') = List.replicate count '[' := by
  cases count with
  | zero => rfl
  | succ count => rfl

/-- More opening brackets than there is room for are too deep. -/
theorem readValue_brackets {room steps count : Nat} (more : room < count)
    (enough : 2 * room < steps) :
    readValue steps room (List.replicate count '[') = .error (.tooDeep .array) := by
  induction room generalizing steps count with
  | zero =>
      obtain ⟨count, rfl⟩ : ∃ fewer, count = fewer + 1 := ⟨count - 1, by omega⟩
      obtain ⟨steps, rfl⟩ : ∃ fewer, steps = fewer + 1 := ⟨steps - 1, by omega⟩
      rw [List.replicate_succ, readValue]
  | succ room ih =>
      obtain ⟨count, rfl⟩ : ∃ fewer, count = fewer + 2 := ⟨count - 2, by omega⟩
      obtain ⟨steps, rfl⟩ : ∃ fewer, steps = fewer + 2 := ⟨steps - 2, by omega⟩
      have inner : readValue steps room (List.replicate (count + 1) '[') =
          .error (.tooDeep .array) :=
        ih (by omega) (by omega)
      have items : readItems (steps + 1) room (List.replicate (count + 1) '[') =
          .error (.tooDeep .array) := by
        rw [readItems, inner]
      rw [List.replicate_succ, readValue, skipSpace_brackets]
      rw [List.replicate_succ] at items ⊢
      simp [items]

/-- Bytes for brackets are decoded to brackets. -/
theorem decodeFrom_brackets (position : Nat) (read : List Char) (count : Nat) :
    Utf8.decodeFrom true position 0 read (List.replicate count bracketByte) =
      .ok (read.reverse ++ List.replicate count '[') := by
  induction count generalizing position read with
  | zero => simp [Utf8.decodeFrom]
  | succ count ih =>
      have step (rest : List UInt8) : Utf8.step true bracketByte rest = .char '[' 1 := rfl
      rw [List.replicate_succ, Utf8.decodeFrom, step]
      dsimp only
      rw [ih, List.reverse_cons, List.append_assoc, List.replicate_succ]
      rfl

/-- A document of brackets is in UTF-8. -/
theorem decodeDocument_brackets {count : Nat} (some : 4 ≤ count) :
    decodeDocument (List.replicate count bracketByte) = .ok (List.replicate count '[') := by
  obtain ⟨count, rfl⟩ : ∃ fewer, count = fewer + 4 := ⟨count - 4, by omega⟩
  have detected : Encoding.detect (List.replicate (count + 4) bracketByte) = .utf8 0 := rfl
  rw [decodeDocument, detected]
  dsimp only
  rw [List.drop_zero, Utf8.decode, decodeFrom_brackets]
  rfl

/-- **A document of more opening brackets than the nesting limit is too deep.** -/
theorem readDocument_brackets {count : Nat} (deep : nestingLimit < count) :
    readDocument (List.replicate count bracketByte) =
      .error (.unreadable (.tooDeep .array)) := by
  have long : 4 ≤ count := Nat.le_of_lt (Nat.lt_trans (by decide) deep)
  have stopped : readWhole (List.replicate count '[') = .error (.tooDeep .array) := by
    rw [readWhole, skipSpace_brackets, List.length_replicate,
      readValue_brackets deep (by omega)]
  rw [readDocument, decodeDocument_brackets long]
  dsimp only
  rw [stopped]
  rfl

end Soliscope.Json
