import Soliscope.Proofs.Json.Integers
import Soliscope.Proofs.Json.Strings

/-!
# Plain values and their texts

A plain value is one that its text tells in full (`IsPlain`). The text is never empty and begins
with no blank space (`write_begins`), arrays and objects are written an item at a time, and every
character of it is ASCII (`write_ascii`), whatever characters the texts and names in the value hold.
-/

namespace Soliscope.Json

/-- The value of a field is smaller than the fields. -/
theorem sizeOf_field_lt {field : String × Json} {fields : List (String × Json)}
    (member : field ∈ fields) : sizeOf field.2 < sizeOf fields := by
  have within := List.sizeOf_lt_of_mem member
  obtain ⟨name, value⟩ := field
  simp only [Prod.mk.sizeOf_spec] at within
  simp only
  omega

/-- **Induction on values**: what holds of an array or an object if it holds of all that lies in it,
and of every other value, holds of all values. -/
@[elab_as_elim]
theorem induction {motive : Json → Prop} (null : motive .null)
    (bool : ∀ value, motive (.bool value)) (int : ∀ value, motive (.int value))
    (float : ∀ value, motive (.float value)) (str : ∀ value, motive (.str value))
    (arr : ∀ items, (∀ item ∈ items, motive item) → motive (.arr items))
    (obj : ∀ fields, (∀ field ∈ fields, motive field.2) → motive (.obj fields)) :
    ∀ value, motive value
  | .null => null
  | .bool value => bool value
  | .int value => int value
  | .float value => float value
  | .str value => str value
  | .arr items => arr items fun item _ => induction null bool int float str arr obj item
  | .obj fields => obj fields fun field member =>
      have := sizeOf_field_lt member
      induction null bool int float str arr obj field.2

mutual

/-- A value that its text tells in full: it holds no doubles, only integers that the reader takes,
and objects that hold each name once. -/
def IsPlain : Json → Prop
  | .float _ => False
  | .int value => IsTakenInteger value
  | .arr items => ItemsArePlain items
  | .obj fields => (fields.map Prod.fst).Nodup ∧ FieldsArePlain fields
  | _ => True

/-- All items of a list are plain. -/
def ItemsArePlain : List Json → Prop
  | [] => True
  | item :: items => IsPlain item ∧ ItemsArePlain items

/-- The values of all fields are plain. -/
def FieldsArePlain : List (String × Json) → Prop
  | [] => True
  | (_, value) :: fields => IsPlain value ∧ FieldsArePlain fields

end

theorem itemsArePlain_iff {items : List Json} :
    ItemsArePlain items ↔ ∀ item ∈ items, IsPlain item := by
  induction items with
  | nil => simp [ItemsArePlain]
  | cons item items ih => simp [ItemsArePlain, ih]

theorem fieldsArePlain_iff {fields : List (String × Json)} :
    FieldsArePlain fields ↔ ∀ field ∈ fields, IsPlain field.2 := by
  induction fields with
  | nil => simp [FieldsArePlain]
  | cons field fields ih => simp [FieldsArePlain, ih]

/-! ## Where a value begins -/

/-- An integer is written with a minus sign or a digit in front. -/
theorem front_int (value : Int) :
    ∃ first more, (toString value).toList = first :: more ∧
      (first = '-' ∨ first.isDigit = true) := by
  obtain ⟨first, more, digits, digit⟩ := decimal_eq_cons value.natAbs
  rw [toList_toString_int, digits]
  by_cases negative : value < 0
  · rw [if_pos negative]
    exact ⟨_, _, rfl, Or.inl rfl⟩
  · rw [if_neg negative]
    exact ⟨_, _, rfl, Or.inr digit⟩

/-- A character that a value may begin with: no blank space, and no closing bracket. -/
def BeginsValue (first : Char) : Prop :=
  isSpace first = false ∧ first ≠ ']'

/-- A value may begin with a digit. -/
theorem beginsValue_of_isDigit {first : Char} (digit : first.isDigit = true) :
    BeginsValue first := by
  have blank := ne_of_isDigit digit (c := ' ') rfl
  have tab := ne_of_isDigit digit (c := '\t') rfl
  have line := ne_of_isDigit digit (c := '\n') rfl
  have back := ne_of_isDigit digit (c := '\r') rfl
  exact ⟨by simp [isSpace, blank, tab, line, back], ne_of_isDigit digit rfl⟩

/-- A written value begins like a value. -/
theorem write_begins {value : Json} (plain : IsPlain value) :
    ∃ first more, write value = first :: more ∧ BeginsValue first := by
  cases value with
  | null => exact ⟨'n', _, rfl, rfl, by decide⟩
  | bool value => cases value <;> exact ⟨_, _, rfl, rfl, by decide⟩
  | int value =>
      obtain ⟨first, more, written, rfl | digit⟩ := front_int value
      · exact ⟨_, more, written, rfl, by decide⟩
      · exact ⟨_, more, written, beginsValue_of_isDigit digit⟩
  | float value => simp only [IsPlain] at plain
  | str value => exact ⟨'"', _, rfl, rfl, by decide⟩
  | arr items => exact ⟨'[', _, rfl, rfl, by decide⟩
  | obj fields => exact ⟨'{', _, rfl, rfl, by decide⟩

/-- Something is written for every value. -/
theorem length_write_pos {value : Json} (plain : IsPlain value) : 0 < (write value).length := by
  obtain ⟨first, more, written, -⟩ := write_begins plain
  rw [written]
  exact Nat.succ_pos _

/-! ## An item at a time -/

theorem writeItems_one (item : Json) : writeItems [item] = write item ++ [']'] := rfl

theorem writeItems_more (item next : Json) (items : List Json) :
    writeItems (item :: next :: items) = write item ++ (',' :: ' ' :: writeItems (next :: items)) :=
  rfl

theorem writeFields_one (field : String × Json) :
    writeFields [field] = writeString field.1 ++ (':' :: ' ' :: (write field.2 ++ ['}'])) := rfl

theorem writeFields_more (field next : String × Json) (fields : List (String × Json)) :
    writeFields (field :: next :: fields) =
      writeString field.1 ++
        (':' :: ' ' :: (write field.2 ++ (',' :: ' ' :: writeFields (next :: fields)))) := rfl

/-- Written items begin like a value. -/
theorem writeItems_begins {item : Json} (plain : IsPlain item) (items : List Json) :
    ∃ first more, writeItems (item :: items) = first :: more ∧ BeginsValue first := by
  obtain ⟨first, more, written, begins⟩ := write_begins plain
  cases items with
  | nil =>
      rw [writeItems_one, written]
      exact ⟨first, _, rfl, begins⟩
  | cons next items =>
      rw [writeItems_more, written]
      exact ⟨first, _, rfl, begins⟩

/-- Written fields begin with a quotation mark. -/
theorem writeFields_begins (field : String × Json) (fields : List (String × Json)) :
    ∃ more, writeFields (field :: fields) = '"' :: more := by
  cases fields with
  | nil => exact ⟨_, rfl⟩
  | cons next fields => exact ⟨_, rfl⟩

/-! ## Written values are ASCII -/

theorem ascii_of_all {text : List Char} (all : (text.all fun c => c.toNat < 0x80) = true) :
    ∀ c ∈ text, c.toNat < 0x80 :=
  fun c member => of_decide_eq_true (List.all_eq_true.mp all c member)

/-- An integer is written in ASCII. -/
theorem int_ascii (value : Int) : ∀ c ∈ (toString value).toList, c.toNat < 0x80 := by
  have digits : ∀ c ∈ Nat.toDigits 10 value.natAbs, c.toNat < 0x80 := by
    intro c member
    have digit := isDigit_decimal value.natAbs c member
    simp only [Char.isDigit, Bool.and_eq_true, decide_eq_true_eq] at digit
    exact Nat.lt_of_le_of_lt digit.2 (by decide)
  rw [toList_toString_int]
  split
  · exact List.forall_mem_cons.mpr ⟨by decide, digits⟩
  · exact digits

/-- Items are written in ASCII if each of them is. -/
theorem writeItems_ascii {items : List Json}
    (all : ∀ item ∈ items, ∀ c ∈ write item, c.toNat < 0x80) :
    ∀ c ∈ writeItems items, c.toNat < 0x80 := by
  induction items with
  | nil => exact ascii_of_all rfl
  | cons item items ih =>
      obtain ⟨first, others⟩ := List.forall_mem_cons.mp all
      cases items with
      | nil =>
          rw [writeItems_one]
          exact List.forall_mem_append.mpr ⟨first, ascii_of_all rfl⟩
      | cons next items =>
          rw [writeItems_more]
          simp only [List.forall_mem_append, List.forall_mem_cons]
          exact ⟨first, by decide, by decide, ih others⟩

/-- Fields are, too, since names are. -/
theorem writeFields_ascii {fields : List (String × Json)}
    (all : ∀ field ∈ fields, ∀ c ∈ write field.2, c.toNat < 0x80) :
    ∀ c ∈ writeFields fields, c.toNat < 0x80 := by
  induction fields with
  | nil => exact ascii_of_all rfl
  | cons field fields ih =>
      obtain ⟨first, others⟩ := List.forall_mem_cons.mp all
      have name := writeString_ascii field.1
      cases fields with
      | nil =>
          rw [writeFields_one]
          simp only [List.forall_mem_append, List.forall_mem_cons]
          exact ⟨name, by decide, by decide, first, by decide, ascii_of_all rfl⟩
      | cons next fields =>
          rw [writeFields_more]
          simp only [List.forall_mem_append, List.forall_mem_cons]
          exact ⟨name, by decide, by decide, first, by decide, by decide, ih others⟩

/-- **A plain value is written in ASCII.** -/
theorem write_ascii {value : Json} (plain : IsPlain value) :
    ∀ c ∈ write value, c.toNat < 0x80 := by
  induction value using Json.induction with
  | null => exact ascii_of_all rfl
  | bool value => cases value <;> exact ascii_of_all rfl
  | int value => exact int_ascii value
  | float value => simp only [IsPlain] at plain
  | str value => exact writeString_ascii value
  | arr items ih =>
      rw [IsPlain, itemsArePlain_iff] at plain
      rw [write]
      exact List.forall_mem_cons.mpr ⟨by decide,
        writeItems_ascii fun item member => ih item member (plain item member)⟩
  | obj fields ih =>
      rw [IsPlain, fieldsArePlain_iff] at plain
      rw [write]
      exact List.forall_mem_cons.mpr ⟨by decide,
        writeFields_ascii fun field member => ih field member (plain.2 field member)⟩

end Soliscope.Json
