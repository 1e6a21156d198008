import Soliscope.Json.Finite
import Soliscope.Proofs.Json.Plain

/-!
# Documents written and read back

A plain value that is not too deep reads back from its text as it was, whatever characters its texts
and names hold (`read_render`), and the text is ASCII (`render_ascii`). Within a document the reader
stops exactly where the value ends; that is what the induction over the value carries (`ReadsBack`).
Arrays and objects are read an item at a time, by the equations of the first sections.
-/

namespace Soliscope.Json

/-! ## One step of the reader -/

variable {steps room : Nat} {value : Json} {text rest : List Char}

/-- Nothing is skipped in front of a visible character. -/
theorem skipSpace_of_not_space {first : Char} (visible : isSpace first = false)
    (more : List Char) : skipSpace (first :: more) = first :: more := by
  simp [skipSpace, visible]

theorem writeString_append (value : String) (rest : List Char) :
    writeString value ++ rest = '"' :: (value.toList.flatMap writeChar ++ '"' :: rest) := by
  rw [writeString, List.cons_append, List.append_assoc]
  rfl

/-- A written string is read as a value. -/
theorem readValue_writeString (steps room : Nat) (value : String) (rest : List Char) :
    readValue (steps + 1) room (writeString value ++ rest) = .ok (.str value, rest) := by
  rw [writeString_append, readValue, readChars_written]

/-- A text that begins like neither a string nor a container. -/
def HasPlainFront (text : List Char) : Prop :=
  ∀ more, text ≠ '"' :: more ∧ text ≠ '{' :: more ∧ text ≠ '[' :: more

theorem hasPlainFront_cons {first : Char} (string : first ≠ '"') (object : first ≠ '{')
    (array : first ≠ '[') (more : List Char) : HasPlainFront (first :: more) := by
  intro other
  simp [string, object, array]

/-- Read a value that is neither a string nor a container: a word or a number. -/
def readScalar (text : List Char) : Reading Json :=
  match literal? text with
  | some found => .ok found
  | none =>
    match numeral? text with
    | some (numeral, rest) =>
      match numeral.value with
      | .ok value => .ok (value, rest)
      | .error fault => .error fault
    | none => .error (.problem .expectedValue text)

/-- What does not begin like a string, an object or an array is read as a single value. -/
theorem readValue_scalar (front : HasPlainFront text) :
    readValue (steps + 1) room text = readScalar text := by
  rw [readValue]
  · rfl
  · exact fun _ => (front _).1
  · exact fun _ _ => (front _).2.1
  · exact fun _ _ _ => (front _).2.1
  · exact fun _ _ => (front _).2.2
  · exact fun _ _ _ => (front _).2.2

/-- A written integer is read as this integer. -/
theorem readScalar_int {value : Int} (taken : IsTakenInteger value) (ends : EndsValue rest) :
    readScalar ((toString value).toList ++ rest) = .ok (.int value, rest) := by
  simp only [readScalar, literal?_int, numeral?_int value ends, value_int taken]

theorem readValue_int {value : Int} (taken : IsTakenInteger value) (ends : EndsValue rest) :
    readValue (steps + 1) room ((toString value).toList ++ rest) = .ok (.int value, rest) := by
  have front : HasPlainFront ((toString value).toList ++ rest) := by
    obtain ⟨first, more, written, rfl | digit⟩ := front_int value
    · rw [written]
      exact hasPlainFront_cons (by decide) (by decide) (by decide) _
    · rw [written]
      exact hasPlainFront_cons (ne_of_isDigit digit rfl) (ne_of_isDigit digit rfl)
        (ne_of_isDigit digit rfl) _
  rw [readValue_scalar front, readScalar_int taken ends]

/-- No written value begins with space. -/
theorem skipSpace_write {value : Json} (plain : IsPlain value) (rest : List Char) :
    skipSpace (write value ++ rest) = write value ++ rest := by
  obtain ⟨first, more, written, visible, -⟩ := write_begins plain
  rw [written, List.cons_append, skipSpace_of_not_space visible]

/-! ## Items and members -/

/-- Behind an opening bracket the items are read. -/
theorem readValue_array {first : Char} {more : List Char} {items : List Json}
    (begins : BeginsValue first) (read : readItems steps room (first :: more) = .ok (items, rest)) :
    readValue (steps + 1) (room + 1) ('[' :: first :: more) = .ok (.arr items, rest) := by
  rw [readValue, skipSpace_of_not_space begins.1]
  split
  · next closed => exact absurd (List.cons.inj closed).1 begins.2
  · rw [read]

/-- Behind an opening brace the members are read. -/
theorem readValue_object {more : List Char} {members : List (String × Json)}
    (read : readMembers steps room ('"' :: more) = .ok (members, rest)) :
    readValue (steps + 1) (room + 1) ('{' :: '"' :: more) =
      .ok (.obj (fieldsOf members), rest) := by
  have visible : skipSpace ('"' :: more) = '"' :: more := rfl
  rw [readValue, visible]
  split
  · next closed => exact absurd (List.cons.inj closed).1 (by decide)
  · rw [read]

/-- An item in front of the closing bracket is the last. -/
theorem readItems_last (read : readValue steps room text = .ok (value, ']' :: rest)) :
    readItems (steps + 1) room text = .ok ([value], rest) := by
  rw [readItems, read]
  rfl

/-- Behind an item and a comma the others are read. -/
theorem readItems_more {following : List Char} {values : List Json}
    (read : readValue steps room text = .ok (value, ',' :: ' ' :: following))
    (visible : skipSpace following = following)
    (others : readItems steps room following = .ok (values, rest)) :
    readItems (steps + 1) room text = .ok (value :: values, rest) := by
  have skipped : skipSpace (' ' :: following) = following := visible
  have comma : skipSpace (',' :: ' ' :: following) = ',' :: ' ' :: following := rfl
  rw [readItems, read]
  simp only [comma, skipped, others]

/-- A member in front of the closing brace is the last. -/
theorem readMembers_last {name : String} (visible : skipSpace text = text)
    (read : readValue steps room text = .ok (value, '}' :: rest)) :
    readMembers (steps + 1) room (writeString name ++ ':' :: ' ' :: text) =
      .ok ([(name, value)], rest) := by
  have colon : skipSpace (':' :: ' ' :: text) = ':' :: ' ' :: text := rfl
  have skipped : skipSpace (' ' :: text) = text := visible
  have brace : skipSpace ('}' :: rest) = '}' :: rest := rfl
  rw [writeString_append, readMembers, readChars_written]
  simp only [colon, skipped, read, brace]

/-- Behind a member and a comma the others are read. -/
theorem readMembers_more {name : String} {following : List Char}
    {members : List (String × Json)} (visible : skipSpace text = text)
    (read : readValue steps room text = .ok (value, ',' :: ' ' :: following))
    (nextVisible : skipSpace following = following)
    (others : readMembers steps room following = .ok (members, rest)) :
    readMembers (steps + 1) room (writeString name ++ ':' :: ' ' :: text) =
      .ok ((name, value) :: members, rest) := by
  have colon : skipSpace (':' :: ' ' :: text) = ':' :: ' ' :: text := rfl
  have skipped : skipSpace (' ' :: text) = text := visible
  have comma : skipSpace (',' :: ' ' :: following) = ',' :: ' ' :: following := rfl
  have nextSkipped : skipSpace (' ' :: following) = following := nextVisible
  rw [writeString_append, readMembers, readChars_written]
  simp only [colon, skipped, read, comma, nextSkipped, others]

/-! ## Objects -/

/-- A field of a new name goes to the end. -/
theorem setField_of_new {name : String} (value : Json) {fields : List (String × Json)}
    (new : name ∉ fields.map Prod.fst) :
    setField name value fields = fields ++ [(name, value)] := by
  induction fields with
  | nil => rfl
  | cons field fields ih =>
      obtain ⟨first, others⟩ : name ≠ field.1 ∧ name ∉ fields.map Prod.fst := by
        simpa using new
      have differs : (field.1 == name) = false := beq_eq_false_iff_ne.mpr first.symm
      rw [setField, ih others]
      simp [differs]

/-- Members with distinct names are the fields of their object as they stand. -/
theorem fieldsOf_of_nodup {members : List (String × Json)}
    (distinct : (members.map Prod.fst).Nodup) : fieldsOf members = members := by
  have added : ∀ fields : List (String × Json), ((fields ++ members).map Prod.fst).Nodup →
      members.foldl (fun fields member => setField member.1 member.2 fields) fields =
        fields ++ members := by
    clear distinct
    induction members with
    | nil => simp
    | cons member members ih =>
        intro fields distinct
        have new : member.1 ∉ fields.map Prod.fst := by
          simp only [List.map_append, List.map_cons, List.nodup_append, List.mem_cons] at distinct
          exact fun within => distinct.2.2 _ within _ (Or.inl rfl) rfl
        rw [List.foldl_cons, setField_of_new _ new, ih _ (by simpa using distinct)]
        simp
  exact added [] distinct

/-! ## Whole values -/

theorem endsValue_bracket (rest : List Char) : EndsValue (']' :: rest) := Or.inr (Or.inl rfl)

theorem endsValue_brace (rest : List Char) : EndsValue ('}' :: rest) := Or.inr (Or.inr rfl)

theorem endsValue_comma (rest : List Char) : EndsValue (',' :: rest) := Or.inl rfl

theorem readValue_null : readValue (steps + 1) room (write .null ++ rest) = .ok (.null, rest) :=
  readValue_scalar (hasPlainFront_cons (by decide) (by decide) (by decide) _)

theorem readValue_bool (value : Bool) :
    readValue (steps + 1) room (write (.bool value) ++ rest) = .ok (.bool value, rest) := by
  cases value with
  | true => exact readValue_scalar (hasPlainFront_cons (by decide) (by decide) (by decide) _)
  | false => exact readValue_scalar (hasPlainFront_cons (by decide) (by decide) (by decide) _)

/-- No written items begin with space. -/
theorem skipSpace_writeItems {item : Json} (plain : IsPlain item) (items : List Json) :
    skipSpace (writeItems (item :: items) ++ rest) = writeItems (item :: items) ++ rest := by
  obtain ⟨first, more, written, visible, -⟩ := writeItems_begins plain items
  rw [written, List.cons_append, skipSpace_of_not_space visible]

theorem skipSpace_writeFields (field : String × Json) (fields : List (String × Json)) :
    skipSpace (writeFields (field :: fields) ++ rest) = writeFields (field :: fields) ++ rest := by
  obtain ⟨more, written⟩ := writeFields_begins field fields
  rw [written]
  rfl

/-- A value is plain and, where it is written, the reader gives it and stops behind it. -/
structure ReadsBack (room : Nat) (value : Json) : Prop where
  plain : IsPlain value
  reads : ∀ {steps : Nat} {rest : List Char}, 2 * (write value).length ≤ steps → EndsValue rest →
    readValue steps room (write value ++ rest) = .ok (value, rest)

/-- Every value takes a step of the reader. -/
theorem ReadsBack.of_succ (plain : IsPlain value)
    (reads : ∀ {steps : Nat} {rest : List Char}, 2 * (write value).length ≤ steps + 1 →
      EndsValue rest → readValue (steps + 1) room (write value ++ rest) = .ok (value, rest)) :
    ReadsBack room value where
  plain := plain
  reads := by
    intro steps rest enough ends
    have positive := length_write_pos plain
    obtain ⟨steps, rfl⟩ : ∃ fewer, steps = fewer + 1 := ⟨steps - 1, by omega⟩
    exact reads enough ends

/-- Written items read back if each of them does. -/
theorem readItems_writeItems {item : Json} {items : List Json}
    (read : ∀ each ∈ item :: items, ReadsBack room each)
    (enough : 2 * (writeItems (item :: items)).length ≤ steps) :
    readItems steps room (writeItems (item :: items) ++ rest) = .ok (item :: items, rest) := by
  induction items generalizing item steps with
  | nil =>
      have first := read item List.mem_cons_self
      simp only [writeItems_one, List.length_append, List.length_singleton] at enough
      obtain ⟨steps, rfl⟩ : ∃ fewer, steps = fewer + 1 := ⟨steps - 1, by omega⟩
      rw [writeItems_one, List.append_assoc]
      exact readItems_last (first.reads (by omega) (endsValue_bracket rest))
  | cons next items ih =>
      have first := read item List.mem_cons_self
      have second := read next (List.mem_cons_of_mem item List.mem_cons_self)
      simp only [writeItems_more, List.length_append, List.length_cons] at enough
      obtain ⟨steps, rfl⟩ : ∃ fewer, steps = fewer + 1 := ⟨steps - 1, by omega⟩
      rw [writeItems_more, List.append_assoc, List.cons_append, List.cons_append]
      have others : readItems steps room (writeItems (next :: items) ++ rest) =
          .ok (next :: items, rest) :=
        ih (fun each member => read each (List.mem_cons_of_mem item member)) (by omega)
      exact readItems_more (first.reads (by omega) (endsValue_comma _))
        (skipSpace_writeItems second.plain items) others

/-- Written fields read back if the value of each of them does. -/
theorem readMembers_writeFields {field : String × Json} {fields : List (String × Json)}
    (read : ∀ each ∈ field :: fields, ReadsBack room each.2)
    (enough : 2 * (writeFields (field :: fields)).length ≤ steps) :
    readMembers steps room (writeFields (field :: fields) ++ rest) =
      .ok (field :: fields, rest) := by
  induction fields generalizing field steps with
  | nil =>
      have first := read field List.mem_cons_self
      simp only [writeFields_one, List.length_append, List.length_cons] at enough
      obtain ⟨steps, rfl⟩ : ∃ fewer, steps = fewer + 1 := ⟨steps - 1, by omega⟩
      rw [writeFields_one, List.append_assoc, List.cons_append, List.cons_append,
        List.append_assoc]
      exact readMembers_last (skipSpace_write first.plain _)
        (first.reads (by omega) (endsValue_brace rest))
  | cons next fields ih =>
      have first := read field List.mem_cons_self
      simp only [writeFields_more, List.length_append, List.length_cons] at enough
      obtain ⟨steps, rfl⟩ : ∃ fewer, steps = fewer + 1 := ⟨steps - 1, by omega⟩
      rw [writeFields_more, List.append_assoc, List.cons_append, List.cons_append,
        List.append_assoc, List.cons_append, List.cons_append]
      have others : readMembers steps room (writeFields (next :: fields) ++ rest) =
          .ok (next :: fields, rest) :=
        ih (fun each member => read each (List.mem_cons_of_mem field member)) (by omega)
      exact readMembers_more (skipSpace_write first.plain _)
        (first.reads (by omega) (endsValue_comma _)) (skipSpace_writeFields next fields) others

/-- A written array reads back if its items do. -/
theorem readValue_arr {items : List Json} (read : ∀ item ∈ items, ReadsBack room item)
    (enough : 2 * (write (.arr items)).length ≤ steps) :
    readValue steps (room + 1) (write (.arr items) ++ rest) = .ok (.arr items, rest) := by
  rw [write, List.length_cons] at enough
  obtain ⟨steps, rfl⟩ : ∃ fewer, steps = fewer + 1 := ⟨steps - 1, by omega⟩
  cases items with
  | nil => rfl
  | cons item items =>
      have all : readItems steps room (writeItems (item :: items) ++ rest) =
          .ok (item :: items, rest) :=
        readItems_writeItems read (by omega)
      obtain ⟨first, more, written, begins⟩ :=
        writeItems_begins (read item List.mem_cons_self).plain items
      rw [write]
      rw [written, List.cons_append] at all ⊢
      exact readValue_array begins all

/-- A written object reads back if its fields do and no name stands twice. -/
theorem readValue_obj {fields : List (String × Json)}
    (distinct : (fields.map Prod.fst).Nodup) (read : ∀ field ∈ fields, ReadsBack room field.2)
    (enough : 2 * (write (.obj fields)).length ≤ steps) :
    readValue steps (room + 1) (write (.obj fields) ++ rest) = .ok (.obj fields, rest) := by
  rw [write, List.length_cons] at enough
  obtain ⟨steps, rfl⟩ : ∃ fewer, steps = fewer + 1 := ⟨steps - 1, by omega⟩
  cases fields with
  | nil => rfl
  | cons field fields =>
      have all : readMembers steps room (writeFields (field :: fields) ++ rest) =
          .ok (field :: fields, rest) :=
        readMembers_writeFields read (by omega)
      obtain ⟨more, written⟩ := writeFields_begins field fields
      rw [write]
      rw [written, List.cons_append] at all ⊢
      rw [List.cons_append, readValue_object all, fieldsOf_of_nodup distinct]

/-- An item lies no deeper than all of them together. -/
theorem depth_le_itemsDepth {item : Json} {items : List Json} (member : item ∈ items) :
    item.depth ≤ itemsDepth items := by
  induction items with
  | nil => cases member
  | cons first items ih =>
      rw [itemsDepth]
      rcases List.mem_cons.mp member with rfl | later
      · exact Nat.le_max_left _ _
      · exact Nat.le_trans (ih later) (Nat.le_max_right _ _)

theorem depth_le_fieldsDepth {field : String × Json} {fields : List (String × Json)}
    (member : field ∈ fields) : field.2.depth ≤ fieldsDepth fields := by
  induction fields with
  | nil => cases member
  | cons first fields ih =>
      rw [fieldsDepth]
      rcases List.mem_cons.mp member with rfl | later
      · exact Nat.le_max_left _ _
      · exact Nat.le_trans (ih later) (Nat.le_max_right _ _)

/-- A value needs room for itself. -/
theorem exists_room (shallow : value.depth ≤ room) : ∃ fewer, room = fewer + 1 := by
  have positive : 0 < value.depth := by
    cases value <;> simp [depth]
  exact ⟨room - 1, by omega⟩

/-- **A plain value reads back from its text, and the reader stops behind it.** -/
theorem readsBack {value : Json} (plain : IsPlain value) (shallow : value.depth ≤ room) :
    ReadsBack room value := by
  induction value using Json.induction generalizing room with
  | null => exact .of_succ plain fun _ _ => readValue_null
  | bool value => exact .of_succ plain fun _ _ => readValue_bool value
  | int value =>
      have taken : IsTakenInteger value := by rwa [IsPlain] at plain
      exact .of_succ plain fun _ ends => readValue_int taken ends
  | float value => simp only [IsPlain] at plain
  | str value => exact .of_succ plain fun _ _ => readValue_writeString _ room value _
  | arr items ih =>
      -- What an array holds is less deep by one, and read with room for one less.
      obtain ⟨room, rfl⟩ := exists_room shallow
      rw [depth] at shallow
      have each : ∀ item ∈ items, IsPlain item := by rwa [IsPlain, itemsArePlain_iff] at plain
      refine ⟨plain, fun enough _ => readValue_arr (fun item member => ?_) enough⟩
      exact ih item member (each item member)
        (Nat.le_trans (depth_le_itemsDepth member) (Nat.le_of_succ_le_succ shallow))
  | obj fields ih =>
      obtain ⟨room, rfl⟩ := exists_room shallow
      rw [depth] at shallow
      have each : (fields.map Prod.fst).Nodup ∧ ∀ field ∈ fields, IsPlain field.2 := by
        rwa [IsPlain, fieldsArePlain_iff] at plain
      refine ⟨plain, fun enough _ => readValue_obj each.1 (fun field member => ?_) enough⟩
      exact ih field member (each.2 field member)
        (Nat.le_trans (depth_le_fieldsDepth member) (Nat.le_of_succ_le_succ shallow))

/-! ## Documents -/

/-- A plain value that is not too deep reads back from its text. -/
theorem readText_write {value : Json} (plain : IsPlain value)
    (shallow : value.depth ≤ nestingLimit) : readText (write value) = .ok value := by
  have whole : readValue (2 * (write value).length + 2) nestingLimit (write value ++ []) =
      .ok (value, []) :=
    (readsBack plain shallow).reads (Nat.le_add_right _ _) trivial
  have visible := skipSpace_write plain []
  rw [List.append_nil] at whole visible
  have noMark : ∀ more, write value ≠ '\uFEFF' :: more := by
    intro more marked
    have ascii := write_ascii plain '\uFEFF' (marked ▸ List.mem_cons_self)
    exact absurd ascii (by decide)
  rw [readText, readWhole, visible, whole]
  · rfl
  · exact noMark

/-- A document in bytes is read in any encoding in which it is decoded. -/
theorem readDocument_of_decodeDocument {value : Json} {bytes : List UInt8} (plain : IsPlain value)
    (shallow : value.depth ≤ nestingLimit)
    (decoded : Text.decodeDocument bytes = .ok (write value)) : readDocument bytes = .ok value := by
  have whole : readWhole (write value) = .ok value := by
    have found := readText_write plain shallow
    unfold readText at found
    split at found
    · cases found
    · exact found
  rw [readDocument, decoded]
  simp only [whole]

/-- **A plain value that is not too deep reads back from its text.** -/
theorem read_render {value : Json} (plain : IsPlain value)
    (shallow : value.depth ≤ nestingLimit) : read value.render = .ok value := by
  rw [read, render, String.toList_ofList, readText_write plain shallow]
  rfl

/-- **The text of a plain value is ASCII.** -/
theorem render_ascii {value : Json} (plain : IsPlain value) :
    ∀ c ∈ value.render.toList, c.toNat < 0x80 := by
  rw [render, String.toList_ofList]
  exact write_ascii plain

end Soliscope.Json
