import Mathlib.Data.List.Nodup
import Soliscope.Json.Reader

/-! # Names in objects that were read

A text may give a name twice in one object. What is read from it never does: of members with one
name the object keeps the place of the first and the value of the last (`fieldsOf_distinct`). This
holds of every object at any depth of a document (`read_namesOnce`). What each of the three readers
can give is said once (`readValue_cases`, `readItems_cases`, `readMembers_cases`), and the induction
is on the steps that they share.
-/

namespace Soliscope.Json

/-- All objects in a value hold each name once. -/
inductive NamesOnce : Json → Prop
  | null : NamesOnce .null
  | bool (value : Bool) : NamesOnce (.bool value)
  | int (value : Int) : NamesOnce (.int value)
  | float (value : Float) : NamesOnce (.float value)
  | str (value : String) : NamesOnce (.str value)
  | arr {items : List Json} (each : ∀ item ∈ items, NamesOnce item) : NamesOnce (.arr items)
  | obj {fields : List (String × Json)} (distinct : (fields.map Prod.fst).Nodup)
      (each : ∀ field ∈ fields, NamesOnce field.2) : NamesOnce (.obj fields)

theorem NamesOnce.names {fields : List (String × Json)} (once : NamesOnce (.obj fields)) :
    (fields.map Prod.fst).Nodup := by
  cases once with
  | obj distinct _ => exact distinct

/-- A field of a value that names everything once does so, too. -/
theorem NamesOnce.field {value inner : Json} {name : String} (once : value.NamesOnce)
    (found : value.field? name = some inner) : inner.NamesOnce := by
  cases once with
  | obj _ each =>
      obtain ⟨before, after, rfl, -⟩ := List.lookup_eq_some_iff.mp found
      exact each (name, inner) (by simp)
  | _ => cases found

/-! ## Objects from members -/

section Fields

variable {α : Type} {name : String} {value : α} {fields : List (String × α)}

/-- A field that is put into an object adds its name, if it is new. -/
theorem map_fst_setField (name : String) (value : α) (fields : List (String × α)) :
    (setField name value fields).map Prod.fst =
      if name ∈ fields.map Prod.fst then fields.map Prod.fst else fields.map Prod.fst ++ [name] := by
  induction fields with
  | nil => rfl
  | cons field rest ih =>
      obtain ⟨other, old⟩ := field
      by_cases same : other = name
      · subst same
        simp [setField]
      · have differs : (other == name) = false := beq_eq_false_iff_ne.mpr same
        simp only [setField, differs, Bool.false_eq_true, ↓reduceIte, List.map_cons, ih,
          List.mem_cons, Ne.symm same, false_or]
        split <;> rfl

/-- Setting a field adds no second one of its name. -/
theorem setField_distinct (distinct : (fields.map Prod.fst).Nodup) :
    ((setField name value fields).map Prod.fst).Nodup := by
  rw [map_fst_setField]
  split
  · exact distinct
  · rename_i new
    exact List.nodup_append.mpr ⟨distinct, List.nodup_singleton name, fun other member last within =>
      fun same => new (List.mem_singleton.mp within ▸ same ▸ member)⟩

/-- A field after setting one is that one or was there before. -/
theorem mem_setField {field : String × α} (member : field ∈ setField name value fields) :
    field = (name, value) ∨ field ∈ fields := by
  induction fields with
  | nil => exact Or.inl (List.mem_singleton.mp member)
  | cons first rest ih =>
      obtain ⟨other, old⟩ := first
      by_cases same : other = name
      · subst same
        rw [setField, beq_self_eq_true, if_pos rfl] at member
        rcases List.mem_cons.mp member with isNew | later
        · exact Or.inl isNew
        · exact Or.inr (List.mem_cons_of_mem _ later)
      · rw [setField, beq_eq_false_iff_ne.mpr same, if_neg Bool.false_ne_true] at member
        rcases List.mem_cons.mp member with isFirst | later
        · exact Or.inr (isFirst ▸ List.mem_cons_self)
        · exact (ih later).imp_right (List.mem_cons_of_mem _)

/-- However many fields are set, each name stands once and each field comes from somewhere. -/
theorem foldl_setField (members fields : List (String × α)) (distinct : (fields.map Prod.fst).Nodup) :
    ((members.foldl (fun fields member => setField member.1 member.2 fields) fields).map
        Prod.fst).Nodup ∧
      ∀ field ∈ members.foldl (fun fields member => setField member.1 member.2 fields) fields,
        field ∈ members ∨ field ∈ fields := by
  induction members generalizing fields with
  | nil => exact ⟨distinct, fun _ member => Or.inr member⟩
  | cons first rest ih =>
      obtain ⟨once, among⟩ := ih (setField first.1 first.2 fields) (setField_distinct distinct)
      refine ⟨once, fun field member => ?_⟩
      rcases among field member with later | earlier
      · exact Or.inl (List.mem_cons_of_mem first later)
      · rcases mem_setField earlier with rfl | old
        · exact Or.inl List.mem_cons_self
        · exact Or.inr old

/-- **An object holds each name once, whatever its members are.** -/
theorem fieldsOf_distinct (members : List (String × α)) :
    ((fieldsOf members).map Prod.fst).Nodup :=
  (foldl_setField members [] List.nodup_nil).1

/-- Every field of an object is one of its members. -/
theorem mem_of_mem_fieldsOf {members : List (String × α)} {field : String × α}
    (member : field ∈ fieldsOf members) : field ∈ members :=
  ((foldl_setField members [] List.nodup_nil).2 field member).resolve_right List.not_mem_nil

end Fields

/-! ## What the readers give -/

section Readers

variable {steps room : Nat} {text rest : List Char}

/-- A word is a value that holds no others. -/
theorem literal?_namesOnce {value : Json} (found : literal? text = some (value, rest)) :
    value.NamesOnce := by
  obtain ⟨⟨word, meant⟩, member, isWord⟩ := List.exists_of_findSome?_eq_some found
  obtain ⟨after, -, same⟩ := Option.map_eq_some_iff.mp isWord
  obtain ⟨rfl, -⟩ := Prod.mk.inj same
  simp only [literals, List.mem_cons, Prod.mk.injEq, List.not_mem_nil, or_false] at member
  rcases member with ⟨-, rfl⟩ | ⟨-, rfl⟩ | ⟨-, rfl⟩ | ⟨-, rfl⟩ | ⟨-, rfl⟩ | ⟨-, rfl⟩
  · exact .null
  · exact .bool true
  · exact .bool false
  · exact .float _
  · exact .float _
  · exact .float _

/-- A number names nothing. -/
theorem Numeral.value_namesOnce {numeral : Numeral} {value : Json}
    (found : numeral.value = .ok value) : value.NamesOnce := by
  unfold Numeral.value at found
  split at found
  · split at found
    · cases found
    · cases found
      exact .int _
  · cases found
    exact .float _

/-- A value is read from members, from items, or by itself. -/
theorem readValue_cases {value : Json}
    (found : readValue (steps + 1) room text = .ok (value, rest)) :
    (∃ room front members left, readMembers steps room front = .ok (members, left) ∧
      value = .obj (fieldsOf members)) ∨
    (∃ room front items left, readItems steps room front = .ok (items, left) ∧
      value = .arr items) ∨
    value.NamesOnce := by
  rw [readValue.eq_def] at found
  split at found
  case h_1 => cases found
  case h_2 =>
    split at found
    · cases found
      exact Or.inr (Or.inr (.str _))
    · cases found
  case h_3 => cases found
  case h_4 same =>
    cases same
    split at found
    · cases found
      exact Or.inr (Or.inr (.obj List.nodup_nil (List.forall_mem_nil _)))
    · split at found
      · rename_i members _ read
        cases found
        exact Or.inl ⟨_, _, members, _, read, rfl⟩
      · cases found
  case h_5 => cases found
  case h_6 same =>
    cases same
    split at found
    · cases found
      exact Or.inr (Or.inr (.arr (List.forall_mem_nil _)))
    · split at found
      · rename_i items _ read
        cases found
        exact Or.inr (Or.inl ⟨_, _, items, _, read, rfl⟩)
      · cases found
  case h_7 =>
    split at found
    · rename_i word
      cases found
      exact Or.inr (Or.inr (literal?_namesOnce word))
    · split at found
      · split at found
        · rename_i number
          cases found
          exact Or.inr (Or.inr (Numeral.value_namesOnce number))
        · cases found
      · cases found

/-- Items that are read are a first one and those behind a comma, if there is one. -/
theorem readItems_cases {items : List Json}
    (found : readItems (steps + 1) room text = .ok (items, rest)) :
    ∃ first others left, readValue steps room text = .ok (first, left) ∧ items = first :: others ∧
      (others = [] ∨ ∃ front left, readItems steps room front = .ok (others, left)) := by
  rw [readItems] at found
  split at found
  · cases found
  · rename_i first left read
    split at found
    · cases found
      exact ⟨first, [], left, read, rfl, Or.inl rfl⟩
    · split at found
      · rename_i others _ readOthers
        cases found
        exact ⟨first, others, left, read, rfl, Or.inr ⟨_, _, readOthers⟩⟩
      · cases found
    · cases found

theorem readMembers_cases {members : List (String × Json)}
    (found : readMembers (steps + 1) room text = .ok (members, rest)) :
    ∃ name first others front left, readValue steps room front = .ok (first, left) ∧
      members = (name, first) :: others ∧
      (others = [] ∨ ∃ front left, readMembers steps room front = .ok (others, left)) := by
  rw [readMembers.eq_def] at found
  split at found
  case h_1 same =>
    cases same
    split at found
    · cases found
    · split at found
      · split at found
        · cases found
        · rename_i first left read
          split at found
          · cases found
            exact ⟨_, first, [], _, left, read, rfl, Or.inl rfl⟩
          · split at found
            · rename_i others _ readOthers
              cases found
              exact ⟨_, first, others, _, left, read, rfl, Or.inr ⟨_, _, readOthers⟩⟩
            · cases found
          · cases found
      · cases found
  case h_2 => cases found

/-- The three readers give values whose objects hold each name once. -/
structure ReadsNamesOnce (steps : Nat) : Prop where
  value : ∀ {room text value rest}, readValue steps room text = .ok (value, rest) →
    NamesOnce value
  items : ∀ {room text items rest}, readItems steps room text = .ok (items, rest) →
    ∀ item ∈ items, NamesOnce item
  members : ∀ {room text members rest}, readMembers steps room text = .ok (members, rest) →
    ∀ member ∈ members, NamesOnce member.2

/-- What is read names everything once. The induction is on the steps that the readers share. -/
theorem readsNamesOnce (steps : Nat) : ReadsNamesOnce steps := by
  induction steps with
  | zero =>
      refine ⟨fun found => ?_, fun found => ?_, fun found => ?_⟩
      · rw [readValue] at found
        cases found
      · rw [readItems] at found
        cases found
      · rw [readMembers] at found
        · cases found
        · rintro steps rest ⟨⟩
  | succ steps ih =>
      refine ⟨fun found => ?_, fun found => ?_, fun found => ?_⟩
      · rcases readValue_cases found with
          ⟨_, _, members, _, read, rfl⟩ | ⟨_, _, items, _, read, rfl⟩ | alone
        · exact .obj (fieldsOf_distinct members) fun field member =>
            ih.members read field (mem_of_mem_fieldsOf member)
        · exact .arr (ih.items read)
        · exact alone
      · obtain ⟨first, others, _, read, rfl, rfl | ⟨_, _, readOthers⟩⟩ := readItems_cases found
        · exact List.forall_mem_singleton.mpr (ih.value read)
        · exact List.forall_mem_cons.mpr ⟨ih.value read, ih.items readOthers⟩
      · obtain ⟨name, first, others, _, _, read, rfl, rfl | ⟨_, _, readOthers⟩⟩ :=
          readMembers_cases found
        · exact List.forall_mem_singleton.mpr (ih.value read)
        · exact List.forall_mem_cons.mpr ⟨ih.value read, ih.members readOthers⟩

end Readers

theorem readWhole_namesOnce {text : List Char} {document : Json}
    (found : readWhole text = .ok document) : document.NamesOnce := by
  unfold readWhole at found
  split at found
  · cases found
  · rename_i value rest first
    split at found
    · cases found
      exact (readsNamesOnce _).value first
    · cases found

/-- **A document that was read holds each name once in each of its objects.** -/
theorem read_namesOnce {text : String} {document : Json} (found : read text = .ok document) :
    document.NamesOnce := by
  have stripped : readText text.toList = .ok document := by
    unfold read at found
    cases first : readText text.toList with
    | error fault =>
        rw [first] at found
        cases found
    | ok value =>
        rw [first] at found
        cases found
        rfl
  unfold readText at stripped
  split at stripped
  · cases stripped
  · exact readWhole_namesOnce stripped

end Soliscope.Json
