import Soliscope.Proofs.Outcomes
import Soliscope.Schema.Field

/-! # What validations accept

Every way of building a validation has one law here, which says exactly which value it accepts.
With these laws a document that was accepted can be taken apart field by field, and the other way
round a document with the right fields is accepted. The issues of what is refused do not matter
here.
-/

namespace Soliscope.Schema

namespace Validation

variable {α β : Type}

/-- What is accepted is one value. -/
theorem accepted_inj {first second : α} :
    (accepted first : Validation α) = accepted second ↔ first = second := by
  constructor
  · intro same
    cases same
    rfl
  · rintro rfl
    rfl

/-- What has a flaw is not accepted. -/
theorem flawed_ne_accepted {flaw : Flaw} {value : α} : flawed flaw ≠ accepted value := by
  intro same
  cases same

/-- Where a value stands does not decide whether it is accepted. -/
theorem under_eq_accepted {key : Key} {validation : Validation α} {value : α} :
    validation.under key = accepted value ↔ validation = accepted value := by
  cases validation with
  | accepted found => rfl
  | refused issues => exact ⟨fun same => (by cases same), fun same => (by cases same)⟩

/-- A value that is made over is accepted if the first one is. -/
theorem map_eq_accepted {f : α → β} {validation : Validation α} {value : β} :
    validation.map f = accepted value ↔
      ∃ found, validation = accepted found ∧ f found = value := by
  cases validation with
  | accepted found =>
      constructor
      · intro same
        exact ⟨found, rfl, accepted_inj.mp same⟩
      · rintro ⟨other, same, rfl⟩
        cases same
        rfl
  | refused issues =>
      exact ⟨fun same => (by cases same), fun ⟨_, same, _⟩ => (by cases same)⟩

/-- Two parts are accepted if each of them is. -/
theorem combine_eq_accepted {first : Validation (α → β)} {second : Validation α} {value : β} :
    first.combine second = accepted value ↔
      ∃ f found, first = accepted f ∧ second = accepted found ∧ f found = value := by
  constructor
  · intro same
    cases first with
    | refused issues => cases second <;> cases same
    | accepted f =>
        cases second with
        | refused issues => cases same
        | accepted found => exact ⟨f, found, rfl, rfl, accepted_inj.mp same⟩
  · rintro ⟨f, found, rfl, rfl, rfl⟩
    rfl

theorem fmap_eq_accepted {f : α → β} {validation : Validation α} {value : β} :
    f <$> validation = accepted value ↔
      ∃ found, validation = accepted found ∧ f found = value :=
  map_eq_accepted

theorem seq_eq_accepted {first : Validation (α → β)} {second : Validation α} {value : β} :
    first <*> second = accepted value ↔
      ∃ f found, first = accepted f ∧ second = accepted found ∧ f found = value :=
  combine_eq_accepted

/-- What is built of two parts is accepted when both are. -/
theorem fmap_seq_eq_accepted {γ : Type} {f : α → β → γ} {first : Validation α}
    {second : Validation β} {value : γ} :
    f <$> first <*> second = accepted value ↔
      ∃ one two, first = accepted one ∧ second = accepted two ∧ f one two = value := by
  rw [seq_eq_accepted]
  simp only [fmap_eq_accepted]
  constructor
  · rintro ⟨_, two, ⟨one, firstRead, rfl⟩, secondRead, rfl⟩
    exact ⟨one, two, firstRead, secondRead, rfl⟩
  · rintro ⟨one, two, firstRead, secondRead, rfl⟩
    exact ⟨f one, two, ⟨one, firstRead, rfl⟩, secondRead, rfl⟩

/-- The same for three parts. -/
theorem fmap_seq_seq_eq_accepted {γ δ : Type} {f : α → β → γ → δ} {first : Validation α}
    {second : Validation β} {third : Validation γ} {value : δ} :
    f <$> first <*> second <*> third = accepted value ↔
      ∃ one two three, first = accepted one ∧ second = accepted two ∧ third = accepted three ∧
        f one two three = value := by
  rw [seq_eq_accepted]
  simp only [fmap_seq_eq_accepted]
  constructor
  · rintro ⟨_, three, ⟨one, two, firstRead, secondRead, rfl⟩, thirdRead, rfl⟩
    exact ⟨one, two, three, firstRead, secondRead, thirdRead, rfl⟩
  · rintro ⟨one, two, three, firstRead, secondRead, thirdRead, rfl⟩
    exact ⟨f one two, three, ⟨one, two, firstRead, secondRead, rfl⟩, thirdRead, rfl⟩

/-- A check after another one is accepted if both are. -/
theorem andThen_eq_accepted {next : α → Validation β} {validation : Validation α} {value : β} :
    validation.andThen next = accepted value ↔
      ∃ found, validation = accepted found ∧ next found = accepted value := by
  cases validation with
  | accepted found =>
      constructor
      · intro same
        exact ⟨found, rfl, same⟩
      · rintro ⟨other, same, rest⟩
        cases same
        exact rest
  | refused issues =>
      exact ⟨fun same => (by cases same), fun ⟨_, same, _⟩ => (by cases same)⟩

/-- A list of validations is accepted when each of them is. -/
theorem collect_eq_accepted {validations : List (Validation α)} {values : List α} :
    collect validations = accepted values ↔
      List.Forall₂ (fun validation value => validation = accepted value) validations values := by
  induction validations generalizing values with
  | nil =>
      rw [collect, accepted_inj, List.forall₂_nil_left_iff]
      exact eq_comm
  | cons first rest ih =>
      rw [collect, combine_eq_accepted]
      constructor
      · rintro ⟨f, more, firstAccepted, restAccepted, rfl⟩
        obtain ⟨value, rfl, rfl⟩ := map_eq_accepted.mp firstAccepted
        exact .cons rfl (ih.mp restAccepted)
      · intro all
        obtain ⟨value, more, firstAccepted, restAll, rfl⟩ := List.forall₂_cons_left_iff.mp all
        subst firstAccepted
        exact ⟨List.cons value, more, rfl, ih.mpr restAll, rfl⟩

end Validation

open Validation

variable {α : Type}

/-- A text is a string value. -/
theorem text_eq_accepted {value : Json} {found : String} :
    text value = accepted found ↔ value = .str found := by
  cases value with
  | str written => simp only [text, accepted_inj, Json.str.injEq]
  | _ => simp only [text, flawed_ne_accepted, reduceCtorEq]

/-- A limited text is a string value without a flaw. -/
theorem limitedText_eq_accepted {limits : TextLimits} {value : Json} {found : String} :
    limitedText limits value = accepted found ↔
      value = .str found ∧ limits.flaw? found.toList = none := by
  rw [limitedText, andThen_eq_accepted]
  simp only [text_eq_accepted]
  constructor
  · rintro ⟨written, rfl, rest⟩
    cases flaw : limits.flaw? written.toList with
    | some found =>
        rw [flaw] at rest
        exact absurd rest flawed_ne_accepted
    | none =>
        rw [flaw] at rest
        obtain rfl := accepted_inj.mp rest
        exact ⟨rfl, flaw⟩
  · rintro ⟨rfl, fits⟩
    exact ⟨found, rfl, by rw [fits]⟩

/-- Where only the form of a text is limited, a text within the limits has this form. -/
theorem flaw?_eq_none_of_form {form : TextForm} {text : List Char} :
    TextLimits.flaw? { form := some form } text = none ↔ form.accepts text = true := by
  rw [TextLimits.flaw?]
  cases accepts : form.accepts text <;> simp [accepts]

/-- A value that may be null is null or accepted. -/
theorem nullable_eq_accepted {reader : Reader α} {value : Json} {found : Option α} :
    nullable reader value = accepted found ↔
      (value = .null ∧ found = none) ∨
        (value ≠ .null ∧ ∃ inner, reader value = accepted inner ∧ found = some inner) := by
  by_cases isNull : value = .null
  · subst isNull
    simp only [nullable, accepted_inj, true_and, ne_eq, not_true_eq_false, false_and, or_false]
    exact eq_comm
  · have unfolded : nullable reader value = (reader value).map some := by
      cases value <;> first | rfl | exact absurd rfl isNull
    rw [unfolded, map_eq_accepted]
    simp only [isNull, false_and, false_or, ne_eq, not_false_eq_true, true_and]
    exact exists_congr fun inner => and_congr_right fun _ => eq_comm

/-- Something that may be missing or null is either, or it was read. -/
theorem cases_of_nullable {reader : Reader α} {printed : Option Json} {found : Option α}
    (accepts : nullable reader (printed.getD .null) = accepted found) :
    ((printed = none ∨ printed = some .null) ∧ found = none) ∨
      ∃ value inner, printed = some value ∧ reader value = accepted inner ∧ found = some inner := by
  rcases nullable_eq_accepted.mp accepts with ⟨isNull, isNone⟩ | ⟨notNull, inner, read, isSome⟩
  · cases printed with
    | none => exact Or.inl ⟨Or.inl rfl, isNone⟩
    | some value => exact Or.inl ⟨Or.inr (congrArg some isNull), isNone⟩
  · cases printed with
    | none => exact (notNull rfl).elim
    | some value => exact Or.inr ⟨value, inner, rfl, read, isSome⟩

/-- The items of a list, read one by one. -/
theorem list_eq_accepted {reader : Reader α} {value : Json} {found : List α} :
    list reader value = accepted found ↔
      ∃ items, value = .arr items ∧
        List.Forall₂ (fun item inner => reader item = accepted inner) items found := by
  cases value with
  | arr items =>
      rw [list, collect_eq_accepted, List.forall₂_map_left_iff]
      simp only [under_eq_accepted, Json.arr.injEq, exists_eq_left']
      rw [← List.forall₂_map_left_iff (f := Prod.fst)
        (R := fun item inner => reader item = accepted inner), List.zipIdx_map_fst]
  | _ => simp only [list, flawed_ne_accepted, reduceCtorEq, false_and, exists_false]

/-- The entries of a dictionary, read one by one; the names stay. -/
theorem dictionary_eq_accepted {reader : Reader α} {value : Json} {found : List (String × α)} :
    dictionary reader value = accepted found ↔
      ∃ fields, value = .obj fields ∧
        List.Forall₂ (fun field inner => field.1 = inner.1 ∧ reader field.2 = accepted inner.2)
          fields found := by
  cases value with
  | obj fields =>
      rw [dictionary, collect_eq_accepted, List.forall₂_map_left_iff]
      simp only [map_eq_accepted, under_eq_accepted, Json.obj.injEq, exists_eq_left', Prod.ext_iff]
      have same (field : String × Json) (inner : String × α) :
          (∃ made, reader field.2 = accepted made ∧ field.1 = inner.1 ∧ made = inner.2) ↔
            field.1 = inner.1 ∧ reader field.2 = accepted inner.2 := by
        constructor
        · rintro ⟨made, read, names, rfl⟩
          exact ⟨names, read⟩
        · rintro ⟨names, read⟩
          exact ⟨inner.2, read, names, rfl⟩
      simp only [same]
  | _ => simp only [dictionary, flawed_ne_accepted, reduceCtorEq, false_and, exists_false]

/-- A dictionary of anything is taken over as it is. -/
theorem dictionary_anything_eq_accepted {value : Json} {found : Fields} :
    dictionary anything value = accepted found ↔ value = .obj found := by
  rw [dictionary_eq_accepted]
  simp only [anything, accepted_inj, ← Prod.ext_iff, List.forall₂_eq_eq_eq]
  constructor
  · rintro ⟨fields, rfl, rfl⟩
    rfl
  · rintro rfl
    exact ⟨found, rfl, rfl⟩

/-- What a list was read as comes from its items. -/
theorem exists_of_mem_list {reader : Reader α} {value : Json} {found : List α}
    (accepted : list reader value = .accepted found) {inner : α} (member : inner ∈ found) :
    ∃ item, reader item = .accepted inner := by
  obtain ⟨items, -, each⟩ := list_eq_accepted.mp accepted
  obtain ⟨item, -, read⟩ := exists_of_forall₂ each member
  exact ⟨item, read⟩

/-- A document is an object whose fields are accepted. -/
theorem document_eq_accepted {origin : Origin} {title : String} {read : Fields → Validation α}
    {value : Json} {found : α} :
    document origin title read value = accepted found ↔
      ∃ fields, value = .obj fields ∧ read fields = accepted found := by
  cases value with
  | obj fields => simp only [document, Json.obj.injEq, exists_eq_left']
  | _ => simp only [document, flawed_ne_accepted, reduceCtorEq, false_and, exists_false]

/-- A required field is there and is accepted. -/
theorem required_eq_accepted {name : String} {reader : Reader α} {fields : Fields} {found : α} :
    required name reader fields = accepted found ↔
      ∃ value, fields.lookup name = some value ∧ reader value = accepted found := by
  unfold required
  cases fields.lookup name with
  | some value => simp only [under_eq_accepted, Option.some.injEq, exists_eq_left']
  | none =>
      simp only [under_eq_accepted, flawed_ne_accepted, reduceCtorEq, false_and, exists_false]

/-- A field with a default is missing or is accepted. -/
theorem defaulted_eq_accepted {name : String} {missing : α} {reader : Reader α} {fields : Fields}
    {found : α} :
    defaulted name missing reader fields = accepted found ↔
      (fields.lookup name = none ∧ missing = found) ∨
        ∃ value, fields.lookup name = some value ∧ reader value = accepted found := by
  unfold defaulted
  cases fields.lookup name with
  | some value =>
      simp only [under_eq_accepted, reduceCtorEq, false_and, false_or, Option.some.injEq,
        exists_eq_left']
  | none => simp only [accepted_inj, true_and, reduceCtorEq, false_and, exists_false, or_false]

section StandIn

variable {name other : String} {missing found : α} {reader : Reader α} {fields : Fields}
  {standIn : Json}

/-- A field that may be missing is read as if a value stood in its place. -/
theorem defaulted_eq_accepted_of_standIn (stands : reader standIn = accepted missing) :
    defaulted name missing reader fields = accepted found ↔
      reader ((fields.lookup name).getD standIn) = accepted found := by
  unfold defaulted
  cases fields.lookup name with
  | some value => rw [under_eq_accepted, Option.getD_some]
  | none => rw [Option.getD_none, stands]

/-- A field that goes by two names is read from the first that is there. -/
theorem defaultedAs_eq_accepted_of_standIn (stands : reader standIn = accepted missing) :
    defaultedAs name other missing reader fields = accepted found ↔
      reader (((fields.lookup name).or (fields.lookup other)).getD standIn) = accepted found := by
  unfold defaultedAs
  cases fields.lookup name with
  | some value => rw [under_eq_accepted, Option.some_or, Option.getD_some]
  | none => rw [defaulted_eq_accepted_of_standIn stands, Option.none_or]

end StandIn

/-- A field that may be null is null when it is missing. -/
theorem defaulted_nullable_eq_accepted {name : String} {reader : Reader α} {fields : Fields}
    {found : Option α} :
    defaulted name none (nullable reader) fields = accepted found ↔
      nullable reader ((fields.lookup name).getD .null) = accepted found :=
  defaulted_eq_accepted_of_standIn rfl

/-- The same for a field that goes by two names. -/
theorem defaultedAs_nullable_eq_accepted {name other : String} {reader : Reader α}
    {fields : Fields} {found : Option α} :
    defaultedAs name other none (nullable reader) fields = accepted found ↔
      nullable reader (((fields.lookup name).or (fields.lookup other)).getD .null) =
        accepted found :=
  defaultedAs_eq_accepted_of_standIn rfl

/-- A reader that takes over what is written, as `written` spells it, does so where null is allowed,
too. -/
theorem nullable_eq_accepted_of_written {reader : Reader α} {written : α → Json}
    (taken : ∀ {value found}, reader value = accepted found ↔ value = written found)
    (notNull : ∀ found, written found ≠ .null) {value : Json} {found : Option α} :
    nullable reader value = accepted found ↔ value = (found.map written).getD .null := by
  rw [nullable_eq_accepted]
  simp only [taken]
  cases found with
  | none => simp
  | some given =>
      simp only [reduceCtorEq, and_false, Option.some.injEq, false_or, Option.map_some,
        Option.getD_some]
      constructor
      · rintro ⟨-, inner, rfl, rfl⟩
        rfl
      · rintro rfl
        exact ⟨notNull given, given, rfl, rfl⟩

/-- A text that may be null is accepted as it stands. -/
theorem nullable_text_eq_accepted {value : Json} {found : Option String} :
    nullable text value = accepted found ↔ value = Json.ofText? found := by
  have spelled : Json.ofText? found = (found.map .str).getD .null := by
    cases found <;> rfl
  rw [spelled]
  exact nullable_eq_accepted_of_written text_eq_accepted fun _ same => (by cases same)

theorem nullable_dictionary_eq_accepted {value : Json} {found : Option Fields} :
    nullable (dictionary anything) value = accepted found ↔
      value = (found.map .obj).getD .null :=
  nullable_eq_accepted_of_written dictionary_anything_eq_accepted fun _ same => (by cases same)

end Soliscope.Schema
