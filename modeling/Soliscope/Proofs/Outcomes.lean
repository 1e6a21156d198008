import Mathlib.Data.List.Forall2

/-! # Computations that may fail

When computations that may fail, one after the other, succeed: each of them does. They fail when one
of them does. Two computations that go step by step in the same way agree: they fail with the same
fault, or give values that are related (`Agree`).
-/

namespace Soliscope

/-- Two computations in a row succeed when the first does, and the second on what it gives. -/
theorem bind_eq_ok {ε α β : Type} {first : Except ε α} {next : α → Except ε β} {value : β} :
    first >>= next = .ok value ↔ ∃ found, first = .ok found ∧ next found = .ok value := by
  cases first with
  | error fault =>
      constructor
      · intro same
        cases same
      · rintro ⟨found, same, -⟩
        cases same
  | ok found =>
      constructor
      · intro same
        exact ⟨found, rfl, same⟩
      · rintro ⟨other, same, rest⟩
        cases same
        exact rest

/-- Two computations in a row fail when the first does, or the second on what it gives. -/
theorem bind_eq_error {ε α β : Type} {first : Except ε α} {next : α → Except ε β} {fault : ε} :
    first >>= next = .error fault ↔
      first = .error fault ∨ ∃ found, first = .ok found ∧ next found = .error fault := by
  cases first with
  | error other =>
      constructor
      · intro same
        cases same
        exact Or.inl rfl
      · rintro (same | ⟨found, same, -⟩)
        · cases same
          rfl
        · cases same
  | ok found =>
      constructor
      · intro same
        exact Or.inr ⟨found, rfl, same⟩
      · rintro (same | ⟨other, same, rest⟩)
        · cases same
        · cases same
          exact rest

theorem mapError_ok {ε φ α : Type} (change : ε → φ) (value : α) :
    (Except.ok value).mapError change = .ok value := rfl

theorem mapError_error {ε φ α : Type} (change : ε → φ) (fault : ε) :
    (Except.error fault : Except ε α).mapError change = .error (change fault) := rfl

/-- What is seen of two computations in a row depends on what is seen of the second. -/
theorem map_bind_congr {ε α β γ : Type} {first : Except ε α} {next other : α → Except ε β}
    {seen : β → γ} (same : ∀ found, first = .ok found →
      (next found).map seen = (other found).map seen) :
    (first >>= next).map seen = (first >>= other).map seen := by
  cases first with
  | error fault => rfl
  | ok found => exact same found rfl

/-- A check before a computation has to be passed. -/
theorem check_eq_ok {ε α : Type} {bad : Prop} [Decidable bad] {fault : ε}
    {next : PUnit → Except ε α} {value : α} :
    (if bad then throw fault >>= next else next ⟨⟩) = .ok value ↔
      ¬ bad ∧ next ⟨⟩ = .ok value := by
  by_cases failed : bad
  · simp only [failed, ↓reduceIte, not_true_eq_false, false_and, iff_false]
    intro same
    cases same
  · simp only [failed, ↓reduceIte, not_false_eq_true, true_and]

/-- A list of computations succeeds when each of them does. -/
theorem mapM_eq_ok {ε α β : Type} {f : α → Except ε β} {inputs : List α} {outputs : List β} :
    inputs.mapM f = .ok outputs ↔
      List.Forall₂ (fun input output => f input = .ok output) inputs outputs := by
  induction inputs generalizing outputs with
  | nil =>
      rw [List.mapM_nil, List.forall₂_nil_left_iff]
      exact ⟨fun same => (by cases same; rfl), fun same => (by rw [same]; rfl)⟩
  | cons input rest ih =>
      rw [List.mapM_cons, List.forall₂_cons_left_iff]
      cases first : f input with
      | error fault =>
          constructor
          · intro same
            cases same
          · rintro ⟨output, more, found, -⟩
            cases found
      | ok output =>
          cases others : rest.mapM f with
          | error fault =>
              constructor
              · intro same
                cases same
              · rintro ⟨_, more, -, restAll, rfl⟩
                rw [ih.mpr restAll] at others
                cases others
          | ok found =>
              constructor
              · intro same
                cases same
                exact ⟨output, found, rfl, ih.mp others, rfl⟩
              · rintro ⟨_, more, same, restAll, rfl⟩
                cases same
                rw [ih.mpr restAll] at others
                cases others
                rfl

/-- A list of computations succeeds on what a list is made into when each of them does. -/
theorem mapM_map_eq_ok {ε α β γ : Type} {f : β → Except ε γ} {made : α → β} {found : α → γ}
    {inputs : List α} (each : ∀ input ∈ inputs, f (made input) = .ok (found input)) :
    (inputs.map made).mapM f = .ok (inputs.map found) := by
  rw [mapM_eq_ok, List.forall₂_map_left_iff, List.forall₂_map_right_iff, List.forall₂_same]
  exact each

/-- A list of computations succeeds exactly if each of them does. -/
theorem exists_mapM_iff {ε α β : Type} {f : α → Except ε β} {inputs : List α} :
    (∃ outputs, inputs.mapM f = .ok outputs) ↔
      ∀ input ∈ inputs, ∃ output, f input = .ok output := by
  simp only [mapM_eq_ok]
  induction inputs with
  | nil => simp
  | cons input rest ih =>
      rw [List.forall_mem_cons, ← ih]
      constructor
      · rintro ⟨outputs, all⟩
        obtain ⟨first, others, made, restMade, -⟩ := List.forall₂_cons_left_iff.mp all
        exact ⟨⟨first, made⟩, others, restMade⟩
      · rintro ⟨⟨first, made⟩, others, restMade⟩
        exact ⟨first :: others, .cons made restMade⟩

/-- Where lists are related item by item, an item of the second comes from one of the first. -/
theorem exists_of_forall₂ {α β : Type} {related : α → β → Prop} {inputs : List α}
    {outputs : List β} (all : List.Forall₂ related inputs outputs) {output : β}
    (member : output ∈ outputs) : ∃ input ∈ inputs, related input output := by
  induction all with
  | nil => cases member
  | @cons input found rest more first _ ih =>
      rcases List.mem_cons.mp member with rfl | later
      · exact ⟨input, List.mem_cons_self, first⟩
      · obtain ⟨other, within, same⟩ := ih later
        exact ⟨other, List.mem_cons_of_mem input within, same⟩

/-- What a list of computations gives comes from one of them. -/
theorem exists_of_mem_mapM {ε α β : Type} {f : α → Except ε β} {inputs : List α}
    {outputs : List β} (made : inputs.mapM f = .ok outputs) {output : β}
    (member : output ∈ outputs) : ∃ input ∈ inputs, f input = .ok output :=
  exists_of_forall₂ (mapM_eq_ok.mp made) member

/-- **Two computations agree**: both fail, with the same fault, or both give a value, and the values
are related. -/
inductive Agree {ε α β : Type} (related : α → β → Prop) : Except ε α → Except ε β → Prop
  | fault (fault : ε) : Agree related (.error fault) (.error fault)
  | value {first : α} {second : β} (alike : related first second) :
      Agree related (.ok first) (.ok second)

section Agree

variable {ε α β γ δ : Type} {related : α → β → Prop}

/-- Computations that agree go on to agree when they do on all values that are related. -/
theorem Agree.bind {first : Except ε α} {second : Except ε β} {next : α → Except ε γ}
    {other : β → Except ε δ} {further : γ → δ → Prop} (start : Agree related first second)
    (goOn : ∀ one two, related one two → Agree further (next one) (other two)) :
    Agree further (first >>= next) (second >>= other) := by
  cases start with
  | fault fault => exact .fault fault
  | value alike => exact goOn _ _ alike

/-- Lists of computations agree when each of them does with its counterpart. -/
theorem Agree.mapM {f : γ → Except ε α} {g : γ → Except ε β} {inputs : List γ}
    (each : ∀ input ∈ inputs, Agree related (f input) (g input)) :
    Agree (List.Forall₂ related) (inputs.mapM f) (inputs.mapM g) := by
  induction inputs with
  | nil => exact .value .nil
  | cons input rest ih =>
      obtain ⟨first, others⟩ := List.forall_mem_cons.mp each
      rw [List.mapM_cons, List.mapM_cons]
      apply first.bind
      intro one two alike
      apply (ih others).bind
      intro ones twos allAlike
      exact .value (.cons alike allAlike)

end Agree

end Soliscope
