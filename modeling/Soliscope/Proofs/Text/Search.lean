import Mathlib.Data.List.Infix
import Soliscope.Text.Search

/-!
# What a search finds

A text contains another exactly if that one is a part of it (`contains_iff`).

A part of two texts joined starts in the first of them or lies in the second
(`infix_append_starts`). It cannot reach across a character that it does not hold
(`infix_append_break`, `split_at_break`), nor across one that it only ends with
(`infix_append_end`).

Of two texts joined, only the first one changes if the needle is a part of it
(`replaceFirst_within`), and only the second one if the needle does not start in the first
(`replaceFirst_after`). So the occurrence behind a character that the needle does not hold is
replaced where it stands if there is none in front of it (`replaceFirst_break`).
-/

namespace Soliscope.Text

/-- An occurrence is found from any offset exactly if there is one. -/
theorem occurrence?_go_isSome_iff (needle text : List Char) (offset : Nat) :
    (occurrence?.go needle offset text).isSome = true ↔ needle <:+: text := by
  induction text generalizing offset with
  | nil =>
      rw [occurrence?.go, List.infix_nil, ← List.isEmpty_iff]
      cases needle.isEmpty <;> simp
  | cons c rest ih =>
      rw [occurrence?.go, List.infix_cons_iff, ← List.isPrefixOf_iff_prefix]
      cases needle.isPrefixOf (c :: rest) with
      | true => simp
      | false => simpa using ih (offset + 1)

/-- A text contains another exactly if that is a part of it. -/
theorem contains_iff (text needle : String) :
    contains text needle = true ↔ needle.toList <:+: text.toList :=
  occurrence?_go_isSome_iff needle.toList text.toList 0

section Parts

variable {needle front back : List Char} {c : Char}

/-- An occurrence in joined texts starts in the first or lies in the second. -/
theorem infix_append_starts (within : needle <:+: front ++ back) :
    (∃ before after, front = before ++ after ∧ after ≠ [] ∧ needle <+: after ++ back) ∨
      needle <:+: back := by
  obtain ⟨before, after, written⟩ := within
  rw [List.append_assoc] at written
  rcases List.append_eq_append_iff.mp written with ⟨inside, rfl, rest⟩ | ⟨passed, rfl, rest⟩
  · cases inside with
    | nil => exact Or.inr ⟨[], after, by rw [List.nil_append, rest, List.nil_append]⟩
    | cons first inside =>
        exact Or.inl ⟨before, first :: inside, rfl, List.cons_ne_nil _ _, after, rest⟩
  · exact Or.inr ⟨passed, after, by rw [rest, List.append_assoc]⟩

/-- A prefix without a character ends before that character. -/
theorem prefix_append_break (absent : c ∉ needle) (starts : needle <+: front ++ c :: back) :
    needle <+: front := by
  have whole : front ++ [c] <+: front ++ c :: back :=
    (List.prefix_append_right_inj front).mpr ⟨back, rfl⟩
  rcases Nat.lt_or_ge front.length needle.length with longer | fits
  · have reached : front ++ [c] <+: needle :=
      List.prefix_of_prefix_length_le whole starts (by simpa using Nat.succ_le_of_lt longer)
    exact (absent (reached.subset (by simp))).elim
  · exact List.prefix_of_prefix_length_le starts (List.prefix_append _ _) fits

/-- The text before the first occurrence of a character is determined. -/
theorem eq_of_append_break {first second firstRest secondRest : List Char} (absent : c ∉ first)
    (absentSecond : c ∉ second) (same : first ++ c :: firstRest = second ++ c :: secondRest) :
    first = second := by
  rcases List.append_eq_append_iff.mp same with ⟨more, rfl, rest⟩ | ⟨more, rfl, rest⟩
  · cases more with
    | nil => rw [List.append_nil]
    | cons other more => exact (absentSecond (by simp [(List.cons.inj rest).1])).elim
  · cases more with
    | nil => rw [List.append_nil]
    | cons other more => exact (absent (by simp [(List.cons.inj rest).1])).elim

/-- A part that does not hold a character stands before it or after it. -/
theorem split_at_break {part before after : List Char} (absent : c ∉ part)
    (split : front ++ c :: back = before ++ (part ++ after)) :
    (∃ rest, front = before ++ (part ++ rest) ∧ after = rest ++ c :: back) ∨
      ∃ passed, before = front ++ c :: passed ∧ back = passed ++ (part ++ after) := by
  rcases List.append_eq_append_iff.mp split with ⟨passed, rfl, rest⟩ | ⟨inFront, rfl, rest⟩
  · cases passed with
    | nil =>
        cases part with
        | nil => exact Or.inl ⟨[], by simp, rest.symm⟩
        | cons first part =>
            injection rest with same _
            exact (absent (same ▸ List.mem_cons_self)).elim
    | cons first passed =>
        injection rest with same rest
        exact Or.inr ⟨passed, by rw [same], rest⟩
  · rcases List.append_eq_append_iff.mp rest with ⟨left, rfl, ends⟩ | ⟨left, rfl, ends⟩
    · exact Or.inl ⟨left, rfl, ends⟩
    · cases left with
      | nil => exact Or.inl ⟨[], by simp, ends.symm⟩
      | cons first left =>
          injection ends with same _
          exact (absent (by simp [same])).elim

/-- An occurrence does not cross a character that it lacks. -/
theorem infix_append_break (absent : c ∉ needle) (within : needle <:+: front ++ c :: back) :
    needle <:+: front ∨ needle <:+: back := by
  obtain ⟨before, after, written⟩ := within
  rw [List.append_assoc] at written
  rcases split_at_break absent written.symm with ⟨rest, rfl, -⟩ | ⟨passed, -, rfl⟩
  · exact Or.inl ⟨before, rest, by rw [List.append_assoc]⟩
  · exact Or.inr ⟨passed, after, by rw [List.append_assoc]⟩

/-- One that ends in a character does not cross an earlier one. -/
theorem infix_append_end (absent : c ∉ needle)
    (within : needle ++ [c] <:+: front ++ c :: back) :
    needle ++ [c] <:+: front ++ [c] ∨ needle ++ [c] <:+: back := by
  have joined : front ++ c :: back = (front ++ [c]) ++ back := by simp
  rw [joined] at within
  rcases List.infix_append_iff.mp within with early | late | ⟨first, second, cut, ends, starts⟩
  · exact Or.inl early
  · exact Or.inr late
  · rcases List.suffix_concat_iff.mp ends with rfl | ⟨shorter, rfl, -⟩
    · rw [cut, List.nil_append]
      exact Or.inr starts.isInfix
    · rw [List.append_assoc, List.singleton_append] at cut
      obtain ⟨rfl, -, rfl⟩ :=
        (List.append_cons_inj_of_notMem absent (List.not_mem_nil)).mp cut
      exact Or.inl ends.isInfix

end Parts

/-- Offsets only shift what is found. -/
theorem occurrence?_go_succ (needle text : List Char) (offset : Nat) :
    occurrence?.go needle (offset + 1) text = (occurrence?.go needle offset text).map (· + 1) := by
  induction text generalizing offset with
  | nil =>
      rw [occurrence?.go, occurrence?.go]
      cases needle.isEmpty <;> rfl
  | cons c rest ih =>
      rw [occurrence?.go, occurrence?.go]
      cases needle.isPrefixOf (c :: rest) with
      | true => rfl
      | false => exact ih (offset + 1)

section Replacing

variable {needle front back text : List Char} {c : Char}

/-- Where nothing occurs, nothing is replaced. -/
theorem replaceFirst_of_missing (missing : ¬ needle <:+: text) (replacement : List Char) :
    replaceFirst needle replacement text = text := by
  have nowhere : occurrence? needle text = none :=
    Option.not_isSome_iff_eq_none.mp fun found =>
      missing ((occurrence?_go_isSome_iff needle text 0).mp found)
  rw [replaceFirst, cut?, nowhere]
  rfl

/-- An occurrence at the start is the first one. -/
theorem replaceFirst_here (needle back replacement : List Char) :
    replaceFirst needle replacement (needle ++ back) = replacement ++ back := by
  have atFront : occurrence? needle (needle ++ back) = some 0 := by
    cases together : needle ++ back with
    | nil =>
        obtain ⟨rfl, rfl⟩ := List.append_eq_nil_iff.mp together
        rfl
    | cons c rest =>
        rw [occurrence?, occurrence?.go, if_pos (List.isPrefixOf_iff_prefix.mpr ⟨back, together⟩)]
  rw [replaceFirst, cut?, atFront, Option.map_some, Nat.zero_add, List.drop_left]
  rfl

theorem replaceFirst_cons (later : ¬ needle <+: c :: text) (replacement : List Char) :
    replaceFirst needle replacement (c :: text) = c :: replaceFirst needle replacement text := by
  have passed : occurrence? needle (c :: text) = (occurrence? needle text).map (· + 1) := by
    have notHere : ¬ needle.isPrefixOf (c :: text) = true := fun here =>
      later (List.isPrefixOf_iff_prefix.mp here)
    rw [occurrence?, occurrence?.go, if_neg notHere]
    exact occurrence?_go_succ needle text 0
  rw [replaceFirst, replaceFirst, cut?, cut?, passed]
  cases occurrence? needle text with
  | none => rfl
  | some offset => simp [Nat.add_right_comm]

/-- A text in which the needle does not start is passed over. -/
theorem replaceFirst_after
    (clear : ∀ before after, front = before ++ after → after ≠ [] → ¬ needle <+: after ++ back)
    (replacement : List Char) :
    replaceFirst needle replacement (front ++ back) =
      front ++ replaceFirst needle replacement back := by
  induction front with
  | nil => rfl
  | cons c front ih =>
      have notHere : ¬ needle <+: c :: (front ++ back) :=
        clear [] (c :: front) rfl (List.cons_ne_nil _ _)
      have later := ih fun before after cut given =>
        clear (c :: before) after (by rw [cut, List.cons_append]) given
      rw [List.cons_append, replaceFirst_cons notHere, later, List.cons_append]

/-- What comes after a text that has the needle in it makes no difference. -/
theorem replaceFirst_within (within : needle <:+: front) (replacement back : List Char) :
    replaceFirst needle replacement (front ++ back) =
      replaceFirst needle replacement front ++ back := by
  induction front with
  | nil =>
      obtain rfl := List.infix_nil.mp within
      have alone := replaceFirst_here [] [] replacement
      rw [List.append_nil, List.append_nil] at alone
      rw [alone]
      exact replaceFirst_here [] back replacement
  | cons c front ih =>
      by_cases here : needle <+: c :: front
      · obtain ⟨rest, cut⟩ := here
        rw [← cut, List.append_assoc, replaceFirst_here, replaceFirst_here, List.append_assoc]
      · have inFront : needle <:+: front := (List.infix_cons_iff.mp within).resolve_left here
        have notLonger : ¬ needle <+: c :: (front ++ back) := fun starts =>
          here (List.prefix_of_prefix_length_le starts ⟨back, rfl⟩
            (inFront.length_le.trans (Nat.le_succ _)))
        rw [List.cons_append, replaceFirst_cons notLonger, ih inFront, replaceFirst_cons here,
          List.cons_append]

/-- A replacement leaves the text or changes a single place of it. -/
theorem replaceFirst_cases (needle replacement text : List Char) :
    (¬ needle <:+: text ∧ replaceFirst needle replacement text = text) ∨
      ∃ before after, text = before ++ (needle ++ after) ∧
        replaceFirst needle replacement text = before ++ (replacement ++ after) := by
  by_cases within : needle <:+: text
  · refine Or.inr ?_
    induction text with
    | nil =>
        obtain rfl := List.infix_nil.mp within
        exact ⟨[], [], rfl, replaceFirst_here [] [] replacement⟩
    | cons c text ih =>
        by_cases here : needle <+: c :: text
        · obtain ⟨rest, cut⟩ := here
          exact ⟨[], rest, cut.symm, by rw [← cut, replaceFirst_here, List.nil_append]⟩
        · have inText := (List.infix_cons_iff.mp within).resolve_left here
          obtain ⟨before, after, cut, replaced⟩ := ih inText
          refine ⟨c :: before, after, ?_, ?_⟩
          · rw [cut, List.cons_append]
          · rw [replaceFirst_cons here, replaced, List.cons_append]
  · exact Or.inl ⟨within, replaceFirst_of_missing within replacement⟩

/-- After a character that the needle does not hold, only the text in front of that character could
have an earlier occurrence. -/
theorem replaceFirst_past_break (absent : c ∉ needle) (missing : ¬ needle <:+: front)
    (replacement back : List Char) :
    replaceFirst needle replacement (front ++ c :: back) =
      front ++ c :: replaceFirst needle replacement back := by
  have passed := @replaceFirst_after needle (front ++ [c]) back
  simp only [List.append_assoc, List.singleton_append] at passed
  apply passed
  intro before after cut given starts
  obtain ⟨short, rfl⟩ : ∃ short, after = short ++ [c] := by
    rcases List.suffix_concat_iff.mp ⟨before, cut.symm⟩ with nothing | ⟨short, ended, -⟩
    · exact (given nothing).elim
    · exact ⟨short, ended⟩
  rw [← List.append_assoc] at cut
  obtain ⟨rfl, -⟩ := List.append_inj' cut rfl
  rw [List.append_assoc, List.singleton_append] at starts
  exact missing ((prefix_append_break absent starts).isInfix.trans (List.suffix_append _ _).isInfix)

/-- An occurrence behind a break is replaced if there is none before it. -/
theorem replaceFirst_break (absent : c ∉ needle) (missing : ¬ needle <:+: front)
    (replacement : List Char) :
    replaceFirst needle replacement (front ++ c :: (needle ++ back)) =
      front ++ c :: (replacement ++ back) := by
  rw [replaceFirst_past_break absent missing, replaceFirst_here]

/-- A removal takes away no more than the needle. -/
theorem length_le_removeFirst (needle text : List Char) :
    text.length ≤ (replaceFirst needle [] text).length + needle.length := by
  rcases replaceFirst_cases needle [] text with ⟨-, same⟩ | ⟨before, after, cut, removed⟩
  · rw [same]
    exact Nat.le_add_right _ _
  · rw [removed, cut]
    simp only [List.length_append, List.length_nil]
    omega

/-- Characters that the needle lacks are all kept. -/
theorem count_removeFirst (absent : c ∉ needle) (text : List Char) :
    (replaceFirst needle [] text).count c = text.count c := by
  rcases replaceFirst_cases needle [] text with ⟨-, same⟩ | ⟨before, after, cut, removed⟩
  · rw [same]
  · rw [removed, cut]
    simp only [List.count_append, List.count_nil, List.count_eq_zero_of_not_mem absent]

end Replacing

end Soliscope.Text
