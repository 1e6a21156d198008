import Soliscope.Proofs.Explorer.Redaction
import Soliscope.Proofs.Text.Search

/-! # What redaction leaves

In a redacted text nothing stands behind a mark but the mask (`masked_isMasked`), and a text in
which this is so is not changed by redaction (`redact_eq_self_iff`). So a text can be told to be
redacted by looking at its marks. A mark does not reach across a character that ends keys, so that
texts put together with such a character between them are redacted if both of them are
(`IsMasked.append_delimiter`).
-/

namespace Soliscope.Explorer

open Soliscope.Text

/-- The characters of a text with all keys masked. -/
def masked (text : List Char) : List Char :=
  redactFrom [] 0 text

/-- Redacting a text masks its characters. -/
theorem toList_redact (text : String) : (redact text).toList = masked text.toList := by
  rw [redact, String.toList_ofList, masked]

/-- What was redacted before stands in front and changes nothing more. -/
theorem redactFrom_eq_append (redacted : List Char) (skip : Nat) (text : List Char) :
    redactFrom redacted skip text = redacted.reverse ++ redactFrom [] skip text := by
  induction text generalizing redacted skip with
  | nil =>
      rw [redactFrom, redactFrom]
      exact (List.append_nil _).symm
  | cons c rest ih =>
      cases skip with
      | succ skip =>
          rw [redactFrom, redactFrom]
          exact ih redacted skip
      | zero =>
          rw [redactFrom, redactFrom]
          cases keyAt? (c :: rest) with
          | none =>
              dsimp only
              rw [ih, ih [c], List.reverse_cons, List.append_assoc]
              rfl
          | some size =>
              dsimp only
              rw [ih, ih (keyMask.reverse ++ (keyMark.reverse ++ []))]
              simp only [List.reverse_append, List.reverse_reverse, List.append_nil,
                List.append_assoc]

section Steps

/-- A mark that stays has no key. -/
theorem keyRun_of_stays {rest : List Char} (none : keyAt? (keyMark ++ rest) = .none) :
    keyRun rest = [] := by
  by_contra given
  rw [keyAt?_mark given] at none
  cases none

/-- Behind a mark, the mask stands for the key. -/
theorem masked_mark {rest : List Char} (given : keyRun rest ≠ []) :
    masked (keyMark ++ rest) = keyMark ++ (keyMask ++ masked (afterKey rest)) := by
  rw [masked, redactFrom_mark [] given, redactFrom_eq_append]
  simp only [List.reverse_append, List.reverse_reverse, List.append_nil, List.append_assoc]
  rfl

/-- Where no key begins, the first character stays. -/
theorem masked_keep {c : Char} {rest : List Char} (none : keyAt? (c :: rest) = .none) :
    masked (c :: rest) = c :: masked rest := by
  rw [masked, redactFrom_keep [] none, redactFrom_eq_append]
  rfl

/-- A text is empty, or has a mark with a key in front, or a character that stays. -/
theorem redaction_induction {motive : List Char → Prop} (nil : motive [])
    (mark : ∀ rest, keyRun rest ≠ [] → motive (afterKey rest) → motive (keyMark ++ rest))
    (keep : ∀ c rest, keyAt? (c :: rest) = none → motive rest → motive (c :: rest))
    (text : List Char) : motive text := by
  induction length : text.length using Nat.strong_induction_on generalizing text with
  | h size ih =>
      cases text with
      | nil => exact nil
      | cons c rest =>
          have stays (none : keyAt? (c :: rest) = .none) : motive (c :: rest) := by
            apply keep c rest none
            exact ih rest.length (by rw [← length]; exact Nat.lt_succ_self _) rest rfl
          by_cases marked : keyMark <+: c :: rest
          · obtain ⟨more, split⟩ := marked
            by_cases bare : keyRun more = []
            · apply stays
              rw [← split]
              exact keyAt?_bareMark bare
            · rw [← split]
              apply mark more bare
              refine ih (afterKey more).length ?_ (afterKey more) rfl
              rw [← length, ← split]
              exact length_afterKey_lt more
          · exact stays (keyAt?_of_no_mark marked)

end Steps

/-- A text that does not go on with a key: it is empty or starts with a character that ends keys. -/
def EndsRun : List Char → Prop
  | [] => True
  | c :: _ => endsKey c = true

/-- **What stands behind a mark in a redacted text**: nothing, or a character that ends keys, or the
mask and then one of these. -/
inductive IsCovered : List Char → Prop
  | bare {rest : List Char} (ends : EndsRun rest) : IsCovered rest
  | mask {rest : List Char} (ends : EndsRun rest) : IsCovered (keyMask ++ rest)

/-- No mark in a text shows a key. -/
def IsMasked (text : List Char) : Prop :=
  ∀ before after, text = before ++ (keyMark ++ after) → IsCovered after

section Runs

theorem keyRun_of_endsRun {rest : List Char} (ends : EndsRun rest) : keyRun rest = [] := by
  cases rest with
  | nil => rfl
  | cons c rest =>
      have stops : endsKey c = true := ends
      simp [keyRun, stops]

/-- Behind a mark without a key stands the end of keys, or nothing. -/
theorem endsRun_of_keyRun {rest : List Char} (none : keyRun rest = []) : EndsRun rest := by
  cases rest with
  | nil => trivial
  | cons c rest =>
      by_cases stops : endsKey c = true
      · exact stops
      · simp [keyRun, stops] at none

/-- What is left over behind a key begins with the end of keys. -/
theorem endsRun_afterKey (rest : List Char) : EndsRun (afterKey rest) := by
  cases left : afterKey rest with
  | nil => trivial
  | cons c more =>
      rw [afterKey] at left
      have stopped := @List.head_dropWhile_not _ (!endsKey ·) rest (by simp [left])
      simp only [left, List.head_cons, Bool.not_eq_false'] at stopped
      exact stopped

/-- The mask runs on as a key does. -/
theorem keyMask_runs : ∀ c ∈ keyMask, endsKey c = false := by
  have all : keyMask.all (!endsKey ·) = true := by decide +kernel
  intro c member
  simpa using List.all_eq_true.mp all c member

/-- Only the mask is a run behind a covered mark. -/
theorem keyRun_of_isCovered {after : List Char} (covered : IsCovered after)
    (given : keyRun after ≠ []) : keyRun after = keyMask := by
  cases covered with
  | bare ends => exact (given (keyRun_of_endsRun ends)).elim
  | mask ends => rw [keyRun_append keyMask_runs, keyRun_of_endsRun ends, List.append_nil]

/-- What is covered stays covered when more follows behind the end of the key. -/
theorem IsCovered.append {after : List Char} (covered : IsCovered after) {c : Char}
    (ends : endsKey c = true) (more : List Char) : IsCovered (after ++ c :: more) := by
  have longer {rest : List Char} (ended : EndsRun rest) : EndsRun (rest ++ c :: more) := by
    cases rest with
    | nil => exact ends
    | cons first rest => exact ended
  cases covered with
  | bare ended => exact .bare (longer ended)
  | mask ended =>
      rw [List.append_assoc]
      exact .mask (longer ended)

end Runs

section Texts

variable {front back text : List Char}

/-- The mark holds nothing that ends a key. -/
theorem notMem_keyMark {c : Char} (ends : endsKey c = true) : c ∉ keyMark := by
  intro member
  rw [keyMark_runs c member] at ends
  cases ends

/-- A text without a mark has no key to mask. -/
theorem isMasked_of_unmarked (unmarked : ¬ keyMark <:+: text) : IsMasked text :=
  fun before after split => (unmarked ⟨before, after, by rw [split, List.append_assoc]⟩).elim

/-- The back of a masked text is masked. -/
theorem IsMasked.of_append (whole : IsMasked (front ++ back)) : IsMasked back := by
  intro before after split
  apply whole (front ++ before) after
  rw [split, List.append_assoc]

theorem IsMasked.tail {c : Char} (whole : IsMasked (c :: back)) : IsMasked back := by
  rw [← List.singleton_append] at whole
  exact whole.of_append

/-- **A character that ends keys parts a text**: both parts are looked at by themselves. -/
theorem IsMasked.append_delimiter (one : IsMasked front) (other : IsMasked back) {c : Char}
    (ends : endsKey c = true) : IsMasked (front ++ c :: back) := by
  intro before after split
  rcases split_at_break (notMem_keyMark ends) split with ⟨rest, inFront, rfl⟩ | ⟨passed, -, inBack⟩
  · exact (one before rest inFront).append ends back
  · exact other passed after inBack

/-- Masked texts may be joined where no key can reach across. -/
theorem IsMasked.append_ended (one : IsMasked front) (other : IsMasked back)
    (ends : EndsRun back) : IsMasked (front ++ back) := by
  cases back with
  | nil => rwa [List.append_nil]
  | cons c back => exact one.append_delimiter other.tail ends

end Texts

section Redacting

theorem keyMark_eq_cons : keyMark = 'a' :: keyMark.tail := rfl

/-- A text without the first letter of a mark stays as it is. -/
theorem masked_pass {front : List Char} (missing : 'a' ∉ front) (text : List Char) :
    masked (front ++ text) = front ++ masked text := by
  induction front with
  | nil => rfl
  | cons c front ih =>
      have unmarked : ¬ keyMark <+: c :: (front ++ text) := by
        intro starts
        rw [keyMark_eq_cons] at starts
        obtain ⟨rfl, -⟩ := List.cons_prefix_cons.mp starts
        exact missing List.mem_cons_self
      rw [List.cons_append, masked_keep (keyAt?_of_no_mark unmarked),
        ih (fun member => missing (List.mem_cons_of_mem c member))]
      rfl

/-- Redaction does not put such a text in front of another one. -/
theorem prefix_of_prefix_masked {front : List Char} (missing : 'a' ∉ front) {text : List Char}
    (starts : front <+: masked text) : front <+: text := by
  induction front generalizing text with
  | nil => exact List.nil_prefix
  | cons c front ih =>
      have missed : 'a' ∉ front := fun member => missing (List.mem_cons_of_mem c member)
      induction text using redaction_induction with
      | nil => cases List.prefix_nil.mp starts
      | mark rest given _ =>
          rw [masked_mark given, keyMark_eq_cons, List.cons_append] at starts
          obtain ⟨rfl, -⟩ := List.cons_prefix_cons.mp starts
          exact (missing List.mem_cons_self).elim
      | keep first rest none _ =>
          rw [masked_keep none] at starts
          obtain ⟨rfl, later⟩ := List.cons_prefix_cons.mp starts
          exact List.cons_prefix_cons.mpr ⟨rfl, ih missed later⟩

/-- What ends a key is no part of one, and stays. -/
theorem masked_delimiter {c : Char} (ends : endsKey c = true) (rest : List Char) :
    masked (c :: rest) = c :: masked rest := by
  have missing : 'a' ∉ [c] := by
    rw [List.mem_singleton]
    rintro rfl
    cases ends
  exact masked_pass missing rest

/-- Masking does not change how a text begins if that ends keys. -/
theorem endsRun_masked {text : List Char} (ends : EndsRun text) : EndsRun (masked text) := by
  cases text with
  | nil => trivial
  | cons c rest =>
      rw [masked_delimiter ends]
      exact ends

/-- In a mark and the mask behind it there is no other mark. -/
theorem isMasked_mask : IsMasked (keyMark ++ keyMask) := by
  intro before after split
  cases before with
  | nil =>
      rw [List.nil_append] at split
      rw [← List.append_cancel_left split, ← List.append_nil keyMask]
      exact .mask trivial
  | cons c before =>
      exfalso
      have rest : keyMark.tail ++ keyMask = before ++ (keyMark ++ after) :=
        congrArg List.tail split
      have missing : 'a' ∉ keyMark.tail ++ keyMask := by decide
      apply missing
      rw [rest]
      exact List.mem_append_right _ (List.mem_append_left _ (by decide))

/-- **Redaction covers every mark.** -/
theorem masked_isMasked (text : List Char) : IsMasked (masked text) := by
  induction text using redaction_induction with
  | nil => exact isMasked_of_unmarked (by decide)
  | mark rest given ih =>
      rw [masked_mark given, ← List.append_assoc]
      exact isMasked_mask.append_ended ih (endsRun_masked (endsRun_afterKey rest))
  | keep c rest none ih =>
      rw [masked_keep none]
      intro before after split
      cases before with
      | cons first before => exact ih before after (List.cons.inj split).2
      | nil =>
          -- A mark in front was there before, and had no key.
          rw [List.nil_append, keyMark_eq_cons, List.cons_append] at split
          injection split with first later
          subst first
          obtain ⟨more, rfl⟩ : keyMark.tail <+: rest :=
            prefix_of_prefix_masked (by decide) ⟨after, later.symm⟩
          have bare : keyRun more = [] := keyRun_of_stays none
          rw [masked_pass (by decide)] at later
          rw [← List.append_cancel_left later]
          exact .bare (endsRun_masked (endsRun_of_keyRun bare))

/-- A text whose marks are covered stays as it is. -/
theorem masked_eq_self {text : List Char} (isMasked : IsMasked text) : masked text = text := by
  induction text using redaction_induction with
  | nil => rfl
  | mark rest given ih =>
      have isMask := keyRun_of_isCovered (isMasked [] rest rfl) given
      have whole : keyMask ++ afterKey rest = rest := by
        rw [← isMask]
        exact List.takeWhile_append_dropWhile
      have later : IsMasked (afterKey rest) := by
        rw [← whole, ← List.append_assoc] at isMasked
        exact isMasked.of_append
      rw [masked_mark given, ih later, whole]
  | keep c rest none ih =>
      rw [masked_keep none, ih isMasked.tail]

/-- **A text is not changed by redaction exactly if its marks are covered.** -/
theorem redact_eq_self_iff (text : String) : redact text = text ↔ IsMasked text.toList := by
  constructor
  · intro same
    rw [← same, toList_redact]
    exact masked_isMasked text.toList
  · intro isMasked
    apply String.toList_injective
    rw [toList_redact, masked_eq_self isMasked]

/-- **A redacted text is masked.** -/
theorem isMasked_redact (text : String) : IsMasked (redact text).toList := by
  rw [toList_redact]
  exact masked_isMasked text.toList

end Redacting

end Soliscope.Explorer
