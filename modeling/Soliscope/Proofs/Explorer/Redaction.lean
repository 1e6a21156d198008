import Mathlib.Data.List.Infix
import Mathlib.Data.List.TakeWhile
import Soliscope.Explorer.Redaction

/-! # Redaction hides keys

What is left of a text after redaction does not depend on a key in it, not even on its length
(`redact_eq_of_keys`). The text around the key may be anything: another mark may stand before it,
whose run may even reach into the key, and what follows may belong to the run of the key. Two marks
never overlap, so that the mark of the key is either found or inside an earlier run.
-/

namespace Soliscope.Explorer

/-- The run of characters that is masked after a mark. -/
def keyRun (text : List Char) : List Char :=
  text.takeWhile (!endsKey ·)

/-- The text after such a run. -/
def afterKey (text : List Char) : List Char :=
  text.dropWhile (!endsKey ·)

/-- A text that can be the value after a mark. -/
structure IsKey (key : List Char) : Prop where
  given : key ≠ []
  runs : ∀ c ∈ key, endsKey c = false

/-- A key that more of it follows runs on. -/
theorem keyRun_append {key : List Char} (runs : ∀ c ∈ key, endsKey c = false)
    (more : List Char) : keyRun (key ++ more) = key ++ keyRun more := by
  refine List.takeWhile_append_of_pos fun c member => ?_
  rw [runs c member]
  rfl

/-- Behind a key and more of it stands what stands behind that. -/
theorem afterKey_append {key : List Char} (runs : ∀ c ∈ key, endsKey c = false)
    (more : List Char) : afterKey (key ++ more) = afterKey more := by
  refine List.dropWhile_append_of_pos fun c member => ?_
  rw [runs c member]
  rfl

/-- What is left over is the text without its key. -/
theorem drop_length_keyRun (text : List Char) :
    text.drop (keyRun text).length = afterKey text := by
  have split : keyRun text ++ afterKey text = text := List.takeWhile_append_dropWhile
  calc
    text.drop (keyRun text).length = (keyRun text ++ afterKey text).drop (keyRun text).length := by
      rw [split]
    _ = afterKey text := List.drop_left

/-- A run that ends inside a text is not changed by what follows the text. -/
theorem keyRun_append_of_ends {text : List Char} (ends : afterKey text ≠ []) (more : List Char) :
    keyRun (text ++ more) = keyRun text := by
  have short : (keyRun text).length ≠ text.length := by
    intro whole
    apply ends
    rw [← drop_length_keyRun, whole, List.drop_length]
  rw [keyRun, List.takeWhile_append]
  exact if_neg short

/-- If a key ended, more text is left over behind it. -/
theorem afterKey_append_of_ends {text : List Char} (ends : afterKey text ≠ [])
    (more : List Char) : afterKey (text ++ more) = afterKey text ++ more := by
  have some : ¬ (afterKey text).isEmpty = true := by
    rw [List.isEmpty_iff]
    exact ends
  rw [afterKey, List.dropWhile_append]
  exact if_neg some

/-- If nothing is left over, nothing ended the key. -/
theorem runs_of_afterKey_eq_nil {text : List Char} (whole : afterKey text = []) :
    ∀ c ∈ text, endsKey c = false := by
  intro c member
  have passed := List.dropWhile_eq_nil_iff.mp whole c member
  simpa using passed

/-- Nothing in a mark ends a key. -/
theorem keyMark_runs : ∀ c ∈ keyMark, endsKey c = false := by
  have all : keyMark.all (!endsKey ·) = true := by decide +kernel
  intro c member
  simpa using List.all_eq_true.mp all c member

/-- A mark and something behind it are a key with its mark. -/
theorem keyAt?_mark {rest : List Char} (given : keyRun rest ≠ []) :
    keyAt? (keyMark ++ rest) = some (keyMark.length + (keyRun rest).length) := by
  have found : keyMark.isPrefixOf? (keyMark ++ rest) = some rest :=
    List.isPrefixOf?_eq_some_iff_append_eq.mpr rfl
  have some : ((keyRun rest).length == 0) = false := by
    rw [beq_eq_false_iff_ne, ne_eq, List.length_eq_zero_iff]
    exact given
  rw [keyAt?, found, Option.bind_some]
  change (if (keyRun rest).length == 0 then none else _) = _
  rw [some]
  rfl

/-- A mark alone is none. -/
theorem keyAt?_bareMark {rest : List Char} (none : keyRun rest = []) :
    keyAt? (keyMark ++ rest) = .none := by
  have found : keyMark.isPrefixOf? (keyMark ++ rest) = some rest :=
    List.isPrefixOf?_eq_some_iff_append_eq.mpr rfl
  rw [keyAt?, found, Option.bind_some]
  change (if (keyRun rest).length == 0 then Option.none else _) = _
  rw [none]
  rfl

/-- No key is found where no mark stands. -/
theorem keyAt?_of_no_mark {text : List Char} (unmarked : ¬ keyMark <+: text) :
    keyAt? text = none := by
  cases found : keyMark.isPrefixOf? text with
  | none => rw [keyAt?, found, Option.bind_none]
  | some rest =>
      exact (unmarked ⟨rest, List.isPrefixOf?_eq_some_iff_append_eq.mp found⟩).elim

/-- Characters that belong to a key are passed over. -/
theorem redactFrom_skip (redacted : List Char) (skip : Nat) (text : List Char) :
    redactFrom redacted skip text = redactFrom redacted 0 (text.drop skip) := by
  induction text generalizing skip with
  | nil => rw [List.drop_nil, redactFrom, redactFrom]
  | cons c rest ih =>
      cases skip with
      | zero => rfl
      | succ skip =>
          rw [redactFrom, List.drop_succ_cons]
          exact ih skip

/-- A mark with a run is masked, and redaction goes on after the run. -/
theorem redactFrom_mark (redacted : List Char) {rest : List Char} (given : keyRun rest ≠ []) :
    redactFrom redacted 0 (keyMark ++ rest) =
      redactFrom (keyMask.reverse ++ (keyMark.reverse ++ redacted)) 0 (afterKey rest) := by
  have found := keyAt?_mark given
  obtain ⟨c, others, isCons⟩ : ∃ c others, keyMark = c :: others := ⟨_, _, rfl⟩
  have size : keyMark.length + (keyRun rest).length - 1 =
      others.length + (keyRun rest).length := by
    rw [isCons, List.length_cons]
    omega
  have dropped : (others ++ rest).drop (others.length + (keyRun rest).length) = afterKey rest := by
    rw [← List.drop_drop, List.drop_left, drop_length_keyRun]
  have whole : keyMark ++ rest = c :: (others ++ rest) := by
    rw [isCons, List.cons_append]
  rw [whole] at found ⊢
  rw [redactFrom, found]
  dsimp only
  rw [size, redactFrom_skip, dropped]

/-- Where no key begins, the first character goes to what was redacted. -/
theorem redactFrom_keep (redacted : List Char) {c : Char} {rest : List Char}
    (none : keyAt? (c :: rest) = .none) :
    redactFrom redacted 0 (c :: rest) = redactFrom (c :: redacted) 0 rest := by
  rw [redactFrom, none]

/-- No proper end of a mark is the start of one. -/
theorem keyMark_unbordered : ∀ size < keyMark.length, 0 < size →
    keyMark.drop size ≠ keyMark.take (keyMark.length - size) := by
  decide

/-- A mark cannot start just before another one. -/
theorem keyMark_prefix_append_iff {before rest : List Char} (some : before ≠ []) :
    keyMark <+: before ++ (keyMark ++ rest) ↔ keyMark <+: before := by
  constructor
  · rintro ⟨more, split⟩
    by_cases long : keyMark.length ≤ before.length
    · exact List.prefix_of_prefix_length_le ⟨more, split⟩ (List.prefix_append _ _) long
    · exfalso
      have short : before.length < keyMark.length := Nat.lt_of_not_le long
      have ends : keyMark.drop before.length ++ more = keyMark ++ rest := by
        have dropped := congrArg (List.drop before.length) split
        rwa [List.drop_append_of_le_length short.le, List.drop_left] at dropped
      have size : (keyMark.drop before.length).length = keyMark.length - before.length :=
        List.length_drop
      have starts := congrArg (List.take (keyMark.length - before.length)) ends
      rw [List.take_append_of_le_length size.ge, ← size, List.take_length, size,
        List.take_append_of_le_length (Nat.sub_le _ _)] at starts
      exact keyMark_unbordered before.length short (List.length_pos_iff.mpr some) starts
  · exact fun within => within.trans (List.prefix_append _ _)

/-- A key is found also when more follows. -/
theorem IsKey.keyRun_ne_nil {key : List Char} (isKey : IsKey key) (more : List Char) :
    keyRun (key ++ more) ≠ [] := by
  rw [keyRun_append isKey.runs]
  exact fun empty => isKey.given (List.append_eq_nil_iff.mp empty).1

/-- What the text before a mark starts with, as redaction sees it. -/
inductive Front (before : List Char) : Prop
  | nothing (empty : before = [])
  /-- A key that goes on up to the mark, and further. -/
  | goesOn {inner : List Char} (starts : before = keyMark ++ inner)
      (runs : ∀ c ∈ inner, endsKey c = false)
  /-- A key that ends before the mark. -/
  | ends {inner : List Char} (starts : before = keyMark ++ inner) (given : keyRun inner ≠ [])
      (ends : afterKey inner ≠ [])
  /-- A character that stays. -/
  | plain {c : Char} {rest : List Char} (starts : before = c :: rest)
      (stays : ∀ more, keyAt? (c :: (rest ++ (keyMark ++ more))) = none)

theorem front (before : List Char) : Front before := by
  cases before with
  | nil => exact .nothing rfl
  | cons c rest =>
      by_cases marked : keyMark <+: c :: rest
      · obtain ⟨inner, split⟩ := marked
        by_cases whole : afterKey inner = []
        · exact .goesOn split.symm (runs_of_afterKey_eq_nil whole)
        · by_cases bare : keyRun inner = []
          · refine .plain rfl fun more => ?_
            rw [← List.cons_append, ← split, List.append_assoc]
            exact keyAt?_bareMark (by rw [keyRun_append_of_ends whole, bare])
          · exact .ends split.symm bare whole
      · refine .plain rfl fun more => keyAt?_of_no_mark ?_
        rw [← List.cons_append, keyMark_prefix_append_iff (List.cons_ne_nil c rest)]
        exact marked

/-- An earlier key that goes on up to the mark takes the key behind it along. -/
theorem redactFrom_goesOn (redacted : List Char) {inner key : List Char}
    (runs : ∀ c ∈ inner, endsKey c = false) (isKey : IsKey key) (more : List Char) :
    redactFrom redacted 0 (keyMark ++ (inner ++ (keyMark ++ (key ++ more)))) =
      redactFrom (keyMask.reverse ++ (keyMark.reverse ++ redacted)) 0 (afterKey more) := by
  have given : keyRun (inner ++ (keyMark ++ (key ++ more))) ≠ [] := by
    rw [keyRun_append runs, keyRun_append keyMark_runs]
    intro empty
    cases (List.append_eq_nil_iff.mp (List.append_eq_nil_iff.mp empty).2).1
  rw [redactFrom_mark redacted given, afterKey_append runs, afterKey_append keyMark_runs,
    afterKey_append isKey.runs]

/-- An earlier key that ends before the mark is masked by itself. -/
theorem redactFrom_ends (redacted : List Char) {inner : List Char} (given : keyRun inner ≠ [])
    (ends : afterKey inner ≠ []) (more : List Char) :
    redactFrom redacted 0 (keyMark ++ (inner ++ more)) =
      redactFrom (keyMask.reverse ++ (keyMark.reverse ++ redacted)) 0 (afterKey inner ++ more) := by
  have some : keyRun (inner ++ more) ≠ [] := by
    rwa [keyRun_append_of_ends ends]
  rw [redactFrom_mark redacted some, afterKey_append_of_ends ends]

/-- Less is left over than there was, so that the search ends. -/
theorem length_afterKey_lt (inner : List Char) :
    (afterKey inner).length < (keyMark ++ inner).length := by
  have atMost : (afterKey inner).length ≤ inner.length := List.length_dropWhile_le _ inner
  have markSize : keyMark.length = 7 := rfl
  rw [List.length_append, markSize]
  omega

/-- What is left does not depend on the key behind a mark. -/
theorem redactFrom_key {first second : List Char} (firstKey : IsKey first)
    (secondKey : IsKey second) (redacted before more : List Char) :
    redactFrom redacted 0 (before ++ (keyMark ++ (first ++ more))) =
      redactFrom redacted 0 (before ++ (keyMark ++ (second ++ more))) := by
  -- The front of the text is passed over as a whole, so that the induction is on its length.
  induction size : before.length using Nat.strong_induction_on generalizing before redacted with
  | _ size ih =>
      subst size
      cases front before with
      | nothing empty =>
          rw [empty, List.nil_append, List.nil_append,
            redactFrom_mark _ (firstKey.keyRun_ne_nil more),
            redactFrom_mark _ (secondKey.keyRun_ne_nil more), afterKey_append firstKey.runs,
            afterKey_append secondKey.runs]
      | goesOn starts runs =>
          rw [starts, List.append_assoc, List.append_assoc, redactFrom_goesOn _ runs firstKey,
            redactFrom_goesOn _ runs secondKey]
      | @ends inner starts given ends =>
          rw [starts, List.append_assoc, List.append_assoc, redactFrom_ends _ given ends,
            redactFrom_ends _ given ends]
          exact ih _ (by rw [starts]; exact length_afterKey_lt inner) _ _ rfl
      | @plain c rest starts stays =>
          rw [starts, List.cons_append, List.cons_append, redactFrom_keep redacted (stays _),
            redactFrom_keep redacted (stays _)]
          exact ih rest.length (by rw [starts]; exact Nat.lt_succ_self _) _ rest rfl

/-- **Redaction hides keys.** Two texts that differ in the key behind a mark are the same once they
are redacted. -/
theorem redact_eq_of_keys {first second : List Char} (firstKey : IsKey first)
    (secondKey : IsKey second) {before more : List Char} {one other : String}
    (isOne : one.toList = before ++ (keyMark ++ (first ++ more)))
    (isOther : other.toList = before ++ (keyMark ++ (second ++ more))) :
    redact one = redact other := by
  rw [redact, redact, isOne, isOther, redactFrom_key firstKey secondKey]

end Soliscope.Explorer
