import Mathlib.Data.List.TakeWhile

/-! # Runs of characters

A run is the longest front of a text whose characters are of one class. It ends before the first
character of another class, and what stands behind that character makes no difference to it.
-/

namespace Soliscope.Text

section Stops

variable {α : Type} {goesOn : α → Bool} {stop : α}

/-- A run that ends before a character that stops it does not depend on what follows. -/
theorem takeWhile_append_stop (stops : goesOn stop = false) (front rest : List α) :
    (front ++ stop :: rest).takeWhile goesOn = front.takeWhile goesOn := by
  induction front with
  | nil => simp [stops]
  | cons c front ih =>
      rw [List.cons_append, List.takeWhile_cons, List.takeWhile_cons, ih]

/-- A stop ends what is dropped, wherever in front of it the run ends. -/
theorem dropWhile_append_stop (stops : goesOn stop = false) (front rest : List α) :
    (front ++ stop :: rest).dropWhile goesOn = front.dropWhile goesOn ++ stop :: rest := by
  induction front with
  | nil => simp [stops]
  | cons c front ih =>
      rw [List.cons_append, List.dropWhile_cons, List.dropWhile_cons, ih]
      split <;> rfl

end Stops

section Runs

variable {goesOn : Char → Bool} {run : List Char} {stop : Char}

/-- A run up to its stop is taken whole. -/
theorem takeWhile_run (all : ∀ c ∈ run, goesOn c = true) (stops : goesOn stop = false)
    (rest : List Char) : (run ++ stop :: rest).takeWhile goesOn = run := by
  rw [List.takeWhile_append_of_pos all,
    List.takeWhile_cons_of_neg (Bool.eq_false_iff.mp stops), List.append_nil]

/-- What is left of it begins with the stop. -/
theorem dropWhile_run (all : ∀ c ∈ run, goesOn c = true) (stops : goesOn stop = false)
    (rest : List Char) : (run ++ stop :: rest).dropWhile goesOn = stop :: rest := by
  rw [List.dropWhile_append_of_pos all, List.dropWhile_cons_of_neg (Bool.eq_false_iff.mp stops)]

end Runs

end Soliscope.Text
