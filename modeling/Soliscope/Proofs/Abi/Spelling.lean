import Soliscope.Proofs.Abi.Words

/-! # Names in Python

In Python a name that is a keyword gets an underscore, and a parameter without a name goes by its
position. No name that comes out of this is a keyword (`spelled_notMem_pythonKeywords`). The names
that are made are apart from the keywords and from each other, but not from the names that an ABI
may give itself.
-/

namespace Soliscope.Abi

/-- The spelling of a name in a language: in Python a keyword gets an underscore. -/
def Language.spelled : Language → String → String
  | .typescript, name => name
  | .python, name => if name ∈ pythonKeywords then name ++ "_" else name

/-- A text is a name in every language, as it is spelled there. -/
theorem Language.identifier_str (language : Language) (name : String) :
    language.identifier (.str name) = .ok (language.spelled name) := by
  cases language with
  | typescript => rfl
  | python => simp only [identifier, spelled, List.contains_iff_mem]

/-- A word stays a word in every spelling. -/
theorem IsWord.spelled {name : String} (word : IsWord name.toList) (language : Language) :
    IsWord (language.spelled name).toList := by
  cases language with
  | typescript => exact word
  | python =>
      by_cases keyword : name ∈ pythonKeywords
      · rw [Language.spelled, if_pos keyword, String.toList_append]
        apply word.append
        exact isWord_of_all rfl
      · rwa [Language.spelled, if_neg keyword]

/-- A keyword gets an underscore. -/
theorem spelled_of_mem {name : String} (keyword : name ∈ pythonKeywords) :
    Language.python.spelled name = name ++ "_" :=
  if_pos keyword

/-- Any other name is left as it is. -/
theorem spelled_of_notMem {name : String} (free : name ∉ pythonKeywords) :
    Language.python.spelled name = name :=
  if_neg free

/-- A keyword with an underscore is free. -/
theorem append_underscore_notMem {name : String} (keyword : name ∈ pythonKeywords) :
    name ++ "_" ∉ pythonKeywords := by
  revert name
  decide

/-- No name is spelled like a keyword. -/
theorem spelled_notMem_pythonKeywords (name : String) :
    Language.python.spelled name ∉ pythonKeywords := by
  by_cases keyword : name ∈ pythonKeywords
  · rw [spelled_of_mem keyword]
    exact append_underscore_notMem keyword
  · rwa [spelled_of_notMem keyword]

theorem self_notMem_pythonKeywords : "self" ∉ pythonKeywords := by
  decide

/-- A name that begins otherwise is not made from a position. -/
theorem positionName_ne {name : String} (apart : "arg".toList.isPrefixOf name.toList = false)
    (position : Nat) : positionName position ≠ name := by
  rintro rfl
  have starts : "arg".toList.isPrefixOf (positionName position).toList = true := by
    rw [positionName, String.toList_append]
    exact List.isPrefixOf_iff_prefix.mpr (List.prefix_append _ _)
  rw [starts] at apart
  cases apart

/-- The name for a position starts unlike any keyword, with an underscore or without. -/
theorem positionName_ne_keyword {keyword : String} (member : keyword ∈ pythonKeywords)
    (position : Nat) :
    positionName position ≠ keyword ∧ positionName position ≠ keyword ++ "_" := by
  have apart : ∀ keyword ∈ pythonKeywords,
      "arg".toList.isPrefixOf keyword.toList = false ∧
        "arg".toList.isPrefixOf (keyword ++ "_").toList = false := by
    decide
  obtain ⟨bare, ended⟩ := apart keyword member
  exact ⟨positionName_ne bare position, positionName_ne ended position⟩

theorem positionName_notMem_pythonKeywords (position : Nat) :
    positionName position ∉ pythonKeywords :=
  fun keyword => (positionName_ne_keyword keyword position).1 rfl

/-- Different positions give different names. -/
theorem positionName_inj {first second : Nat} (same : positionName first = positionName second) :
    first = second :=
  Number.eq_of_toString_eq ((String.append_right_inj _).mp same)

end Soliscope.Abi
