import Soliscope.Proofs.Abi.Signatures

/-! # Reading interfaces

An interface is read line by line. Before the methods there is a fixed number of lines, after them
at most one, and each line between tells the signature of one method (`IsInterface`). What is
written for clean methods of a contract with a word for its name is such an interface
(`isInterface_render`): nothing in the names and types adds, removes or divides a line, whichever of
the Unicode line boundaries one divides at. Two contracts with one interface have the same name and
the same signatures (`IsInterface.inj`).
-/

namespace Soliscope.Abi

/-- The line after the methods, if there is one: a class without methods needs a body. -/
def Language.closing (language : Language) (signatures : List Signature) : List String :=
  match language, signatures with
  | .typescript, _ => ["\x7d"]
  | .python, [] => ["    pass"]
  | .python, _ :: _ => []

/-- **A source is the interface of a contract with these signatures.** -/
structure IsInterface (language : Language) (contractName : String) (signatures : List Signature)
    (source : String) : Prop where
  /-- One line for each signature stands between the lines before and after the methods. -/
  lines : ∃ methodLines, Text.lines source =
      header contractName language ++ methodLines ++ language.closing signatures ++ [""] ∧
    List.Forall₂ (fun line signature => Signature.read? language line = some signature)
      methodLines signatures
  /-- Nothing but a newline ends a line. -/
  boundaries : ∀ c ∈ source.toList, Text.isLineBoundary c = true → c = '\n'

variable {language : Language} {contractName : String} {methods : List Method}

theorem isUnbroken_of_all {text : List Char}
    (all : text.all (!Text.isLineBoundary ·) = true) : IsUnbroken text := by
  intro c member
  simpa using List.all_eq_true.mp all c member

theorem IsUnbroken.append {first second : List Char} (one : IsUnbroken first)
    (other : IsUnbroken second) : IsUnbroken (first ++ second) := by
  unfold IsUnbroken
  rw [List.forall_mem_append]
  exact ⟨one, other⟩

theorem IsWord.isUnbroken {text : List Char} (word : IsWord text) : IsUnbroken text :=
  fun c member => (word.isInline c member).2

/-- The lines before the methods do not break off. -/
theorem isUnbroken_header (name : IsWord contractName.toList) :
    ∀ line ∈ header contractName language, IsUnbroken line.toList := by
  have word := name.isUnbroken
  cases language with
  | typescript =>
      simp only [header, List.forall_mem_cons, String.toList_append]
      refine ⟨?_, isUnbroken_of_all rfl, ?_, List.forall_mem_nil _⟩
      · exact (isUnbroken_of_all rfl).append word
      · exact ((isUnbroken_of_all rfl).append word).append (isUnbroken_of_all rfl)
  | python =>
      simp only [header, List.forall_mem_cons, String.toList_append]
      refine ⟨?_, isUnbroken_of_all rfl, isUnbroken_of_all rfl, isUnbroken_of_all rfl,
        isUnbroken_of_all rfl, ?_, List.forall_mem_nil _⟩
      · exact (isUnbroken_of_all rfl).append word
      · exact ((isUnbroken_of_all rfl).append word).append (isUnbroken_of_all rfl)

/-- The line after the methods does not break off. -/
theorem isUnbroken_closing (signatures : List Signature) :
    ∀ line ∈ language.closing signatures, IsUnbroken line.toList := by
  cases language with
  | typescript => exact List.forall_mem_singleton.mpr (isUnbroken_of_all rfl)
  | python =>
      cases signatures with
      | nil => exact List.forall_mem_singleton.mpr (isUnbroken_of_all rfl)
      | cons signature rest => exact List.forall_mem_nil _

/-- Only the number of methods decides about the line after them. -/
theorem footer_eq_closing (methods : List Method) (language : Language) :
    footer methods language = language.closing (methods.map (·.signature language)) := by
  cases language with
  | typescript => rfl
  | python => cases methods <;> rfl

/-- No line of an interface breaks off. -/
theorem isUnbroken_interface (name : IsWord contractName.toList)
    (clean : ∀ method ∈ methods, method.IsClean language) :
    ∀ line ∈ interfaceLines language contractName methods, IsUnbroken line.toList := by
  rw [interfaceLines, List.forall_mem_append, List.forall_mem_append]
  refine ⟨⟨isUnbroken_header name, ?_⟩, ?_⟩
  · intro line member
    obtain ⟨method, within, rfl⟩ := List.mem_map.mp member
    exact (clean method within).isUnbroken
  · rw [footer_eq_closing]
    exact isUnbroken_closing _

/-- The line of each method tells its signature. -/
theorem readable_methodLines (clean : ∀ method ∈ methods, method.IsClean language) :
    List.Forall₂ (fun line signature => Signature.read? language line = some signature)
      (methods.map (·.render language)) (methods.map (·.signature language)) := by
  rw [List.forall₂_map_left_iff, List.forall₂_map_right_iff, List.forall₂_same]
  intro method member
  exact Signature.read?_render (clean method member)

/-- **What is written for clean methods is their interface.** -/
theorem isInterface_render (name : IsWord contractName.toList)
    (clean : ∀ method ∈ methods, method.IsClean language) :
    IsInterface language contractName (methods.map (·.signature language))
      (renderInterface language contractName methods) := by
  have unbroken := isUnbroken_interface name clean
  constructor
  case lines =>
    have whole : ∀ line ∈ interfaceLines language contractName methods, '\n' ∉ line.toList := by
      intro line member newline
      have boundary := unbroken line member '\n' newline
      cases boundary
    refine ⟨methods.map (·.render language), ?_, readable_methodLines clean⟩
    rw [renderInterface, Text.lines_join whole, interfaceLines, footer_eq_closing]
  case boundaries =>
    intro c member boundary
    rcases Text.mem_join member with isNewline | ⟨line, within, inside⟩
    · exact isNewline
    · rw [unbroken line within c inside] at boundary
      cases boundary

/-- The line after the methods tells no signature. -/
theorem filterMap_read?_closing (signatures : List Signature) :
    (language.closing signatures).filterMap (Signature.read? language) = [] := by
  cases language with
  | typescript => rfl
  | python => cases signatures <;> rfl

/-- From the lines of methods exactly their signatures are read. -/
theorem filterMap_read? {methodLines : List String} {signatures : List Signature}
    (readable : List.Forall₂ (fun line signature => Signature.read? language line = some signature)
      methodLines signatures) :
    methodLines.filterMap (Signature.read? language) = signatures := by
  induction readable with
  | nil => rfl
  | cons first _ ih => rw [List.filterMap_cons_some first, ih]

/-- The lines before the methods tell the name of the contract. -/
theorem header_inj {otherName : String}
    (same : header contractName language = header otherName language) :
    contractName = otherName := by
  cases language with
  | typescript =>
      have first := (List.cons.inj same).1
      exact (String.append_right_inj _).mp first
  | python =>
      have first := (List.cons.inj same).1
      exact (String.append_right_inj _).mp first

/-- **An interface tells the name of its contract and the signatures.** -/
theorem IsInterface.inj {otherName : String} {signatures others : List Signature} {source : String}
    (one : IsInterface language contractName signatures source)
    (other : IsInterface language otherName others source) :
    contractName = otherName ∧ signatures = others := by
  obtain ⟨methodLines, divided, readable⟩ := one.lines
  obtain ⟨otherLines, otherDivided, otherReadable⟩ := other.lines
  have same := divided.symm.trans otherDivided
  simp only [List.append_assoc] at same
  have size : (header contractName language).length = (header otherName language).length := by
    cases language <;> rfl
  obtain ⟨headers, rest⟩ := List.append_inj same size
  refine ⟨header_inj headers, ?_⟩
  have told := congrArg (List.filterMap (Signature.read? language)) rest
  simpa only [List.filterMap_append, filterMap_read? readable, filterMap_read? otherReadable,
    filterMap_read?_closing, List.nil_append, List.append_cancel_right_eq] using told

end Soliscope.Abi
