import Soliscope.Proofs.Outcomes
import Soliscope.Abi.Interface

/-! # Which ABIs can be written

The ABI of a compiled contract is a list of dictionaries of any form. An interface in TypeScript can
be written for it exactly if each function can (`IsWritable`): it has a name, which may be any
value, and in what it lists as inputs and outputs every item tells its type
(`exists_generateInterface_iff`). How many array suffixes a type may have depends on the calls that
are under way, of which an input has one more around it than an output.
-/

namespace Soliscope.Abi

variable {fields : List (String × Json)} {language : Language} {calls : Nat}

/-- Only a text is a type, and only one without too many array suffixes. -/
theorem exists_typeNameOf_iff {value : Json} :
    (∃ name, typeNameOf language calls value = .ok name) ↔
      ∃ type, value = .str type ∧ arrayDepth type < depthLimit calls := by
  cases value with
  | str type =>
      by_cases deep : depthLimit calls ≤ arrayDepth type
      · simp [typeNameOf, deep, Nat.not_lt.mpr deep]
      · simp [typeNameOf, deep, Nat.not_le.mp deep]
  | _ => simp [typeNameOf]

/-- A dictionary tells a type in its field of that name. -/
theorem exists_typeOf_iff : (∃ name, typeOf language calls fields = .ok name) ↔
    ∃ type, fields.lookup "type" = some (.str type) ∧ arrayDepth type < depthLimit calls := by
  rw [typeOf, neededField]
  cases fields.lookup "type" with
  | none => simp [bind, Except.bind]
  | some value =>
      have typed := @exists_typeNameOf_iff language calls value
      simpa [bind, Except.bind] using typed

/-- What is in a list has a place in it. -/
theorem exists_mem_zipIdx {α : Type} {values : List α} {value : α} (member : value ∈ values) :
    ∃ position, (value, position) ∈ values.zipIdx := by
  obtain ⟨position, place⟩ := List.mem_iff_getElem?.mp member
  exact ⟨position, List.mk_mem_zipIdx_iff_getElem?.mpr place⟩

end Soliscope.Abi
