import Soliscope.Proofs.Outcomes
import Soliscope.Url.Basic

/-! # The query of an address

The query of an address can be put in the place of another. Nothing else of the address depends on
the query, and what is wrong with the rest is wrong with any query. An address with another query is
therefore the one with an empty query, with the other put in (`Address.withQuery_eq_map`).
-/

namespace Soliscope.Url

/-- The address with a query, which is put into the form in which it is kept. -/
def Address.putQuery (address : Address) (query : List Char) : Address :=
  { address with query := some (escape isQuerySafe query) }

section Unchanged

variable (address : Address) (query : List Char)

@[simp] theorem Address.isAbsolute_putQuery :
    (address.putQuery query).isAbsolute = address.isAbsolute := rfl

@[simp] theorem Address.hostName_putQuery :
    (address.putQuery query).hostName = address.hostName := rfl

/-- A query changes no other part. -/
theorem Address.parts_putQuery :
    (address.putQuery query).parts =
      { address.parts with query := some (escape isQuerySafe query) } := rfl

@[simp] theorem Address.fragmentText_putQuery :
    (address.putQuery query).fragmentText = address.fragmentText := rfl

end Unchanged

/-- The address of parts with a query is that of the parts without, with the query put in. -/
theorem Address.ofParts_query (parts : Parts) (authority : Authority) (query : List Char) :
    Address.ofParts { parts with query := some query } authority =
      (Address.ofParts { parts with query := some [] } authority).map (·.putQuery query) := by
  unfold Address.ofParts
  cases keptHost authority.host with
  | error flaw => rfl
  | ok host =>
      cases keptPort parts.scheme authority.port with
      | error flaw => rfl
      | ok port =>
          simp only [mapError_ok, bind, Except.bind]
          split <;> rfl

/-- A sound query has no part in what is wrong with an address. -/
theorem Parts.flaw?_query (parts : Parts) {query : List Char}
    (sound : partFlaw? .query query = none) :
    Parts.flaw? { parts with query := some query } =
      Parts.flaw? { parts with query := some [] } := by
  have empty : partFlaw? .query [] = none := rfl
  simp only [Parts.flaw?, Option.bind_some, sound, empty]

/-- An unsound one makes something wrong with it. -/
theorem Parts.exists_flaw_of_query (parts : Parts) {query : List Char} {flaw : Flaw}
    (bad : partFlaw? .query query = some flaw) :
    ∃ first, Parts.flaw? { parts with query := some query } = some first := by
  refine Option.ne_none_iff_exists'.mp fun none => ?_
  simp only [Parts.flaw?, Option.bind_some, bad, List.findSome?_eq_none_iff, List.mem_cons,
    List.not_mem_nil, or_false, forall_eq_or_imp, forall_eq, id_eq, reduceCtorEq, and_false,
    false_and] at none

/-- The address of changed parts with a query is that with an empty query, with the other put in. -/
theorem Parts.address_query (parts : Parts) {query : List Char}
    (sound : partFlaw? .query query = none) :
    Parts.address { parts with query := some query } =
      (Parts.address { parts with query := some [] }).map (·.putQuery query) := by
  unfold Parts.address
  rw [Parts.flaw?_query parts sound]
  cases Parts.flaw? { parts with query := some [] } with
  | some flaw => rfl
  | none => exact Address.ofParts_query parts (Authority.ofText parts.authority) query

/-- **What a query changes.** An address with another query is the bare address with that query put
in, unless the query is bad. -/
theorem Address.withQuery_eq_map (address : Address) {query : List Char}
    (sound : partFlaw? .query query = none) :
    address.withQuery (some query) =
      (address.withQuery (some [])).map (·.putQuery query) :=
  Parts.address_query address.parts sound

/-- No address is made with an unsound query. -/
theorem Address.withQuery_ne_ok (address : Address) {query : List Char} {flaw : Flaw}
    (bad : partFlaw? .query query = some flaw) (made : Address) :
    address.withQuery (some query) ≠ .ok made := by
  obtain ⟨first, found⟩ := Parts.exists_flaw_of_query address.parts bad
  unfold Address.withQuery Parts.address
  rw [found]
  intro same
  cases same

end Soliscope.Url
