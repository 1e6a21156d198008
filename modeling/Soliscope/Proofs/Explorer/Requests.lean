import Soliscope.Explorer.Call
import Soliscope.Proofs.Outcomes
import Soliscope.Proofs.Url.Addresses
import Soliscope.Proofs.Url.Query

/-! # Where requests go

A request with its form in the query goes to the bare address, the one for the empty form, with the
form put in (`getRequest_eq_map`). Whether the address says where to go, and whether it can be
asked, is up to the bare address alone.
-/

namespace Soliscope.Explorer

open Soliscope.Url

/-- Where a request for an empty form goes. -/
def bareAddress (url : String) : Except Url.Flaw Address := do
  let address ← requestAddress url
  address.withQuery (some [])

/-- The address of a request is made of plain characters. -/
theorem requestAddress_isClean {written : String} {address : Address}
    (made : requestAddress written = .ok address) : address.IsClean := by
  obtain ⟨parsed, isParsed, made⟩ := bind_eq_ok.mp made
  have nothing : IsPlain [] := fun c member => (by cases member)
  split at made
  · cases made
    exact parse_isClean isParsed
  · exact Address.onServer_isClean nothing nothing made

theorem bareAddress_isClean {written : String} {bare : Address}
    (made : bareAddress written = .ok bare) : bare.IsClean := by
  obtain ⟨address, isAddress, made⟩ := bind_eq_ok.mp made
  exact (requestAddress_isClean isAddress).withQuery made

variable {url : String} {entries : List (String × String)} {timeout : Float}

/-- The request for a form that is no bad query goes to the bare address with the form put in. -/
theorem getRequest_eq_map (sound : partFlaw? .query (Form.render entries) = none) :
    getRequest url entries timeout =
      (bareAddress url).map fun bare => {
        method := .get, url := bare.putQuery (Form.render entries), body := "",
        timeout := timeout } := by
  unfold getRequest bareAddress
  cases requestAddress url with
  | error flaw => rfl
  | ok address =>
      simp only [bind, Except.bind, address.withQuery_eq_map sound]
      cases address.withQuery (some []) <;> rfl

/-- No request is made for a form that is a bad query. -/
theorem getRequest_ne_ok {flaw : Flaw} (bad : partFlaw? .query (Form.render entries) = some flaw)
    (request : Request) : getRequest url entries timeout ≠ .ok request := by
  intro made
  unfold getRequest at made
  cases found : requestAddress url with
  | error other =>
      rw [found] at made
      cases made
  | ok address =>
      simp only [found, bind, Except.bind] at made
      cases changed : address.withQuery (some (Form.render entries)) with
      | error other =>
          rw [changed] at made
          cases made
      | ok whole => exact address.withQuery_ne_ok bad whole changed

/-- A request that can be made goes to the bare address with the form put in. -/
theorem bareAddress_of_getRequest {request : Request}
    (made : getRequest url entries timeout = .ok request) :
    ∃ bare, bareAddress url = .ok bare ∧ request.url = bare.putQuery (Form.render entries) := by
  cases sound : partFlaw? .query (Form.render entries) with
  | some flaw => exact (getRequest_ne_ok sound request made).elim
  | none =>
      rw [getRequest_eq_map sound] at made
      cases found : bareAddress url with
      | error flaw =>
          rw [found] at made
          cases made
      | ok bare =>
          rw [found] at made
          cases made
          exact ⟨bare, rfl, rfl⟩

/-- What is in the way of a request is not its query. -/
theorem obstacle?_putQuery (address : Address) (query : List Char) :
    obstacle? (address.putQuery query) = obstacle? address := rfl

end Soliscope.Explorer
