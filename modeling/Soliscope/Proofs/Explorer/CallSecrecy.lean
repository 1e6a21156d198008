import Soliscope.Proofs.Explorer.Calls
import Soliscope.Proofs.Explorer.Messages
import Soliscope.Proofs.Explorer.Redirections

/-! # Calls with different keys

Two calls that differ only in the key of their request, and that get the same reply, have outcomes
that cannot be told apart once messages are redacted (`envelopeOfReply_alike`). The exceptions are
replies that redirect to a place that is too long in relation to the address with one of the keys
(`Reply.Overruns`); for these it is told exactly what comes of them.
-/

namespace Soliscope.Explorer

open Soliscope.Url

/-- Two outcomes cannot be told apart once messages are redacted. -/
inductive Alike {α : Type} : Except Setback α → Except Setback α → Prop
  | same (outcome : Except Setback α) : Alike outcome outcome
  | masked {one other : CallFailure} (same : redact one.message = redact other.message) :
      Alike (.error (.failed one)) (.error (.failed other))

/-- A reply redirects to a place that is too long in relation to the address asked for. -/
def Reply.Overruns (reply : Reply) (url : Address) : Prop :=
  ∃ response content location, reply = .answered response ∧ response.Holds content ∧
    url.isAbsolute = true ∧ redirection? response.status response.headers = some location ∧
    Explorer.Overruns url location

/-- Only such a reply breaks a call down by a place that is too long. -/
theorem envelopeOfReply_eq_tooLong_iff {url : Address} {reply : Reply} :
    envelopeOfReply url reply = .error (.brokeDown (.badUrl .tooLong)) ↔ reply.Overruns url := by
  constructor
  · intro broke
    cases reply with
    | failed message => cases broke
    | brokeDown message => cases broke
    | answered response =>
        obtain ⟨content, holds, absolute, ⟨location, redirects, lost⟩ | ⟨-, container, -, other⟩⟩ :=
          envelopeOfResponse_eq_brokeDown.mp broke
        · exact ⟨response, content, location, rfl, holds, absolute, redirects,
            redirectionTarget_eq_tooLong_iff.mp lost⟩
        · cases other
  · rintro ⟨response, content, location, rfl, holds, absolute, redirects, overruns⟩
    exact envelopeOfResponse_eq_brokeDown.mpr ⟨content, holds, absolute,
      Or.inl ⟨location, redirects, redirectionTarget_eq_tooLong_iff.mpr overruns⟩⟩

section Keys

variable {bare : Address} {before after : List (String × String)} {first second : String}

/-- A form is not too long for an address by itself. -/
def Fits (entries : List (String × String)) : Prop :=
  (Form.render entries).length ≤ lengthLimit

/-- The address of a request with a key. -/
def keyUrl (bare : Address) (before after : List (String × String)) (key : String) : Address :=
  bare.putQuery (Form.render (keyEntries before after key))

/-- A form with a key that fits is a query of a form. -/
theorem isFormQuery_keyEntries {key : String}
    (fits : Fits (keyEntries before after key)) :
    IsFormQuery (Form.render (keyEntries before after key)) := by
  refine ⟨?_, fun c member => isFormChar_of_mem_render member, fits⟩
  obtain ⟨lead, trail, isForm⟩ := render_keyEntries before after
  rw [isForm]
  intro empty
  cases (List.append_eq_nil_iff.mp (List.append_eq_nil_iff.mp empty).2).1

variable (firstGiven : first ≠ "") (secondGiven : second ≠ "")

include firstGiven secondGiven

/-- The failure of a call to an address that does not say where to go does not show the key. -/
theorem noScheme_alike {α : Type} :
    Alike (.error (.failed (.noScheme (keyUrl bare before after first).render)) :
        Except Setback α)
      (.error (.failed (.noScheme (keyUrl bare before after second).render))) :=
  .masked ((carriesKey_render bare before after).noSchemeMessage.redact_eq firstGiven secondGiven)

/-- The failure of a call by its status does not show the key. -/
theorem status_alike {α : Type} (status : Nat) (location : Option String) :
    Alike (.error (.failed (.status
        ⟨status, (keyUrl bare before after first).render, location⟩)) : Except Setback α)
      (.error (.failed (.status
        ⟨status, (keyUrl bare before after second).render, location⟩))) :=
  .masked (((carriesKey_render bare before after).statusMessage status location).redact_eq
    firstGiven secondGiven)

/-- What comes of a response that is no success does not show the key. -/
theorem refusal_alike {α : Type} (clean : bare.IsClean)
    (firstFits : Fits (keyEntries before after first))
    (secondFits : Fits (keyEntries before after second))
    {response : Response}
    (firstNear : ∀ location, redirection? response.status response.headers = some location →
      ¬ Explorer.Overruns (keyUrl bare before after first) location)
    (secondNear : ∀ location, redirection? response.status response.headers = some location →
      ¬ Explorer.Overruns (keyUrl bare before after second) location) :
    Alike (.error (refusal (keyUrl bare before after first) response) : Except Setback α)
      (.error (refusal (keyUrl bare before after second) response)) := by
  unfold refusal
  cases redirects : redirection? response.status response.headers with
  | none => exact status_alike firstGiven secondGiven response.status none
  | some location =>
      have leads := redirectionTarget_alike clean (isFormQuery_keyEntries firstFits)
        (isFormQuery_keyEntries secondFits) (firstNear location redirects)
        (secondNear location redirects)
      change (redirectionTarget (keyUrl bare before after first) location).map _ =
        (redirectionTarget (keyUrl bare before after second) location).map _ at leads
      dsimp only
      cases one : redirectionTarget (keyUrl bare before after first) location with
      | error setback =>
          cases other : redirectionTarget (keyUrl bare before after second) location with
          | error setback =>
              rw [one, other] at leads
              cases leads
              exact .same _
          | ok target =>
              rw [one, other] at leads
              cases leads
      | ok target =>
          cases other : redirectionTarget (keyUrl bare before after second) location with
          | error setback =>
              rw [one, other] at leads
              cases leads
          | ok target =>
              exact status_alike firstGiven secondGiven response.status (some location)

/-- **A reply shows nothing of the key** of the request, unless it redirects to a place that is too
long with one of the keys. -/
theorem envelopeOfReply_alike (clean : bare.IsClean)
    (firstFits : Fits (keyEntries before after first))
    (secondFits : Fits (keyEntries before after second))
    {reply : Reply} (firstNear : ¬ reply.Overruns (keyUrl bare before after first))
    (secondNear : ¬ reply.Overruns (keyUrl bare before after second)) :
    Alike (envelopeOfReply (keyUrl bare before after first) reply)
      (envelopeOfReply (keyUrl bare before after second) reply) := by
  cases reply with
  | failed message => exact .same _
  | brokeDown message => exact .same _
  | answered response =>
      change Alike (envelopeOfResponse _ response) (envelopeOfResponse _ response)
      rw [envelopeOfResponse_eq, envelopeOfResponse_eq]
      unfold receivedContent
      cases found : response.content with
      | error flaw => exact .same _
      | ok content =>
          have absolute (key : String) :
              (keyUrl bare before after key).isAbsolute = bare.isAbsolute := rfl
          dsimp only
          rw [absolute, absolute]
          cases isAbsolute : bare.isAbsolute with
          | false => exact noScheme_alike firstGiven secondGiven
          | true =>
              cases success : isSuccess response.status with
              | true => exact .same _
              | false =>
                  have near {key : String}
                      (fine : ¬ Reply.Overruns (.answered response)
                        (keyUrl bare before after key)) (location : String)
                      (redirects : redirection? response.status response.headers =
                        some location) :
                      ¬ Explorer.Overruns (keyUrl bare before after key) location :=
                    fun overruns => fine ⟨response, content, location, rfl, found, isAbsolute,
                      redirects, overruns⟩
                  exact refusal_alike firstGiven secondGiven clean firstFits secondFits
                    (near firstNear) (near secondNear)

end Keys

/-- A request is answered by a redirection to a place that is too long. -/
def Reply.OverrunsRequest (reply : Reply) (url : String) (entries : List (String × String))
    (timeout : Float) : Prop :=
  ∃ request, getRequest url entries timeout = .ok request ∧ obstacle? request.url = none ∧
    reply.Overruns request.url

/-- Two outcomes show the same: the same value and the same log. -/
def SameShown {α : Type} (one other : Traced α) : Prop :=
  one.value = other.value ∧ one.log = other.log

/-- A report shows no more of a failure than its redacted message, and of a breakdown that alone. -/
structure IsDiscreet {α : Type}
    (report : Except Setback Envelope → Traced (Except Breakdown α)) : Prop where
  brokeDown : ∀ breakdown, report (.error (.brokeDown breakdown)) = pure (.error breakdown)
  failed : ∀ one other : CallFailure, redact one.message = redact other.message →
    report (.error (.failed one)) = report (.error (.failed other))
  /-- Nothing but a breakdown breaks the report down by an address. -/
  badUrl : ∀ answer flaw, (report answer).value = .error (.badUrl flaw) →
    answer = .error (.brokeDown (.badUrl flaw))

/-- A call writes nothing to the log. -/
theorem log_call (explorer : Request → Reply) (written : Except Url.Flaw Request) :
    (call explorer written).log = [] := by
  cases written with
  | error flaw => rfl
  | ok request =>
      unfold call
      dsimp only
      split
      · rfl
      · rfl

/-- A discreet report tells nothing apart that is alike. -/
theorem IsDiscreet.report_eq {α : Type}
    {report : Except Setback Envelope → Traced (Except Breakdown α)} (discreet : IsDiscreet report)
    {one other : Except Setback Envelope} (alike : Alike one other) :
    report one = report other := by
  cases alike with
  | same => rfl
  | masked same => exact discreet.failed _ _ same

/-- Calls with outcomes that are alike are reported alike. -/
theorem IsDiscreet.sameShown {α : Type}
    {report : Except Setback Envelope → Traced (Except Breakdown α)} (discreet : IsDiscreet report)
    {explorer : Request → Reply} {one other : Except Url.Flaw Request}
    (alike : Alike (call explorer one).value (call explorer other).value) :
    SameShown (call explorer one >>= report) (call explorer other >>= report) := by
  have same := discreet.report_eq alike
  refine ⟨?_, ?_⟩
  · rw [Traced.value_bind, Traced.value_bind, same]
  · rw [Traced.log_bind, Traced.log_bind, log_call, log_call, same]

section KeyRequests

variable {url : String} {bare : Address} {before after : List (String × String)} {timeout : Float}
  {reply : Reply}

/-- With a key that fits, a request is made to the address with the key in its query. -/
theorem getRequest_key {key : String} (fits : Fits (keyEntries before after key))
    (isBare : bareAddress url = .ok bare) :
    getRequest url (keyEntries before after key) timeout = .ok {
      method := .get, url := keyUrl bare before after key, body := "", timeout := timeout } := by
  rw [getRequest_eq_map (isFormQuery_keyEntries fits).sound, isBare]
  rfl

/-- A reply overruns a request if the request is made and the place that the reply names is too
long. -/
theorem overrunsRequest_iff {key : String} (fits : Fits (keyEntries before after key))
    (isBare : bareAddress url = .ok bare) :
    reply.OverrunsRequest url (keyEntries before after key) timeout ↔
      obstacle? bare = none ∧ reply.Overruns (keyUrl bare before after key) := by
  unfold Reply.OverrunsRequest
  rw [getRequest_key fits isBare]
  constructor
  · rintro ⟨request, made, free, overruns⟩
    cases made
    exact ⟨free, overruns⟩
  · rintro ⟨free, overruns⟩
    exact ⟨_, rfl, free, overruns⟩

/-- If nothing is in the way, the reply to the address with the key decides. -/
theorem value_call_key {key : String} (fits : Fits (keyEntries before after key))
    (isBare : bareAddress url = .ok bare) (free : obstacle? bare = none) :
    (call (fun _ => reply) (getRequest url (keyEntries before after key) timeout)).value =
      envelopeOfReply (keyUrl bare before after key) reply := by
  rw [getRequest_key fits isBare]
  apply value_call
  exact free

/-- If something is in the way, no reply counts. -/
theorem value_call_blocked {key : String} (fits : Fits (keyEntries before after key))
    (isBare : bareAddress url = .ok bare) {failure : CallFailure}
    (blocked : obstacle? bare = some failure) :
    (call (fun _ => reply) (getRequest url (keyEntries before after key) timeout)).value =
      .error (.failed failure) := by
  have stays : obstacle? (keyUrl bare before after key) = some failure := blocked
  rw [getRequest_key fits isBare]
  simp only [call, stays, Traced.value_pure]

/-- The call breaks down by a place that is too long just as the request says. -/
theorem value_call_tooLong_iff {key : String} (fits : Fits (keyEntries before after key))
    (isBare : bareAddress url = .ok bare) :
    (call (fun _ => reply) (getRequest url (keyEntries before after key) timeout)).value =
        .error (.brokeDown (.badUrl .tooLong)) ↔
      reply.OverrunsRequest url (keyEntries before after key) timeout := by
  rw [overrunsRequest_iff fits isBare, ← envelopeOfReply_eq_tooLong_iff]
  cases blocked : obstacle? bare with
  | some failure =>
      rw [value_call_blocked fits isBare blocked]
      constructor
      · intro broke
        cases broke
      · rintro ⟨free, -⟩
        cases free
  | none => rw [value_call_key fits isBare blocked, and_iff_right rfl]

variable {first second : String} (firstGiven : first ≠ "") (secondGiven : second ≠ "")
  (firstFits : Fits (keyEntries before after first))
  (secondFits : Fits (keyEntries before after second))

include firstGiven secondGiven firstFits secondFits

/-- A call shows nothing of its key, unless the reply redirects to a place that is too long. -/
theorem call_alike
    (firstNear : ¬ reply.OverrunsRequest url (keyEntries before after first) timeout)
    (secondNear : ¬ reply.OverrunsRequest url (keyEntries before after second) timeout) :
    Alike (call (fun _ => reply) (getRequest url (keyEntries before after first) timeout)).value
      (call (fun _ => reply) (getRequest url (keyEntries before after second) timeout)).value := by
  cases isBare : bareAddress url with
  | error flaw =>
      rw [getRequest_eq_map (isFormQuery_keyEntries firstFits).sound,
        getRequest_eq_map (isFormQuery_keyEntries secondFits).sound, isBare]
      exact .same _
  | ok bare =>
      rw [overrunsRequest_iff firstFits isBare] at firstNear
      rw [overrunsRequest_iff secondFits isBare] at secondNear
      cases blocked : obstacle? bare with
      | some failure =>
          rw [value_call_blocked firstFits isBare blocked,
            value_call_blocked secondFits isBare blocked]
          exact .same _
      | none =>
          rw [value_call_key firstFits isBare blocked, value_call_key secondFits isBare blocked]
          exact envelopeOfReply_alike firstGiven secondGiven (bareAddress_isClean isBare) firstFits
            secondFits (fun overruns => firstNear ⟨blocked, overruns⟩)
            fun overruns => secondNear ⟨blocked, overruns⟩

end KeyRequests

section Reports

variable {α : Type} {report : Except Setback Envelope → Traced (Except Breakdown α)}
  {url : String} {before after : List (String × String)} {timeout : Float} {reply : Reply}
  {first second : String}

/-- Where one key makes a place too long and the same is shown, the other key does so, too. -/
theorem IsDiscreet.overrunsRequest_of_sameShown (discreet : IsDiscreet report)
    (firstFits : Fits (keyEntries before after first))
    (secondFits : Fits (keyEntries before after second))
    (shown : SameShown
      (call (fun _ => reply) (getRequest url (keyEntries before after first) timeout) >>= report)
      (call (fun _ => reply) (getRequest url (keyEntries before after second) timeout) >>= report))
    (overruns : reply.OverrunsRequest url (keyEntries before after first) timeout) :
    reply.OverrunsRequest url (keyEntries before after second) timeout := by
  obtain ⟨request, made, -, -⟩ := id overruns
  obtain ⟨bare, isBare, -⟩ := bareAddress_of_getRequest made
  have same := shown.1
  rw [Traced.value_bind, (value_call_tooLong_iff firstFits isBare).mpr overruns,
    discreet.brokeDown] at same
  exact (value_call_tooLong_iff secondFits isBare).mp (discreet.badUrl _ _ same.symm)

/-- **When a call shows nothing of its key**: exactly if its reply redirects to a place that is too
long with both of two keys or with none of them. -/
theorem IsDiscreet.sameShown_iff (discreet : IsDiscreet report) (firstGiven : first ≠ "")
    (secondGiven : second ≠ "") (firstFits : Fits (keyEntries before after first))
    (secondFits : Fits (keyEntries before after second)) :
    SameShown
        (call (fun _ => reply) (getRequest url (keyEntries before after first) timeout) >>= report)
        (call (fun _ => reply) (getRequest url (keyEntries before after second) timeout) >>=
          report) ↔
      (reply.OverrunsRequest url (keyEntries before after first) timeout ↔
        reply.OverrunsRequest url (keyEntries before after second) timeout) := by
  constructor
  · intro shown
    have back := And.intro shown.1.symm shown.2.symm
    exact ⟨discreet.overrunsRequest_of_sameShown firstFits secondFits shown,
      discreet.overrunsRequest_of_sameShown secondFits firstFits back⟩
  · intro both
    refine discreet.sameShown ?_
    by_cases overruns : reply.OverrunsRequest url (keyEntries before after first) timeout
    · obtain ⟨request, made, -, -⟩ := id overruns
      obtain ⟨bare, isBare, -⟩ := bareAddress_of_getRequest made
      rw [(value_call_tooLong_iff firstFits isBare).mpr overruns,
        (value_call_tooLong_iff secondFits isBare).mpr (both.mp overruns)]
      exact .same _
    · exact call_alike firstGiven secondGiven firstFits secondFits overruns
        fun other => overruns (both.mpr other)

end Reports

end Soliscope.Explorer
