import Soliscope.Proofs.Explorer.Envelopes
import Soliscope.Proofs.Explorer.Requests

/-! # What a reply says

A reply tells a document when it is a success whose content reads as the document
(`Reply.Tells`). A reply that is of no use was lost on the way, is not a success, or does not tell
an envelope (`Reply.IsUseless`). Every reply is of use or not, except for those that break the call
down (`Reply.BreaksDown`): where a redirection points to may be no address, and the content may hold
too many containers in each other.
-/

namespace Soliscope.Explorer

/-- A response was received in whole, with its content. -/
def Response.Holds (response : Response) (content : List UInt8) : Prop :=
  response.content = .ok content

/-- A reply tells a document. -/
def Reply.Tells (reply : Reply) (document : Json) : Prop :=
  ∃ response content, reply = .answered response ∧ response.Holds content ∧
    isSuccess response.status = true ∧ Json.readDocument content = .ok document

/-- A reply is of no use. -/
inductive Reply.IsUseless (reply : Reply) : Prop
  /-- The transport failed. -/
  | failed {message : String} (isFailure : reply = .failed message)
  /-- The transport failed after the status was received. -/
  | broken {response : Response} (answered : reply = .answered response)
      (lost : ∀ content, ¬ response.Holds content)
  /-- The status is no success. -/
  | refusal {response : Response} (answered : reply = .answered response)
      (status : isSuccess response.status = false)
  /-- The content is not JSON, or no envelope. -/
  | garbled {response : Response} {content : List UInt8} (answered : reply = .answered response)
      (holds : response.Holds content)
      (foreign : ∀ document, Json.readDocument content = .ok document → ¬ IsEnvelope document)

/-- A reply breaks down the call to an address. -/
inductive Reply.BreaksDown (url : Url.Address) (reply : Reply) : Prop
  /-- The round trip broke down itself. -/
  | crash {message : String} (isCrash : reply = .brokeDown message)
  /-- What a redirection points to cannot be made an address. -/
  | redirection {response : Response} {content : List UInt8} {location : String}
      {breakdown : Breakdown} (answered : reply = .answered response)
      (holds : response.Holds content)
      (redirects : redirection? response.status response.headers = some location)
      (lost : redirectionTarget url location = .error (.brokeDown breakdown))
  /-- The content holds too many containers in each other. -/
  | deep {response : Response} {content : List UInt8} {container : Json.Container}
      (answered : reply = .answered response) (holds : response.Holds content)
      (success : isSuccess response.status = true)
      (stopped : Json.readDocument content = .error (.unreadable (.tooDeep container)))

/-- A response holds one content at most. -/
theorem Response.Holds.unique {response : Response} {first second : List UInt8}
    (held : response.Holds first) (again : response.Holds second) : first = second := by
  have same := held.symm.trans again
  cases same
  rfl

/-- A reply tells one document at most. -/
theorem Reply.Tells.unique {reply : Reply} {first second : Json} (told : reply.Tells first)
    (again : reply.Tells second) : first = second := by
  obtain ⟨response, content, rfl, holds, -, read⟩ := told
  obtain ⟨_, _, same, held, -, readAgain⟩ := again
  cases same
  obtain rfl := holds.unique held
  rw [read] at readAgain
  cases readAgain
  rfl

/-- A success is no redirection. -/
theorem redirection?_of_isSuccess {status : Nat} {headers : Headers}
    (success : isSuccess status = true) : redirection? status headers = none := by
  have other : redirectingStatuses.contains status = false := by
    rw [isSuccess, Bool.and_eq_true, decide_eq_true_eq, decide_eq_true_eq] at success
    rw [Bool.eq_false_iff, ne_eq, List.contains_iff_mem]
    intro member
    simp only [redirectingStatuses, List.mem_cons, List.not_mem_nil, or_false] at member
    omega
  rw [redirection?, other]
  rfl

section Received

variable {url : Url.Address} {response : Response} {content : List UInt8}

/-- From an absolute address the content that a response holds is received. -/
theorem receivedContent_of_holds (absolute : url.isAbsolute = true)
    (holds : response.Holds content) : receivedContent url response = .ok content := by
  rw [receivedContent, holds]
  exact if_pos absolute

theorem receivedContent_eq_ok :
    receivedContent url response = .ok content ↔
      url.isAbsolute = true ∧ response.Holds content := by
  constructor
  · intro received
    unfold receivedContent at received
    cases found : response.content with
    | error flaw =>
        rw [found] at received
        cases received
    | ok other =>
        rw [found] at received
        dsimp only at received
        split at received
        next absolute =>
          cases received
          exact ⟨absolute, found⟩
        next => cases received
  · rintro ⟨absolute, holds⟩
    exact receivedContent_of_holds absolute holds

/-- Receiving a content breaks no call down. -/
theorem receivedContent_ne_brokeDown {breakdown : Breakdown} :
    receivedContent url response ≠ .error (.brokeDown breakdown) := by
  intro broke
  unfold receivedContent at broke
  split at broke
  · cases broke
  · split at broke
    · cases broke
    · cases broke

end Received

/-- A content is a document if it reads as one. -/
theorem contentDocument_eq_ok {content : List UInt8} {document : Json} :
    contentDocument content = .ok document ↔ Json.readDocument content = .ok document := by
  unfold contentDocument
  cases Json.readDocument content with
  | ok value => simp
  | error error =>
      cases error with
      | undecodable flaw => simp
      | unreadable flaw => cases flaw <;> simp

/-- Only containers in containers break the reading of a document down. -/
theorem contentDocument_eq_brokeDown {content : List UInt8} {breakdown : Breakdown} :
    contentDocument content = .error (.brokeDown breakdown) ↔
      ∃ container, Json.readDocument content = .error (.unreadable (.tooDeep container)) ∧
        breakdown = .deepDocument container := by
  unfold contentDocument
  cases Json.readDocument content with
  | ok value => simp
  | error error =>
      cases error with
      | undecodable flaw => simp
      | unreadable flaw => cases flaw <;> simp [eq_comm]

/-- A document is an envelope if it has the form of one. -/
theorem documentEnvelope_eq_ok {document : Json} {envelope : Envelope} :
    documentEnvelope document = .ok envelope ↔ Envelope.read document = .accepted envelope := by
  unfold documentEnvelope
  cases Envelope.read document <;> simp

/-- A document of another form is an expected failure. -/
theorem documentEnvelope_ne_brokeDown {document : Json} {breakdown : Breakdown} :
    documentEnvelope document ≠ .error (.brokeDown breakdown) := by
  unfold documentEnvelope
  cases Envelope.read document <;> simp

/-- What comes of a response that is no success: it fails with its status, if where it points to is
an address. -/
def refusal (url : Url.Address) (response : Response) : Setback :=
  match redirection? response.status response.headers with
  | none => .failed (.status ⟨response.status, url.render, none⟩)
  | some location =>
    match redirectionTarget url location with
    | .error setback => setback
    | .ok _ => .failed (.status ⟨response.status, url.render, some location⟩)

/-- A refusal breaks a call down only if it is a redirection to a place that cannot be made. -/
theorem refusal_eq_brokeDown {url : Url.Address} {response : Response} {breakdown : Breakdown} :
    refusal url response = .brokeDown breakdown ↔
      ∃ location, redirection? response.status response.headers = some location ∧
        redirectionTarget url location = .error (.brokeDown breakdown) := by
  unfold refusal
  cases redirection? response.status response.headers with
  | none => simp
  | some location =>
      cases leads : redirectionTarget url location <;> simp [leads]

/-- The envelope of a response in three steps: the content is received, the status is looked at, and
the content of a success is read. -/
theorem envelopeOfResponse_eq (url : Url.Address) (response : Response) :
    envelopeOfResponse url response =
      (receivedContent url response).bind fun content =>
        if isSuccess response.status then (contentDocument content).bind documentEnvelope
        else .error (refusal url response) := by
  unfold envelopeOfResponse refusal
  cases receivedContent url response with
  | error setback => rfl
  | ok content =>
      cases success : isSuccess response.status with
      | true =>
          rw [redirection?_of_isSuccess success]
          rfl
      | false =>
          cases redirection? response.status response.headers with
          | none => rfl
          | some location =>
              cases leads : redirectionTarget url location <;>
                simp [leads, bind, Except.bind, throw, throwThe, MonadExceptOf.throw]

section Outcome

variable {url : Url.Address} {reply : Reply}

/-- A response with content is judged by its status and then by its content. -/
theorem envelopeOfResponse_of_holds {response : Response} {content : List UInt8}
    (absolute : url.isAbsolute = true) (holds : response.Holds content) :
    envelopeOfResponse url response =
      if isSuccess response.status then (contentDocument content).bind documentEnvelope
      else .error (refusal url response) := by
  rw [envelopeOfResponse_eq, receivedContent_of_holds absolute holds]
  rfl

/-- **Which replies give an envelope**: those that tell a document of the form. -/
theorem envelopeOfReply_eq_ok (absolute : url.isAbsolute = true) {envelope : Envelope} :
    envelopeOfReply url reply = .ok envelope ↔
      ∃ document, reply.Tells document ∧ Envelope.read document = .accepted envelope := by
  constructor
  · intro found
    cases reply with
    | failed message => cases found
    | brokeDown message => cases found
    | answered response =>
        change envelopeOfResponse url response = .ok envelope at found
        have whole := found
        rw [envelopeOfResponse_eq] at whole
        obtain ⟨content, received, -⟩ := bind_eq_ok.mp whole
        have holds := (receivedContent_eq_ok.mp received).2
        rw [envelopeOfResponse_of_holds absolute holds] at found
        split at found
        · rename_i success
          obtain ⟨document, read, accepted⟩ := bind_eq_ok.mp found
          exact ⟨document, ⟨response, content, rfl, holds, success, contentDocument_eq_ok.mp read⟩,
            documentEnvelope_eq_ok.mp accepted⟩
        · cases found
  · rintro ⟨document, ⟨response, content, rfl, holds, success, read⟩, accepted⟩
    change envelopeOfResponse url response = .ok envelope
    rw [envelopeOfResponse_of_holds absolute holds, if_pos success,
      contentDocument_eq_ok.mpr read]
    exact documentEnvelope_eq_ok.mpr accepted

/-- A content breaks a call down only by containers that lie too deep in each other. -/
theorem contentEnvelope_eq_brokeDown {content : List UInt8} {breakdown : Breakdown} :
    (contentDocument content).bind documentEnvelope = .error (.brokeDown breakdown) ↔
      ∃ container, Json.readDocument content = .error (.unreadable (.tooDeep container)) ∧
        breakdown = .deepDocument container := by
  rw [← contentDocument_eq_brokeDown]
  cases contentDocument content with
  | error setback =>
      constructor
      · intro broke
        cases broke
        rfl
      · intro broke
        cases broke
        rfl
  | ok document =>
      constructor
      · intro broke
        exact (documentEnvelope_ne_brokeDown broke).elim
      · intro broke
        cases broke

/-- What breaks a whole response down: where it leads to, or what is in it. -/
theorem envelopeOfResponse_eq_brokeDown {response : Response} {breakdown : Breakdown} :
    envelopeOfResponse url response = .error (.brokeDown breakdown) ↔
      ∃ content, response.Holds content ∧ url.isAbsolute = true ∧
        ((∃ location, redirection? response.status response.headers = some location ∧
            redirectionTarget url location = .error (.brokeDown breakdown)) ∨
          isSuccess response.status = true ∧
            ∃ container, Json.readDocument content = .error (.unreadable (.tooDeep container)) ∧
              breakdown = .deepDocument container) := by
  constructor
  · intro broke
    cases received : receivedContent url response with
    | error setback =>
        rw [envelopeOfResponse_eq, received] at broke
        cases broke
        exact (receivedContent_ne_brokeDown received).elim
    | ok content =>
        obtain ⟨absolute, holds⟩ := receivedContent_eq_ok.mp received
        refine ⟨content, holds, absolute, ?_⟩
        rw [envelopeOfResponse_of_holds absolute holds] at broke
        split at broke
        · rename_i success
          exact Or.inr ⟨success, contentEnvelope_eq_brokeDown.mp broke⟩
        · exact Or.inl (refusal_eq_brokeDown.mp (Except.error.inj broke))
  · rintro ⟨content, holds, absolute, ⟨location, redirects, lost⟩ | ⟨success, deep⟩⟩
    · have refused : ¬ isSuccess response.status = true := by
        intro success
        rw [redirection?_of_isSuccess success] at redirects
        cases redirects
      rw [envelopeOfResponse_of_holds absolute holds, if_neg refused,
        refusal_eq_brokeDown.mpr ⟨location, redirects, lost⟩]
    · rw [envelopeOfResponse_of_holds absolute holds, if_pos success]
      exact contentEnvelope_eq_brokeDown.mpr deep

/-- **Which replies break a call down.** -/
theorem envelopeOfReply_brokeDown_iff (absolute : url.isAbsolute = true) :
    (∃ breakdown, envelopeOfReply url reply = .error (.brokeDown breakdown)) ↔
      reply.BreaksDown url := by
  constructor
  · rintro ⟨breakdown, broke⟩
    cases reply with
    | failed message => cases broke
    | brokeDown message => exact .crash rfl
    | answered response =>
        obtain ⟨content, holds, -, ⟨location, redirects, lost⟩ | ⟨success, container, deep, -⟩⟩ :=
          envelopeOfResponse_eq_brokeDown.mp broke
        · exact .redirection rfl holds redirects lost
        · exact .deep rfl holds success deep
  · intro breaks
    cases breaks with
    | crash isCrash => exact ⟨_, by rw [isCrash]; rfl⟩
    | @redirection response content location breakdown answered holds redirects lost =>
        subst answered
        exact ⟨breakdown, envelopeOfResponse_eq_brokeDown.mpr
          ⟨content, holds, absolute, Or.inl ⟨location, redirects, lost⟩⟩⟩
    | @deep response content container answered holds success stopped =>
        subst answered
        exact ⟨.deepDocument container, envelopeOfResponse_eq_brokeDown.mpr
          ⟨content, holds, absolute, Or.inr ⟨success, container, stopped, rfl⟩⟩⟩

end Outcome

/-- **A reply is useless exactly when it tells no envelope**, unless it breaks the call down. -/
theorem Reply.isUseless_iff {url : Url.Address} {reply : Reply} (fine : ¬ reply.BreaksDown url) :
    reply.IsUseless ↔ ¬ ∃ document, reply.Tells document ∧ IsEnvelope document := by
  constructor
  · rintro useless ⟨document, ⟨response, content, answered, holds, success, read⟩, form⟩
    subst answered
    cases useless with
    | failed isFailure => cases isFailure
    | broken same lost =>
        cases same
        exact lost content holds
    | refusal same refused =>
        cases same
        rw [success] at refused
        cases refused
    | garbled same held foreign =>
        cases same
        obtain rfl := held.unique holds
        exact foreign document read form
  · intro untold
    cases reply with
    | failed message => exact .failed rfl
    | brokeDown message => exact (fine (.crash rfl)).elim
    | answered response =>
        by_cases held : ∃ content, response.Holds content
        · obtain ⟨content, holds⟩ := held
          cases success : isSuccess response.status with
          | false => exact .refusal rfl success
          | true =>
              refine .garbled rfl holds fun document read form => untold ⟨document, ?_, form⟩
              exact ⟨response, content, rfl, holds, success, read⟩
        · exact .broken rfl (not_exists.mp held)

section Call

variable {explorer other : Request → Reply} {request : Request}

/-- A call depends on the reply to its own request only. -/
theorem call_congr {written : Except Url.Flaw Request}
    (same : ∀ request, written = .ok request → other request = explorer request) :
    call other written = call explorer written := by
  cases written with
  | error flaw => rfl
  | ok request =>
      simp only [call, callExplorer, same request rfl]

/-- If nothing is in the way, a call gives what the reply to its request says. -/
theorem value_call (free : obstacle? request.url = none) :
    (call explorer (.ok request)).value = envelopeOfReply request.url (explorer request) := by
  simp only [call, free, Traced.value_bind, value_callExplorer, Traced.value_pure]

end Call

end Soliscope.Explorer
