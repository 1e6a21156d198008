import Mathlib.Data.List.Forall2
import Soliscope.Explorer.Verification
import Soliscope.Proofs.Explorer.Calls
import Soliscope.Proofs.Json.Depth

/-! # What polls find out

A poll tells what its own reply says about its job and nothing else: a useless reply leaves the
status unknown, and any other status is read off an envelope (`Poll.IsAnswered`). This holds for
every poll of a series, in which the explorer may go by everything it was asked before
(`pollSeries_answered`). What goes wrong is a reply that breaks the call down, after which there is
no status at all, and a chain without an endpoint whose id has too many digits to be told.
-/

namespace Soliscope.Explorer

/-- A question about a job. -/
structure Poll where
  chain : ChainId
  job : Argument
  apiKey : Argument

/-- Ask the question. -/
def Poll.ask (poll : Poll) (registry : Registry) (settings : Settings)
    (explorer : Request → Reply) : Traced (Except Breakdown StatusResult) :=
  pollStatus registry settings explorer poll.chain poll.job poll.apiKey

/-- The request of a poll to an endpoint. -/
def Poll.request (poll : Poll) (settings : Settings) (endpoint : Endpoint) :
    Except Url.Flaw Request :=
  getRequest endpoint.apiUrl (pollForm poll.apiKey poll.job) settings.statusTimeout

/-- Requests to the address of an endpoint say where to go, and can be made. -/
def Endpoint.isUsable (endpoint : Endpoint) : Bool :=
  match bareAddress endpoint.apiUrl with
  | .ok address => address.isAbsolute && (obstacle? address).isNone
  | .error _ => false

/-- A poll makes a request and gets a reply. -/
def Poll.Gets (poll : Poll) (registry : Registry) (settings : Settings)
    (explorer : Request → Reply) (request : Request) (reply : Reply) : Prop :=
  ∃ endpoint, registry.find? poll.chain = some endpoint ∧
    poll.request settings endpoint = .ok request ∧ explorer request = reply

/-- A poll is told an envelope. -/
def Poll.IsTold (poll : Poll) (registry : Registry) (settings : Settings)
    (explorer : Request → Reply) (document : Json) : Prop :=
  (∃ request reply, poll.Gets registry settings explorer request reply ∧ reply.Tells document) ∧
    IsEnvelope document

/-- The outcome of a poll is what it should be for the explorer. -/
structure Poll.IsAnswered (poll : Poll) (registry : Registry) (settings : Settings)
    (explorer : Request → Reply) (outcome : Traced (Except Breakdown StatusResult)) : Prop where
  /-- Any explorer that gives this poll the same reply gives it the same outcome. -/
  alone : ∀ other : Request → Reply,
    (∀ request reply, poll.Gets registry settings explorer request reply →
      other request = reply) → poll.ask registry settings other = outcome
  /-- There is a result unless the reply breaks the call down, or the chain has no endpoint and
  cannot be shown. -/
  returns : (∃ result, outcome.value = .ok result) ↔
    (registry.find? poll.chain = none → poll.chain.isShowable = true) ∧
      ∀ request reply, poll.Gets registry settings explorer request reply →
        ¬ reply.BreaksDown request.url
  unknown : ∀ result, outcome.value = .ok result → (result.status = .unknown ↔
    registry.find? poll.chain = none ∨
      ∃ request reply, poll.Gets registry settings explorer request reply ∧ reply.IsUseless)
  pass : ∀ result, outcome.value = .ok result → (result.status = .pass ↔
    ∃ document, poll.IsTold registry settings explorer document ∧ SaysOk document)
  pending : ∀ result, outcome.value = .ok result → (result.status = .pending ↔
    ∃ document, poll.IsTold registry settings explorer document ∧ ¬ SaysOk document ∧
      document.field? "result" = some (.str pendingText))
  fail : ∀ result, outcome.value = .ok result → (result.status = .fail ↔
    ∃ document, poll.IsTold registry settings explorer document ∧ ¬ SaysOk document ∧
      document.field? "result" ≠ some (.str pendingText))
  message : ∀ result, outcome.value = .ok result → result.message ≠ ""

/-- A text or another that is not empty is not empty. -/
theorem orElseText_ne_empty {text other : String} (given : other ≠ "") :
    orElseText text other ≠ "" := by
  unfold orElseText
  cases empty : text.isEmpty with
  | true => simpa using given
  | false =>
      intro same
      simp only [Bool.false_eq_true, ↓reduceIte] at same
      rw [same] at empty
      cases empty

/-- Every status comes with a message. -/
theorem statusOf_message_ne_empty (envelope : Envelope) : (statusOf envelope).message ≠ "" := by
  unfold statusOf
  split
  · decide
  · split
    · decide
    · exact orElseText_ne_empty (by decide)

/-- What an envelope says is never that nothing is known. -/
theorem statusOf_ne_unknown (envelope : Envelope) : (statusOf envelope).status ≠ .unknown := by
  unfold statusOf
  split
  · decide
  · split <;> exact fun same => (by cases same)

section StatusOf

variable {document : Json} {envelope : Envelope}

/-- A job passed if the document says that all went well. -/
theorem statusOf_pass_iff (read : Envelope.read document = .accepted envelope) :
    (statusOf envelope).status = .pass ↔ SaysOk document := by
  rw [← Envelope.isOk_iff read]
  unfold statusOf
  cases envelope.isOk with
  | true => simp
  | false =>
      simp only [Bool.false_eq_true, ↓reduceIte, iff_false]
      split <;> exact fun same => (by cases same)

/-- A job is pending if the document says otherwise and gives just the text for that. -/
theorem statusOf_pending_iff (read : Envelope.read document = .accepted envelope) :
    (statusOf envelope).status = .pending ↔
      ¬ SaysOk document ∧ document.field? "result" = some (.str pendingText) := by
  rw [← Envelope.isOk_iff read, ← Envelope.result_text_iff read]
  unfold statusOf
  cases envelope.isOk with
  | true => simp
  | false =>
      by_cases waits : envelope.result.text? = some pendingText
      · simp [waits]
      · simp [waits]

/-- A job failed if the document says anything else. -/
theorem statusOf_fail_iff (read : Envelope.read document = .accepted envelope) :
    (statusOf envelope).status = .fail ↔
      ¬ SaysOk document ∧ document.field? "result" ≠ some (.str pendingText) := by
  rw [← Envelope.isOk_iff read, ne_eq, ← Envelope.result_text_iff read]
  unfold statusOf
  cases envelope.isOk with
  | true => simp
  | false =>
      by_cases waits : envelope.result.text? = some pendingText
      · simp [waits]
      · simp [waits]

end StatusOf

/-- What a poll of an endpoint reports about a job when its call gave something. -/
def statusReport (endpoint : Endpoint) (job : Argument) :
    Except Setback Envelope → Traced (Except Breakdown StatusResult)
  | .error (.brokeDown breakdown) => pure (.error breakdown)
  | .error (.failed failure) => do
    let message := failureMessage failure "Failed to check status"
    record .warning ("Status check for job " ++ job.shown ++ " failed: " ++ message)
    pure (.ok ⟨.unknown, message⟩)
  | .ok envelope => do
    let result := statusOf envelope
    record .debug ("Job " ++ job.shown ++ " on " ++ endpoint.displayName ++ ": " ++
      result.status.name)
    pure (.ok result)

section OnePoll

variable {registry : Registry} {settings : Settings} {explorer other : Request → Reply}
  {poll : Poll} {endpoint : Endpoint}

/-- What a poll of a chain without an endpoint gives: the chain is told, if its id can be shown. -/
def unsupportedStatus (chain : ChainId) : Except Breakdown StatusResult :=
  if chain.isShowable then .ok ⟨.unknown, "Chain ID " ++ chain.shown ++ " not supported"⟩
  else .error .longInteger

/-- Such a poll gives a result exactly if the chain can be told. -/
theorem unsupportedStatus_eq_ok {chain : ChainId} {result : StatusResult} :
    unsupportedStatus chain = .ok result ↔
      chain.isShowable = true ∧
        result = ⟨.unknown, "Chain ID " ++ chain.shown ++ " not supported"⟩ := by
  unfold unsupportedStatus
  cases chain.isShowable with
  | true => simp [eq_comm]
  | false => simp

/-- A chain without an endpoint is not asked about. -/
theorem Poll.ask_of_unregistered (poll : Poll) (unknown : registry.find? poll.chain = none) :
    poll.ask registry settings explorer = pure (unsupportedStatus poll.chain) := by
  rw [Poll.ask, pollStatus, unknown]
  unfold unsupportedStatus
  cases poll.chain.isShowable <;> rfl

/-- A poll of a registered chain makes one call and reports what it gave. -/
theorem Poll.ask_of_registered (poll : Poll) (found : registry.find? poll.chain = some endpoint) :
    poll.ask registry settings explorer =
      call explorer (poll.request settings endpoint) >>= statusReport endpoint poll.job := by
  rw [Poll.ask, pollStatus, found]
  refine congrArg (call explorer (poll.request settings endpoint) >>= ·) (funext fun answer => ?_)
  cases answer with
  | ok envelope => rfl
  | error setback => cases setback <;> rfl

/-- A poll depends on the reply to its own request only. -/
theorem Poll.ask_congr
    (same : ∀ request reply, poll.Gets registry settings explorer request reply →
      other request = reply) :
    poll.ask registry settings other = poll.ask registry settings explorer := by
  cases found : registry.find? poll.chain with
  | none => rw [poll.ask_of_unregistered found, poll.ask_of_unregistered found]
  | some endpoint =>
      have sameCall : call other (poll.request settings endpoint) =
          call explorer (poll.request settings endpoint) :=
        call_congr fun request made => same request (explorer request) ⟨endpoint, found, made, rfl⟩
      rw [poll.ask_of_registered found, poll.ask_of_registered found, sameCall]

variable {request : Request}

/-- The reply that a poll gets is that to its own request. -/
theorem Poll.gets_iff (found : registry.find? poll.chain = some endpoint)
    (made : poll.request settings endpoint = .ok request) {asked : Request} {reply : Reply} :
    poll.Gets registry settings explorer asked reply ↔
      asked = request ∧ reply = explorer request := by
  constructor
  · rintro ⟨other, foundAgain, madeAgain, rfl⟩
    rw [found] at foundAgain
    cases foundAgain
    rw [made] at madeAgain
    cases madeAgain
    exact ⟨rfl, rfl⟩
  · rintro ⟨rfl, rfl⟩
    exact ⟨endpoint, found, made, rfl⟩

/-- What a poll is told is the document in that reply, if it is an envelope. -/
theorem Poll.isTold_iff (found : registry.find? poll.chain = some endpoint)
    (made : poll.request settings endpoint = .ok request) {document : Json} :
    poll.IsTold registry settings explorer document ↔
      (explorer request).Tells document ∧ IsEnvelope document := by
  refine and_congr_left fun _ => ?_
  constructor
  · rintro ⟨asked, reply, gets, told⟩
    obtain ⟨rfl, rfl⟩ := (Poll.gets_iff found made).mp gets
    exact told
  · intro told
    exact ⟨request, explorer request, (Poll.gets_iff found made).mpr ⟨rfl, rfl⟩, told⟩

/-- A request to a usable endpoint says where to go, and can be made. -/
theorem Endpoint.getRequest_usable (usable : endpoint.isUsable = true)
    {entries : List (String × String)} {timeout : Float}
    (made : getRequest endpoint.apiUrl entries timeout = .ok request) :
    request.url.isAbsolute = true ∧ obstacle? request.url = none := by
  obtain ⟨bare, found, isUrl⟩ := bareAddress_of_getRequest made
  rw [Endpoint.isUsable, found] at usable
  dsimp only at usable
  rw [Bool.and_eq_true, Option.isNone_iff_eq_none] at usable
  rw [isUrl, Url.Address.isAbsolute_putQuery, obstacle?_putQuery]
  exact usable

/-- The outcome of a poll is the report on its reply. -/
theorem Poll.value_ask (found : registry.find? poll.chain = some endpoint)
    (made : poll.request settings endpoint = .ok request) (free : obstacle? request.url = none) :
    (poll.ask registry settings explorer).value =
      (statusReport endpoint poll.job (envelopeOfReply request.url (explorer request))).value := by
  rw [poll.ask_of_registered found, Traced.value_bind, made, value_call free]

/-- A report on a status has a result unless the call broke down. -/
theorem exists_statusReport_iff {job : Argument} {answer : Except Setback Envelope} :
    (∃ result, (statusReport endpoint job answer).value = .ok result) ↔
      ¬ ∃ breakdown, answer = .error (.brokeDown breakdown) := by
  cases answer with
  | ok envelope => simp [statusReport]
  | error setback => cases setback <;> simp [statusReport]

/-- A result tells of a failure, or of the envelope. -/
theorem statusReport_eq_ok {job : Argument} {answer : Except Setback Envelope}
    {result : StatusResult} (reported : (statusReport endpoint job answer).value = .ok result) :
    (∃ failure, answer = .error (.failed failure) ∧
      result = ⟨.unknown, failureMessage failure "Failed to check status"⟩) ∨
    ∃ envelope, answer = .ok envelope ∧ result = statusOf envelope := by
  cases answer with
  | ok envelope =>
      cases reported
      exact Or.inr ⟨envelope, rfl, rfl⟩
  | error setback =>
      cases setback with
      | brokeDown breakdown => cases reported
      | failed failure =>
          cases reported
          exact Or.inl ⟨failure, rfl, rfl⟩

/-- The result of a poll is unknown after a useless reply, and else the status of an envelope. -/
theorem Poll.result_cases (found : registry.find? poll.chain = some endpoint)
    (made : poll.request settings endpoint = .ok request)
    (absolute : request.url.isAbsolute = true) (free : obstacle? request.url = none)
    {result : StatusResult}
    (returned : (poll.ask registry settings explorer).value = .ok result) :
    ((explorer request).IsUseless ∧
      (∀ document, ¬ poll.IsTold registry settings explorer document) ∧
      result.status = .unknown ∧ result.message ≠ "") ∨
    ¬ (explorer request).IsUseless ∧
      ∃ document envelope, poll.IsTold registry settings explorer document ∧
        Envelope.read document = .accepted envelope ∧ result = statusOf envelope := by
  rw [Poll.value_ask found made free] at returned
  have fine : ¬ (explorer request).BreaksDown request.url := by
    rw [← envelopeOfReply_brokeDown_iff absolute]
    exact exists_statusReport_iff.mp ⟨result, returned⟩
  have useless_iff := Reply.isUseless_iff fine
  rcases statusReport_eq_ok returned with ⟨failure, failed, rfl⟩ | ⟨envelope, given, rfl⟩
  · have untold : ¬ ∃ document, (explorer request).Tells document ∧ IsEnvelope document := by
      rintro ⟨document, told, form⟩
      obtain ⟨envelope, read⟩ := Envelope.exists_read_iff.mpr form
      rw [(envelopeOfReply_eq_ok absolute).mpr ⟨document, told, read⟩] at failed
      cases failed
    refine Or.inl ⟨useless_iff.mpr untold, ?_, rfl, orElseText_ne_empty (by decide)⟩
    intro document told
    exact untold ⟨document, (Poll.isTold_iff found made).mp told⟩
  · obtain ⟨document, told, read⟩ := (envelopeOfReply_eq_ok absolute).mp given
    have form : IsEnvelope document := Envelope.exists_read_iff.mp ⟨envelope, read⟩
    refine Or.inr ⟨fun useless => useless_iff.mp useless ⟨document, told, form⟩, ?_⟩
    exact ⟨document, envelope, (Poll.isTold_iff found made).mpr ⟨told, form⟩, read, rfl⟩

end OnePoll

section Answered

variable {registry : Registry} {settings : Settings} {explorer : Request → Reply} {poll : Poll}

/-- A poll of a chain without an endpoint is answered without a call. -/
theorem Poll.ask_isAnswered_of_unregistered (unknown : registry.find? poll.chain = none) :
    poll.IsAnswered registry settings explorer (poll.ask registry settings explorer) := by
  have noReply (request : Request) (reply : Reply) :
      ¬ poll.Gets registry settings explorer request reply := by
    rintro ⟨endpoint, found, -⟩
    rw [unknown] at found
    cases found
  have untold (document : Json) : ¬ poll.IsTold registry settings explorer document := by
    rintro ⟨⟨request, reply, gets, -⟩, -⟩
    exact noReply request reply gets
  have only (result : StatusResult)
      (returned : (poll.ask registry settings explorer).value = .ok result) :
      result = ⟨.unknown, "Chain ID " ++ poll.chain.shown ++ " not supported"⟩ := by
    rw [poll.ask_of_unregistered unknown] at returned
    exact (unsupportedStatus_eq_ok.mp returned).2
  have none_iff (wanted : JobStatus) (meant : Json → Prop) (known : wanted ≠ .unknown)
      (result : StatusResult)
      (returned : (poll.ask registry settings explorer).value = .ok result) :
      result.status = wanted ↔
        ∃ document, poll.IsTold registry settings explorer document ∧ meant document := by
    rw [only result returned]
    exact ⟨fun same => (known same.symm).elim,
      fun ⟨document, told, _⟩ => (untold document told).elim⟩
  refine ⟨fun other same => Poll.ask_congr same, ?_, ?_, ?_, ?_, ?_, ?_⟩
  · rw [poll.ask_of_unregistered unknown]
    constructor
    · rintro ⟨result, returned⟩
      exact ⟨fun _ => (unsupportedStatus_eq_ok.mp returned).1,
        fun request reply gets => (noReply request reply gets).elim⟩
    · rintro ⟨showable, -⟩
      exact ⟨_, unsupportedStatus_eq_ok.mpr ⟨showable unknown, rfl⟩⟩
  · intro result returned
    rw [only result returned]
    exact ⟨fun _ => Or.inl unknown, fun _ => rfl⟩
  · exact none_iff .pass SaysOk (by decide)
  · exact none_iff .pending _ (by decide)
  · exact none_iff .fail _ (by decide)
  · intro result returned
    rw [only result returned]
    simp

section Usable

variable {endpoint : Endpoint} {request : Request}

/-- On a registered chain only a useless reply leaves a poll without an answer. -/
theorem Poll.useless_iff (found : registry.find? poll.chain = some endpoint)
    (made : poll.request settings endpoint = .ok request) :
    (registry.find? poll.chain = none ∨ ∃ asked reply,
      poll.Gets registry settings explorer asked reply ∧ reply.IsUseless) ↔
      (explorer request).IsUseless := by
  constructor
  · rintro (unknown | ⟨asked, reply, gets, useless⟩)
    · rw [found] at unknown
      cases unknown
    · obtain ⟨rfl, rfl⟩ := (Poll.gets_iff found made).mp gets
      exact useless
  · intro useless
    exact Or.inr ⟨request, explorer request, (Poll.gets_iff found made).mpr ⟨rfl, rfl⟩, useless⟩

/-- A status that an envelope alone can give is given by the one envelope that was told. -/
theorem Poll.status_iff (found : registry.find? poll.chain = some endpoint)
    (made : poll.request settings endpoint = .ok request)
    (absolute : request.url.isAbsolute = true) (free : obstacle? request.url = none)
    {wanted : JobStatus} {meant : Json → Prop} (known : wanted ≠ .unknown)
    (read_iff : ∀ document envelope, Envelope.read document = .accepted envelope →
      ((statusOf envelope).status = wanted ↔ meant document))
    {result : StatusResult}
    (returned : (poll.ask registry settings explorer).value = .ok result) :
    result.status = wanted ↔
      ∃ document, poll.IsTold registry settings explorer document ∧ meant document := by
  rcases Poll.result_cases found made absolute free returned with
    ⟨-, untold, isUnknown, -⟩ | ⟨-, document, envelope, told, read, rfl⟩
  · rw [isUnknown]
    exact ⟨fun same => (known same.symm).elim,
      fun ⟨document, told, _⟩ => (untold document told).elim⟩
  · rw [read_iff document envelope read]
    refine ⟨fun holds => ⟨document, told, holds⟩, ?_⟩
    rintro ⟨other, toldOther, holds⟩
    obtain rfl := ((Poll.isTold_iff found made).mp told).1.unique
      ((Poll.isTold_iff found made).mp toldOther).1
    exact holds

/-- **A poll of a usable endpoint is answered by its reply.** -/
theorem Poll.ask_isAnswered (found : registry.find? poll.chain = some endpoint)
    (usable : endpoint.isUsable = true) (made : poll.request settings endpoint = .ok request) :
    poll.IsAnswered registry settings explorer (poll.ask registry settings explorer) := by
  obtain ⟨absolute, free⟩ := endpoint.getRequest_usable usable made
  refine ⟨fun other same => Poll.ask_congr same, ?_, fun result returned => ?_, ?_, ?_, ?_, ?_⟩
  · rw [Poll.value_ask found made free, exists_statusReport_iff,
      envelopeOfReply_brokeDown_iff absolute]
    constructor
    · intro fine
      refine ⟨fun unknown => (by cases found.symm.trans unknown), fun asked reply gets => ?_⟩
      obtain ⟨rfl, rfl⟩ := (Poll.gets_iff found made).mp gets
      exact fine
    · rintro ⟨-, fine⟩
      exact fine request (explorer request) ((Poll.gets_iff found made).mpr ⟨rfl, rfl⟩)
  · rw [Poll.useless_iff found made]
    rcases Poll.result_cases found made absolute free returned with
      ⟨useless, -, isUnknown, -⟩ | ⟨useful, -, envelope, -, -, rfl⟩
    · exact ⟨fun _ => useless, fun _ => isUnknown⟩
    · exact ⟨fun same => (statusOf_ne_unknown envelope same).elim,
        fun useless => (useful useless).elim⟩
  · intro result returned
    exact Poll.status_iff found made absolute free (by decide)
      (fun document envelope => statusOf_pass_iff) returned
  · intro result returned
    exact Poll.status_iff found made absolute free (by decide)
      (fun document envelope => statusOf_pending_iff) returned
  · intro result returned
    exact Poll.status_iff found made absolute free (by decide)
      (fun document envelope => statusOf_fail_iff) returned
  · intro result returned
    rcases Poll.result_cases found made absolute free returned with
      ⟨-, -, -, given⟩ | ⟨-, -, envelope, -, -, rfl⟩
    · exact given
    · exact statusOf_message_ne_empty envelope

end Usable

end Answered

/-- One round of a series: what had been asked before, and the outcome of the poll. -/
structure Round where
  past : List Request
  outcome : Traced (Except Breakdown StatusResult)

/-- Polls one after the other. The explorer may go by what it was asked before. -/
def pollSeries (registry : Registry) (settings : Settings)
    (explorer : List Request → Request → Reply) : List Request → List Poll → List Round
  | _, [] => []
  | past, poll :: rest =>
    let outcome := poll.ask registry settings (explorer past)
    ⟨past, outcome⟩ :: pollSeries registry settings explorer (past ++ outcome.requests) rest

/-- **A poll never guesses.** In every series of polls of usable endpoints, each poll is answered by
its own reply, whatever was asked and answered before. -/
theorem pollSeries_answered {registry : Registry} {settings : Settings}
    (explorer : List Request → Request → Reply) (past : List Request) (polls : List Poll)
    (usable : ∀ endpoint ∈ registry, endpoint.isUsable = true)
    (buildable : ∀ poll ∈ polls, ∀ endpoint, registry.find? poll.chain = some endpoint →
      ∃ request, poll.request settings endpoint = .ok request) :
    List.Forall₂ (fun poll round =>
        poll.IsAnswered registry settings (explorer round.past) round.outcome)
      polls (pollSeries registry settings explorer past polls) := by
  induction polls generalizing past with
  | nil => exact .nil
  | cons poll rest ih =>
      refine .cons ?_ (ih _ fun other member => buildable other (List.mem_cons_of_mem _ member))
      cases found : registry.find? poll.chain with
      | none => exact Poll.ask_isAnswered_of_unregistered found
      | some endpoint =>
          obtain ⟨request, made⟩ := buildable poll List.mem_cons_self endpoint found
          exact Poll.ask_isAnswered found (usable endpoint (List.mem_of_find?_eq_some found)) made

/-- A poll of a job on the first chain. -/
def firstPoll : Poll := ⟨.number 1, .ofText "job", .ofText "key"⟩

/-- An answer that is a success, with a text as its content. -/
def successOf (content : String) : Reply :=
  .answered ⟨200, [], Text.utf8 content.toList⟩

/-- An explorer that does not answer at first, then lets wait, and then says that all went well. -/
def slowExplorer (past : List Request) (_ : Request) : Reply :=
  match past with
  | [] => .failed "timed out"
  | [_] => successOf "\x7b\"status\":\"0\",\"result\":\"Pending in queue\"\x7d"
  | _ => successOf "\x7b\"status\":1\x7d"

/-- All endpoints that are built in can be asked. -/
theorem builtin_isUsable : ∀ endpoint ∈ Registry.builtin, endpoint.isUsable = true := by
  decide +kernel

/-- The request of the first poll can be made for each of them. -/
theorem firstPoll_buildable : ∀ endpoint ∈ Registry.builtin,
    ∃ request, firstPoll.request .standard endpoint = .ok request := by
  have made : ∀ endpoint ∈ Registry.builtin,
      (firstPoll.request .standard endpoint).isOk = true := by
    decide +kernel
  intro endpoint member
  cases found : firstPoll.request .standard endpoint with
  | ok request => exact ⟨request, rfl⟩
  | error flaw =>
      have ok := made endpoint member
      rw [found] at ok
      cases ok

/-- The theorem at three polls of one job, which is found to wait and then to have passed. -/
theorem pollSeries_slowExplorer :
    (pollSeries Registry.builtin .standard slowExplorer [] [firstPoll, firstPoll, firstPoll]).map
        (fun round => round.outcome.value.map (·.status)) =
      [.ok .unknown, .ok .pending, .ok .pass] ∧
    List.Forall₂ (fun poll round => poll.IsAnswered Registry.builtin .standard
        (slowExplorer round.past) round.outcome)
      [firstPoll, firstPoll, firstPoll]
      (pollSeries .builtin .standard slowExplorer [] [firstPoll, firstPoll, firstPoll]) := by
  refine ⟨by decide +kernel, pollSeries_answered slowExplorer [] _ builtin_isUsable ?_⟩
  intro poll member endpoint found
  simp only [List.mem_cons, List.not_mem_nil, or_false, or_self] at member
  rw [member]
  exact firstPoll_buildable endpoint (List.mem_of_find?_eq_some found)

/-- A body of opening brackets leaves a poll without a status. -/
theorem no_status_of_brackets :
    ¬ ∃ result, (firstPoll.ask Registry.builtin .standard fun _ =>
      .answered ⟨200, [], List.replicate 100000 Json.bracketByte⟩).value = .ok result := by
  obtain ⟨endpoint, found⟩ : ∃ endpoint, Registry.builtin.find? firstPoll.chain = some endpoint :=
    ⟨_, rfl⟩
  have member := List.mem_of_find?_eq_some found
  obtain ⟨request, made⟩ := firstPoll_buildable endpoint member
  have answered : firstPoll.IsAnswered .builtin .standard
      (fun _ => .answered ⟨200, [], List.replicate 100000 Json.bracketByte⟩) _ :=
    Poll.ask_isAnswered found (builtin_isUsable endpoint member) made
  intro returned
  have holds : Response.Holds ⟨200, [], List.replicate 100000 Json.bracketByte⟩
      (List.replicate 100000 Json.bracketByte) := by
    rw [Response.Holds, Response.content, List.isEmpty_replicate]
    rfl
  refine (answered.returns.mp returned).2 request _ ⟨endpoint, found, made, rfl⟩ ?_
  exact .deep rfl holds rfl (Json.readDocument_brackets (by decide))

end Soliscope.Explorer
