import Soliscope.Proofs.Explorer.CallSecrecy
import Soliscope.Proofs.Explorer.Polling

/-! # What submissions, polls and lookups show of their key

A submission posts its key, so that no address holds it, and shows nothing of it. The requests of
polls and lookups hold the key in their address, which failures quote; what is shown of these are
redacted messages (`hidesKeys`). With the same reply, two keys can be told apart in one way: the
reply redirects to a place that is too long together with the one key and not with the other.
-/

namespace Soliscope.Explorer

/-- A submission with a key. -/
def Submission.withKey (submission : Submission) (key : String) : Submission :=
  { submission with apiKey := .ofText key }

/-- What a submission to an endpoint reports when its call gave something. -/
def submitReport (endpoint : Endpoint) (submission : Submission) :
    Except Setback Envelope → Traced (Except Breakdown SubmitResult)
  | .error (.brokeDown breakdown) => pure (.error breakdown)
  | .error (.failed failure) => do
    let message := failureMessage failure "Failed to submit verification"
    record .warning ("Verification submit to " ++ endpoint.displayName ++ " failed: " ++ message)
    pure (.ok { success := false, message := message })
  | .ok envelope => do
    let result ← submitAnswer endpoint submission envelope
    pure (.ok result)

/-- What a lookup at an endpoint reports about an address when its call gave something. -/
def lookUpReport (endpoint : Endpoint) (address : Argument) (answer : Except Setback Envelope) :
    Traced (Except Breakdown SourceResult) :=
  match answer.bind sourceEntry? with
  | .error (.brokeDown breakdown) => pure (.error breakdown)
  | .error (.failed failure) => do
    record .warning ("Source lookup for " ++ address.shown ++ " on " ++
      endpoint.displayName ++ " failed: " ++ redact failure.message)
    pure (.ok { verified := false })
  | .ok entry => pure (.ok (sourceOf entry))

/-- A source entry is never read from what is too deep or goes nowhere. -/
theorem sourceEntry?_ne_brokeDown (envelope : Envelope) (breakdown : Breakdown) :
    sourceEntry? envelope ≠ .error (.brokeDown breakdown) := by
  intro broke
  unfold sourceEntry? at broke
  split at broke
  · split at broke
    · cases broke
    · cases broke
  · cases broke

section Reports

variable (endpoint : Endpoint)

/-- The report on a status says the same of failures that differ only in the key. -/
theorem statusReport_isDiscreet (job : Argument) : IsDiscreet (statusReport endpoint job) := by
  refine ⟨fun breakdown => rfl, ?_, ?_⟩
  · intro one other same
    unfold statusReport failureMessage
    dsimp only
    rw [same]
  · intro answer flaw broke
    cases answer with
    | ok envelope => cases broke
    | error setback =>
        cases setback with
        | failed failure => cases broke
        | brokeDown breakdown =>
            cases broke
            rfl

theorem lookUpReport_isDiscreet (address : Argument) :
    IsDiscreet (lookUpReport endpoint address) := by
  refine ⟨fun breakdown => rfl, ?_, ?_⟩
  · intro one other same
    unfold lookUpReport
    dsimp only [Except.bind]
    rw [same]
  · intro answer flaw broke
    cases answer with
    | ok envelope =>
        unfold lookUpReport at broke
        dsimp only [Except.bind] at broke
        cases read : sourceEntry? envelope with
        | ok entry =>
            rw [read] at broke
            cases broke
        | error setback =>
            cases setback with
            | failed failure =>
                rw [read] at broke
                cases broke
            | brokeDown breakdown => exact (sourceEntry?_ne_brokeDown envelope breakdown read).elim
    | error setback =>
        cases setback with
        | failed failure => cases broke
        | brokeDown breakdown =>
            cases broke
            rfl

end Reports

section Submissions

variable {registry : Registry} {settings : Settings} {explorer : Request → Reply}
  {submission : Submission} {endpoint : Endpoint}

/-- A submission that is sent makes one call and reports what it gave. -/
theorem submit_of_endpoint (sent : submission.endpoint registry = .ok endpoint) :
    submit registry settings explorer submission =
      record .info ("Submitting " ++ submission.contractName.shown ++ " at " ++
        submission.contractAddress.shown ++ " for verification on " ++ endpoint.displayName) >>=
      fun _ => call explorer
        (postRequest endpoint.apiUrl submission.form settings.submitTimeout) >>=
      submitReport endpoint submission := by
  unfold submit
  rw [sent]
  refine congrArg (record .info _ >>= ·) (funext fun _ => ?_)
  refine congrArg (call explorer _ >>= ·) (funext fun answer => ?_)
  cases answer with
  | ok envelope => rfl
  | error setback => cases setback <;> rfl

/-- Where a submission is sent does not depend on the key that is given. -/
theorem endpoint_withKey (registry : Registry) (submission : Submission) {key : String}
    (given : key ≠ "") :
    (submission.withKey key).endpoint registry =
      { submission with apiKey := .ofText "given" }.endpoint registry := by
  have isGiven : (submission.withKey key).apiKey.isGiven = true := by
    change (Argument.ofText key).isGiven = true
    rw [Argument.isGiven_ofText, Bool.not_eq_true', String.isEmpty_eq_false_iff]
    exact given
  unfold Submission.endpoint
  rw [isGiven]
  rfl

/-- What is posted to an address does not tell its replies apart. -/
theorem value_call_postRequest {url : String} {timeout : Float} {reply : Reply}
    (one other : List (String × String)) :
    (call (fun _ => reply) (postRequest url one timeout)).value =
      (call (fun _ => reply) (postRequest url other timeout)).value := by
  unfold postRequest
  cases requestAddress url with
  | error flaw => rfl
  | ok address =>
      simp only [bind, Except.bind, pure, Except.pure, call]
      cases obstacle? address with
      | none => rfl
      | some failure => rfl

/-- **A submission shows nothing of its key**, whatever the reply. -/
theorem submit_sameShown {reply : Reply} {first second : String} (firstGiven : first ≠ "")
    (secondGiven : second ≠ "") :
    SameShown (submit registry settings (fun _ => reply) (submission.withKey first))
      (submit registry settings (fun _ => reply) (submission.withKey second)) := by
  have one := endpoint_withKey registry submission firstGiven
  have other := endpoint_withKey registry submission secondGiven
  cases sent : Submission.endpoint registry { submission with apiKey := .ofText "given" } with
  | error unsent =>
      unfold submit
      rw [one, other, sent]
      cases unsent <;> exact ⟨rfl, rfl⟩
  | ok endpoint =>
      have same := @value_call_postRequest endpoint.apiUrl settings.submitTimeout reply
        (submission.withKey first).form (submission.withKey second).form
      have report : submitReport endpoint (submission.withKey first) =
          submitReport endpoint (submission.withKey second) := rfl
      rw [submit_of_endpoint (one.trans sent), submit_of_endpoint (other.trans sent), report]
      refine ⟨?_, ?_⟩
      · simp only [Traced.value_bind, same]
      · simp only [Traced.log_bind, log_call, same]
        rfl

end Submissions

section Questions

variable {registry : Registry} {settings : Settings} {chain : ChainId} {first second : String}

/-- The form of a poll starts with the key. -/
theorem pollForm_key (job : Argument) (key : String) :
    pollForm (.ofText key) job =
      keyEntries [] ([("module", "contract"), ("action", "checkverifystatus")] ++
        job.entries "guid") key := rfl

/-- The form of a lookup ends with the key, if one is given. -/
theorem lookupForm_key (address : Argument) {key : String} (given : key ≠ "") :
    lookupForm address (.ofText key) =
      keyEntries ([("module", "contract"), ("action", "getsourcecode")] ++
        address.entries "address") [] key := by
  have isGiven : (Argument.ofText key).isGiven = true := by
    rw [Argument.isGiven_ofText, Bool.not_eq_true', String.isEmpty_eq_false_iff]
    exact given
  rw [lookupForm, isGiven]
  rfl

/-- A poll of a registered chain is a call and a report on it. -/
theorem pollStatus_of_registered {explorer : Request → Reply} {job apiKey : Argument}
    {endpoint : Endpoint} (found : registry.find? chain = some endpoint) :
    pollStatus registry settings explorer chain job apiKey =
      call explorer (getRequest endpoint.apiUrl (pollForm apiKey job) settings.statusTimeout) >>=
        statusReport endpoint job :=
  Poll.ask_of_registered ⟨chain, job, apiKey⟩ found

/-- A poll of another chain is answered at once. -/
theorem pollStatus_of_unregistered {explorer : Request → Reply} {job apiKey : Argument}
    (unknown : registry.find? chain = none) :
    pollStatus registry settings explorer chain job apiKey =
      pure (unsupportedStatus chain) :=
  Poll.ask_of_unregistered ⟨chain, job, apiKey⟩ unknown

/-- A lookup on a registered chain is a call and a report on it. -/
theorem lookUpSource_of_registered {explorer : Request → Reply} {address apiKey : Argument}
    {endpoint : Endpoint} (found : registry.find? chain = some endpoint) :
    lookUpSource registry settings explorer chain address apiKey =
      call explorer (getRequest endpoint.apiUrl (lookupForm address apiKey)
        settings.sourceTimeout) >>= lookUpReport endpoint address := by
  rw [lookUpSource, found]
  rfl

/-- A lookup on another chain finds nothing. -/
theorem lookUpSource_of_unregistered {explorer : Request → Reply} {address apiKey : Argument}
    (unknown : registry.find? chain = none) :
    lookUpSource registry settings explorer chain address apiKey =
      pure (.ok { verified := false }) := by
  rw [lookUpSource, unknown]

/-- What two keys have to do with a redirection: they both make a place too long or both do not. -/
def Reply.OverrunsAlike (reply : Reply) (registry : Registry) (chain : ChainId) (timeout : Float)
    (one other : List (String × String)) : Prop :=
  ∀ endpoint, registry.find? chain = some endpoint →
    (reply.OverrunsRequest endpoint.apiUrl one timeout ↔
      reply.OverrunsRequest endpoint.apiUrl other timeout)

variable {reply : Reply} (firstGiven : first ≠ "") (secondGiven : second ≠ "")

include firstGiven secondGiven

/-- **Two polls with different keys show the same** unless the reply overruns just one of them. -/
theorem pollStatus_sameShown_iff {job : Argument} (firstFits : Fits (pollForm (.ofText first) job))
    (secondFits : Fits (pollForm (.ofText second) job)) :
    SameShown (pollStatus registry settings (fun _ => reply) chain job (.ofText first))
        (pollStatus registry settings (fun _ => reply) chain job (.ofText second)) ↔
      reply.OverrunsAlike registry chain settings.statusTimeout (pollForm (.ofText first) job)
        (pollForm (.ofText second) job) := by
  unfold Reply.OverrunsAlike
  cases found : registry.find? chain with
  | none =>
      rw [pollStatus_of_unregistered found, pollStatus_of_unregistered found]
      exact ⟨fun _ endpoint same => (by cases same), fun _ => ⟨rfl, rfl⟩⟩
  | some endpoint =>
      rw [pollStatus_of_registered found, pollStatus_of_registered found]
      rw [pollForm_key job first] at firstFits ⊢
      rw [pollForm_key job second] at secondFits ⊢
      simp only [Option.some.injEq, forall_eq']
      exact (statusReport_isDiscreet endpoint job).sameShown_iff firstGiven secondGiven firstFits
        secondFits

/-- **Two lookups with different keys show the same** unless the reply overruns just one of them. -/
theorem lookUpSource_sameShown_iff {address : Argument}
    (firstFits : Fits (lookupForm address (.ofText first)))
    (secondFits : Fits (lookupForm address (.ofText second))) :
    SameShown (lookUpSource registry settings (fun _ => reply) chain address (.ofText first))
        (lookUpSource registry settings (fun _ => reply) chain address (.ofText second)) ↔
      reply.OverrunsAlike registry chain settings.sourceTimeout
        (lookupForm address (.ofText first)) (lookupForm address (.ofText second)) := by
  unfold Reply.OverrunsAlike
  cases found : registry.find? chain with
  | none =>
      rw [lookUpSource_of_unregistered found, lookUpSource_of_unregistered found]
      exact ⟨fun _ endpoint same => (by cases same), fun _ => ⟨rfl, rfl⟩⟩
  | some endpoint =>
      rw [lookUpSource_of_registered found, lookUpSource_of_registered found]
      rw [lookupForm_key address firstGiven] at firstFits ⊢
      rw [lookupForm_key address secondGiven] at secondFits ⊢
      simp only [Option.some.injEq, forall_eq']
      exact (lookUpReport_isDiscreet endpoint address).sameShown_iff firstGiven secondGiven
        firstFits secondFits

end Questions

/-- What is shown of two keys when the reply is the same. -/
structure HidesKeys (registry : Registry) (settings : Settings) (reply : Reply)
    (first second : String) : Prop where
  submit : ∀ submission : Submission,
    SameShown (submit registry settings (fun _ => reply) (submission.withKey first))
      (submit registry settings (fun _ => reply) (submission.withKey second))
  poll : ∀ (chain : ChainId) (job : Argument),
    Fits (pollForm (.ofText first) job) → Fits (pollForm (.ofText second) job) →
    (SameShown (pollStatus registry settings (fun _ => reply) chain job (.ofText first))
        (pollStatus registry settings (fun _ => reply) chain job (.ofText second)) ↔
      reply.OverrunsAlike registry chain settings.statusTimeout (pollForm (.ofText first) job)
        (pollForm (.ofText second) job))
  lookUp : ∀ (chain : ChainId) (address : Argument),
    Fits (lookupForm address (.ofText first)) → Fits (lookupForm address (.ofText second)) →
    (SameShown (lookUpSource registry settings (fun _ => reply) chain address (.ofText first))
        (lookUpSource registry settings (fun _ => reply) chain address (.ofText second)) ↔
      reply.OverrunsAlike registry chain settings.sourceTimeout
        (lookupForm address (.ofText first)) (lookupForm address (.ofText second)))

/-- **Keys do not show**, not even by their length, with one exception. What a submission, a poll or
a lookup gives and logs is the same for all keys that fit, unless the reply redirects to a place
that is too long with one key and not with the other; then it is not the same. -/
theorem hidesKeys (registry : Registry) (settings : Settings) (reply : Reply)
    {first second : String} (firstGiven : first ≠ "") (secondGiven : second ≠ "") :
    HidesKeys registry settings reply first second := by
  refine ⟨fun submission => ?_, fun chain job firstFits secondFits => ?_,
    fun chain address firstFits secondFits => ?_⟩
  · exact submit_sameShown firstGiven secondGiven
  · exact pollStatus_sameShown_iff firstGiven secondGiven firstFits secondFits
  · exact lookUpSource_sameShown_iff firstGiven secondGiven firstFits secondFits

/-- Only a reply with a place to go to can overrun a request. -/
theorem not_overrunsRequest_of_no_location {response : Response} {url : String}
    {entries : List (String × String)} {timeout : Float}
    (stays : redirection? response.status response.headers = none) :
    ¬ Reply.OverrunsRequest (.answered response) url entries timeout := by
  rintro ⟨request, -, -, other, content, location, same, -, -, redirects, -⟩
  cases same
  rw [stays] at redirects
  cases redirects

/-- A reply of an explorer that is out of service. -/
def outOfService : Reply :=
  .answered ⟨503, [], []⟩

/-- Ask such an explorer about a job with a key. -/
def outOfServicePoll (key : String) : Traced (Except Breakdown StatusResult) :=
  pollStatus .builtin .standard (fun _ => outOfService) (.number 1) (.ofText "job") (.ofText key)

/-- The theorem at this explorer: the message quotes the address, and two keys of different length
look the same in it. -/
theorem hidesKeys_outOfService :
    "key" ≠ "" ∧ "other key" ≠ "" ∧
    (outOfServicePoll "other key").value.map (·.message) =
      .ok ("Server error '503 Service Unavailable' for url 'https://api.etherscan.io/api?" ++
        "apikey=[REDACTED]&module=contract&action=checkverifystatus&guid=job'\n" ++
        "For more information check: " ++
        "https://developer.mozilla.org/en-US/docs/Web/HTTP/Status/503") ∧
    SameShown (outOfServicePoll "key") (outOfServicePoll "other key") := by
  have firstGiven : "key" ≠ "" := by decide
  have secondGiven : "other key" ≠ "" := by decide
  have hides := hidesKeys .builtin .standard outOfService firstGiven secondGiven
  refine ⟨firstGiven, secondGiven, by decide +kernel, ?_⟩
  have firstFits : Fits (pollForm (.ofText "key") (.ofText "job")) := by
    unfold Fits
    decide +kernel
  have secondFits : Fits (pollForm (.ofText "other key") (.ofText "job")) := by
    unfold Fits
    decide +kernel
  refine (hides.poll _ _ firstFits secondFits).mpr fun endpoint _ => ?_
  exact iff_of_false (not_overrunsRequest_of_no_location rfl)
    (not_overrunsRequest_of_no_location rfl)

end Soliscope.Explorer
