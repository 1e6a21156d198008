import Soliscope.Proofs.Explorer.Transmission

/-!
# Which calls give a result

Submissions, polls and lookups report failures in their results. A call gives no result at all in
three cases only: its request cannot be written, because its form is too long for an address, the
reply breaks the call down, or an integer that is to be told has too many digits. With the built-in
endpoints nothing else can go wrong (`calls_return_iff`). A submission posts its form, so that the
first case is none for it, and a lookup tells no integer.
-/

namespace Soliscope.Explorer

open Soliscope.Url

/-- A report gives a result of every answer that did not break the call down. -/
def Reports {α : Type} (report : Except Setback Envelope → Traced (Except Breakdown α)) : Prop :=
  ∀ answer, (∃ result, (report answer).value = .ok result) ↔
    ¬ ∃ breakdown, answer = .error (.brokeDown breakdown)

/-- The report on a status has a result for every envelope and every failure. -/
theorem statusReport_reports (endpoint : Endpoint) (job : Argument) :
    Reports (statusReport endpoint job) :=
  fun _ => exists_statusReport_iff

/-- The report on a submission has one, too. -/
theorem submitReport_reports (endpoint : Endpoint) (submission : Submission) :
    Reports (submitReport endpoint submission) := by
  intro answer
  cases answer with
  | ok envelope => simp [submitReport]
  | error setback => cases setback <;> simp [submitReport]

theorem lookUpReport_reports (endpoint : Endpoint) (address : Argument) :
    Reports (lookUpReport endpoint address) := by
  intro answer
  unfold lookUpReport
  cases answer with
  | error setback => cases setback <;> simp [Except.bind]
  | ok envelope =>
      cases read : sourceEntry? envelope with
      | ok entry => simp [Except.bind, read]
      | error setback =>
          cases setback with
          | failed failure => simp [Except.bind, read]
          | brokeDown breakdown => exact (sourceEntry?_ne_brokeDown envelope breakdown read).elim

section Call

variable {α : Type} {explorer : Request → Reply} {request : Request}
  {written : Except Url.Flaw Request} {report : Except Setback Envelope → Traced (Except Breakdown α)}

/-- A request that says where to go can be made. -/
def Request.IsAskable (request : Request) : Prop :=
  request.url.isAbsolute = true ∧ obstacle? request.url = none

/-- What is reported on a request that can be asked depends on its reply. -/
theorem value_call_report (askable : request.IsAskable) :
    (call explorer (.ok request) >>= report).value =
      (report (envelopeOfReply request.url (explorer request))).value := by
  rw [Traced.value_bind, value_call askable.2]

/-- A request that can be asked is asked once, and the report asks nothing. -/
theorem requests_call_report (silent : ∀ answer, (report answer).requests = [])
    (askable : request.IsAskable) :
    (call explorer (.ok request) >>= report).requests = [request] := by
  rw [Traced.requests_bind, requests_call askable.2, silent, List.append_nil]

/-- **A call gives a result if its request can be written, unless the reply breaks it down.** -/
theorem call_report_returns_iff (reports : Reports report)
    (silent : ∀ answer, (report answer).requests = [])
    (askable : ∀ request, written = .ok request → request.IsAskable) :
    (∃ result, (call explorer written >>= report).value = .ok result) ↔
      (∃ request, written = .ok request) ∧
        ∀ request ∈ (call explorer written >>= report).requests,
          ¬ (explorer request).BreaksDown request.url := by
  cases written with
  | error flaw =>
      have broken : ¬ ∃ result, (report (.error (.brokeDown (.badUrl flaw)))).value = .ok result := by
        rw [reports]
        exact fun fine => fine ⟨_, rfl⟩
      constructor
      · intro returned
        exact (broken returned).elim
      · rintro ⟨⟨request, same⟩, -⟩
        cases same
  | ok request =>
      have can := askable request rfl
      rw [value_call_report can, requests_call_report silent can, reports,
        envelopeOfReply_brokeDown_iff can.1, List.forall_mem_singleton]
      exact (and_iff_right ⟨request, rfl⟩).symm

end Call

/-- Forms can be posted to the address of an endpoint. -/
def Endpoint.takesPosts (endpoint : Endpoint) : Bool :=
  match requestAddress endpoint.apiUrl with
  | .ok address => address.isAbsolute && (obstacle? address).isNone
  | .error _ => false

/-- A form can be posted to such an endpoint, whatever it holds. -/
theorem Endpoint.postRequest_askable {endpoint : Endpoint} (takes : endpoint.takesPosts = true)
    (entries : List (String × String)) (timeout : Float) :
    ∃ request, postRequest endpoint.apiUrl entries timeout = .ok request ∧
      request.method = .post ∧ requestAddress endpoint.apiUrl = .ok request.url ∧
      request.IsAskable := by
  unfold takesPosts at takes
  cases found : requestAddress endpoint.apiUrl with
  | error flaw =>
      rw [found] at takes
      cases takes
  | ok address =>
      simp only [found, Bool.and_eq_true, Option.isNone_iff_eq_none] at takes
      let request : Request := {
        method := .post, url := address, body := String.ofList (Form.render entries),
        timeout := timeout }
      have made : postRequest endpoint.apiUrl entries timeout = .ok request := by
        rw [postRequest, found]
        rfl
      exact ⟨request, made, rfl, rfl, takes⟩

/-- A form can be asked of a usable endpoint exactly if it fits. -/
theorem Endpoint.exists_getRequest_iff {endpoint : Endpoint} (usable : endpoint.isUsable = true)
    {entries : List (String × String)} (given : entries ≠ []) {timeout : Float} :
    (∃ request, getRequest endpoint.apiUrl entries timeout = .ok request) ↔ Fits entries := by
  constructor
  · rintro ⟨request, made⟩
    exact ((getRequest_eq_ok_iff given).mp made).1
  · intro fits
    unfold isUsable at usable
    cases found : bareAddress endpoint.apiUrl with
    | error flaw =>
        rw [found] at usable
        cases usable
    | ok bare => exact ⟨_, (getRequest_eq_ok_iff given).mpr ⟨fits, bare, found, rfl⟩⟩

/-- A question to a usable endpoint gets a result if its form fits, unless the reply breaks the call
down. -/
theorem question_returns_iff {α : Type} {explorer : Request → Reply} {endpoint : Endpoint}
    {entries : List (String × String)} {timeout : Float}
    {report : Except Setback Envelope → Traced (Except Breakdown α)}
    (usable : endpoint.isUsable = true) (given : entries ≠ []) (reports : Reports report)
    (silent : ∀ answer, (report answer).requests = []) :
    (∃ result, (call explorer (getRequest endpoint.apiUrl entries timeout) >>= report).value =
        .ok result) ↔
      Fits entries ∧
        ∀ request ∈
            (call explorer (getRequest endpoint.apiUrl entries timeout) >>= report).requests,
          ¬ (explorer request).BreaksDown request.url := by
  have askable (request : Request)
      (made : getRequest endpoint.apiUrl entries timeout = .ok request) : request.IsAskable :=
    endpoint.getRequest_usable usable made
  rw [call_report_returns_iff reports silent askable, endpoint.exists_getRequest_iff usable given]

section Returns

variable {registry : Registry} {settings : Settings} {explorer : Request → Reply}

/-- A submission that is rejected is told so, and nothing is sent. -/
theorem submit_of_rejection {submission : Submission} {rejection : Rejection}
    (rejected : submission.endpoint registry = .error (.rejected rejection)) :
    (submit registry settings explorer submission).value =
        .ok { success := false, message := rejection.message } ∧
      (submit registry settings explorer submission).requests = [] := by
  unfold submit
  rw [rejected]
  exact ⟨rfl, rfl⟩

/-- A submission whose checks break down gives no result, and nothing is sent. -/
theorem submit_of_breakdown {submission : Submission} {breakdown : Breakdown}
    (broken : submission.endpoint registry = .error (.brokeDown breakdown)) :
    submit registry settings explorer submission = pure (.error breakdown) := by
  unfold submit
  rw [broken]

/-- **Which submissions give a result.** -/
theorem submit_returns_iff (takes : ∀ endpoint ∈ registry, endpoint.takesPosts = true)
    (dossier : Dossier) :
    (∃ result, (submit registry settings explorer dossier.submission).value = .ok result) ↔
      ¬ dossier.IsUnshowable registry ∧
        ∀ request ∈ (submit registry settings explorer dossier.submission).requests,
          ¬ (explorer request).BreaksDown request.url := by
  have checked := dossier.endpoint_checked registry
  cases outcome : dossier.submission.endpoint registry with
  | ok endpoint =>
      obtain ⟨passes, showable⟩ := Dossier.endpoint_eq_ok_iff.mp outcome
      have member : endpoint ∈ registry := List.mem_of_find?_eq_some passes.registered
      obtain ⟨request, made, -, -, askable⟩ :=
        endpoint.postRequest_askable (takes endpoint member) dossier.submission.form
          settings.submitTimeout
      have only (other : Request) (same : postRequest endpoint.apiUrl dossier.submission.form
          settings.submitTimeout = .ok other) : other.IsAskable :=
        Except.ok.inj (made.symm.trans same) ▸ askable
      rw [submit_of_endpoint outcome, and_iff_right showable]
      refine (call_report_returns_iff (submitReport_reports endpoint dossier.submission)
        (requests_submitReport endpoint dossier.submission) only).trans ?_
      exact and_iff_right ⟨request, made⟩
  | error unsent =>
      rw [outcome] at checked
      cases checked with
      | @rejected rejection fails showable =>
          obtain ⟨told, none⟩ :
              (submit registry settings explorer dossier.submission).value =
                  .ok { success := false, message := rejection.message } ∧
                (submit registry settings explorer dossier.submission).requests = [] :=
            submit_of_rejection outcome
          rw [told, none, and_iff_right showable]
          simp
      | unshowable long =>
          rw [submit_of_breakdown outcome]
          refine iff_of_false ?_ fun fine => fine.1 long
          rintro ⟨result, returned⟩
          cases returned

variable {chain : ChainId}

/-- **Which polls give a result.** -/
theorem pollStatus_returns_iff (usable : ∀ endpoint ∈ registry, endpoint.isUsable = true)
    (job apiKey : Argument) :
    (∃ result, (pollStatus registry settings explorer chain job apiKey).value = .ok result) ↔
      (registry.find? chain = none ∨ Fits (pollForm apiKey job)) ∧
        (registry.find? chain = none → chain.isShowable = true) ∧
        ∀ request ∈ (pollStatus registry settings explorer chain job apiKey).requests,
          ¬ (explorer request).BreaksDown request.url := by
  cases found : registry.find? chain with
  | none =>
      rw [pollStatus_of_unregistered found, Traced.value_pure, Traced.requests_pure]
      simp [unsupportedStatus_eq_ok]
  | some endpoint =>
      have member : endpoint ∈ registry := List.mem_of_find?_eq_some found
      have given : pollForm apiKey job ≠ [] := by
        simp [pollForm]
      rw [pollStatus_of_registered found, question_returns_iff (usable endpoint member) given
        (statusReport_reports endpoint job) (requests_statusReport endpoint job)]
      simp

/-- **Which lookups give a result.** -/
theorem lookUpSource_returns_iff (usable : ∀ endpoint ∈ registry, endpoint.isUsable = true)
    (address apiKey : Argument) :
    (∃ result, (lookUpSource registry settings explorer chain address apiKey).value =
        .ok result) ↔
      (registry.find? chain = none ∨ Fits (lookupForm address apiKey)) ∧
        ∀ request ∈ (lookUpSource registry settings explorer chain address apiKey).requests,
          ¬ (explorer request).BreaksDown request.url := by
  cases found : registry.find? chain with
  | none =>
      rw [lookUpSource_of_unregistered found]
      simp
  | some endpoint =>
      have member : endpoint ∈ registry := List.mem_of_find?_eq_some found
      have given : lookupForm address apiKey ≠ [] := by
        simp [lookupForm]
      rw [lookUpSource_of_registered found, question_returns_iff (usable endpoint member) given
        (lookUpReport_reports endpoint address) (requests_lookUpReport endpoint address)]
      simp

end Returns

/-- All endpoints that are built in can be posted to. -/
theorem builtin_takesPosts : ∀ endpoint ∈ Registry.builtin, endpoint.takesPosts = true := by
  decide +kernel

/-- When the three calls to the explorers of the built-in endpoints give a result. -/
structure CallsReturn (settings : Settings) (explorer : Request → Reply) : Prop where
  submit : ∀ dossier : Dossier,
    (∃ result, (submit .builtin settings explorer dossier.submission).value = .ok result) ↔
      ¬ dossier.IsUnshowable .builtin ∧
        ∀ request ∈ (submit .builtin settings explorer dossier.submission).requests,
          ¬ (explorer request).BreaksDown request.url
  poll : ∀ (chain : ChainId) (job apiKey : String),
    (∃ result, (pollStatus .builtin settings explorer chain (.ofText job) (.ofText apiKey)).value =
        .ok result) ↔
      (Registry.builtin.find? chain = none ∨ Fits [("apikey", apiKey), ("module", "contract"),
        ("action", "checkverifystatus"), ("guid", job)]) ∧
      (Registry.builtin.find? chain = none → chain.isShowable = true) ∧
      ∀ request ∈
          (pollStatus .builtin settings explorer chain (.ofText job) (.ofText apiKey)).requests,
        ¬ (explorer request).BreaksDown request.url
  lookUp : ∀ (chain : ChainId) (address : String) (apiKey : Option String),
    (∃ result, (lookUpSource .builtin settings explorer chain (.ofText address)
        (.ofText? apiKey)).value = .ok result) ↔
      (Registry.builtin.find? chain = none ∨ Fits ([("module", "contract"),
        ("action", "getsourcecode"), ("address", address)] ++ keyEntry apiKey)) ∧
      ∀ request ∈ (lookUpSource .builtin settings explorer chain (.ofText address)
          (.ofText? apiKey)).requests,
        ¬ (explorer request).BreaksDown request.url

/-- **A call gives a result** unless its form is too long for an address, the reply breaks the call
down, or an integer that is to be told has too many digits. -/
theorem calls_return_iff (settings : Settings) (explorer : Request → Reply) :
    CallsReturn settings explorer := by
  refine ⟨fun dossier => submit_returns_iff builtin_takesPosts dossier,
    fun chain job apiKey => ?_, fun chain address apiKey => ?_⟩
  · exact pollStatus_returns_iff builtin_isUsable (.ofText job) (.ofText apiKey)
  · rw [← lookupForm_ofText]
    exact lookUpSource_returns_iff builtin_isUsable (.ofText address) (.ofText? apiKey)

/-- A form with a key that is as long as an address may be does not fit. -/
theorem not_fits_of_long_key {before after : List (String × String)} {key : String}
    (long : lengthLimit ≤ (Form.encode key).length) : ¬ Fits (keyEntries before after key) := by
  obtain ⟨lead, trail, isForm⟩ := render_keyEntries before after
  have named : keyMark.length = 7 := by decide +kernel
  rw [Fits, isForm]
  simp only [List.length_append, named]
  omega

/-- Such a key leaves a poll without a result, whatever the explorer does. -/
theorem pollStatus_of_long_key {key : String} (long : lengthLimit ≤ (Form.encode key).length)
    (settings : Settings) (explorer : Request → Reply) (job : Argument) :
    ¬ ∃ result, (pollStatus .builtin settings explorer (.number 1) job (.ofText key)).value =
      .ok result := by
  intro returned
  rcases ((pollStatus_returns_iff builtin_isUsable _ _).mp returned).1 with unknown | fits
  · cases unknown
  · rw [pollForm_key] at fits
    exact not_fits_of_long_key long fits

/-- Letters are sent as they are. -/
theorem length_encode_replicate (size : Nat) :
    (Form.encode (String.ofList (List.replicate size 'k'))).length = size := by
  have letter : Form.encodeChar 'k' = ['k'] := by decide +kernel
  rw [Form.encode, String.toList_ofList, List.length_flatMap, List.map_replicate, letter]
  simp

/-- A poll that has no result, although the explorer answers. -/
theorem no_poll_of_long_key :
    ¬ ∃ result, (pollStatus .builtin .standard (fun _ => outOfService) (.number 1) (.ofText "g")
      (.ofText (String.ofList (List.replicate 65536 'k')))).value = .ok result :=
  pollStatus_of_long_key (Nat.le_of_eq (length_encode_replicate 65536).symm) _ _ _

end Soliscope.Explorer
