import Soliscope.Proofs.Explorer.Completion

/-!
# What becomes of submissions

A dossier that passes all checks is posted once, to the endpoint of its chain; any other is not sent
at all, and the first failed check is told. A submission succeeds exactly if the reply to it tells
an envelope that says so (`submit_isHandled`). Two things go wrong: a reply may break the call down,
and an integer that has to be shown may have too many digits. Then there is no result.
-/

namespace Soliscope.Explorer

/-- The outcome of submitting a dossier is what it should be for the explorer. -/
structure Dossier.IsHandled (dossier : Dossier) (registry : Registry)
    (explorer : Request → Reply) (outcome : Traced (Except Breakdown SubmitResult)) : Prop where
  /-- A dossier that passes is posted once, to the endpoint of its chain. -/
  sent : ∀ endpoint, dossier.Passes registry endpoint → ¬ dossier.IsUnshowable registry →
    ∃ request, outcome.requests = [request] ∧ request.method = .post ∧
      requestAddress endpoint.apiUrl = .ok request.url
  /-- A dossier that does not pass is not sent. -/
  unsent : (¬ ∃ endpoint, dossier.Passes registry endpoint) → outcome.requests = []
  /-- It is told the first check that it fails. -/
  rejected : (¬ ∃ endpoint, dossier.Passes registry endpoint) → ¬ dossier.IsUnshowable registry →
    ∃ rejection, dossier.FailsFirst registry rejection ∧
      outcome.value = .ok { success := false, message := rejection.message }
  /-- Nothing is sent and nothing told if an integer cannot be shown. -/
  unshowable : dossier.IsUnshowable registry →
    outcome.requests = [] ∧ outcome.value = .error .longInteger
  /-- There is a result unless an integer cannot be shown or the reply breaks the call down. -/
  returns : (∃ result, outcome.value = .ok result) ↔ ¬ dossier.IsUnshowable registry ∧
    ∀ request ∈ outcome.requests, ¬ (explorer request).BreaksDown request.url
  success : ∀ result, outcome.value = .ok result → (result.success = true ↔
    (∃ endpoint, dossier.Passes registry endpoint) ∧ ∃ request ∈ outcome.requests,
      ∃ document, (explorer request).Tells document ∧ IsEnvelope document ∧ SaysOk document)
  page : ∀ result, outcome.value = .ok result → result.success = true →
    ∀ endpoint, dossier.Passes registry endpoint → result.explorerUrl =
      some (endpoint.explorerUrl ++ "/address/" ++ dossier.contractAddress ++ "#code")
  failure : ∀ result, outcome.value = .ok result → result.success = false →
    result.jobId = none ∧ result.explorerUrl = none ∧ result.message ≠ ""

/-- Every rejection says something. -/
theorem Rejection.message_ne_empty (rejection : Rejection) : rejection.message ≠ "" := by
  have led {lead : String} (given : lead ≠ "") (rest : String) : lead ++ rest ≠ "" :=
    fun empty => given (String.append_eq_empty_iff.mp empty).1
  cases rejection with
  | noKey => decide
  | unsupportedChain shown => exact led (by decide) shown
  | badRuns shown => exact led (by decide) shown
  | badAddress shown => exact led (by decide) shown

/-- An envelope that says that all went well is given by a document that says so. -/
theorem exists_success_iff {url : Url.Address} {reply : Reply} (absolute : url.isAbsolute = true) :
    (∃ envelope, envelopeOfReply url reply = .ok envelope ∧ envelope.isOk = true) ↔
      ∃ document, reply.Tells document ∧ IsEnvelope document ∧ SaysOk document := by
  constructor
  · rintro ⟨envelope, given, isOk⟩
    obtain ⟨document, told, read⟩ := (envelopeOfReply_eq_ok absolute).mp given
    have form : IsEnvelope document := Envelope.exists_read_iff.mp ⟨envelope, read⟩
    exact ⟨document, told, form, (Envelope.isOk_iff read).mp isOk⟩
  · rintro ⟨document, told, form, isOne⟩
    obtain ⟨envelope, read⟩ := Envelope.exists_read_iff.mpr form
    have given : envelopeOfReply url reply = .ok envelope :=
      (envelopeOfReply_eq_ok absolute).mpr ⟨document, told, read⟩
    exact ⟨envelope, given, (Envelope.isOk_iff read).mpr isOne⟩

/-- The result of a submission that was sent tells a failure, or the page of the contract. -/
theorem submitReport_eq_ok {endpoint : Endpoint} {submission : Submission}
    {answer : Except Setback Envelope} {result : SubmitResult}
    (reported : (submitReport endpoint submission answer).value = .ok result) :
    ((¬ ∃ envelope, answer = .ok envelope ∧ envelope.isOk = true) ∧
      ∃ message, message ≠ "" ∧ result = { success := false, message := message }) ∨
    (∃ envelope, answer = .ok envelope ∧ envelope.isOk = true) ∧ result.success = true ∧
      result.explorerUrl = some (endpoint.contractPage submission.contractAddress.shown) := by
  cases answer with
  | error setback =>
      cases setback with
      | brokeDown breakdown => cases reported
      | failed failure =>
          cases reported
          refine Or.inl ⟨?_, _, orElseText_ne_empty (by decide), rfl⟩
          rintro ⟨envelope, same, -⟩
          cases same
  | ok envelope =>
      cases isOk : envelope.isOk with
      | true =>
          simp only [submitReport, submitAnswer, isOk] at reported
          cases reported
          exact Or.inr ⟨⟨envelope, rfl, isOk⟩, rfl, rfl⟩
      | false =>
          simp only [submitReport, submitAnswer, isOk] at reported
          cases reported
          refine Or.inl ⟨?_, _, orElseText_ne_empty (by decide), rfl⟩
          rintro ⟨other, same, isOther⟩
          cases same
          rw [isOk] at isOther
          cases isOther

section Handled

variable {registry : Registry} {settings : Settings} {explorer : Request → Reply}
  {dossier : Dossier} {endpoint : Endpoint}

/-- A dossier that passes is posted once, and the result is what is reported of the reply. -/
theorem submit_of_passes (takes : endpoint.takesPosts = true)
    (passes : dossier.Passes registry endpoint) (showable : ¬ dossier.IsUnshowable registry) :
    ∃ request, (submit registry settings explorer dossier.submission).requests = [request] ∧
      request.method = .post ∧ requestAddress endpoint.apiUrl = .ok request.url ∧
      request.url.isAbsolute = true ∧
      (submit registry settings explorer dossier.submission).value =
        (submitReport endpoint dossier.submission
          (envelopeOfReply request.url (explorer request))).value := by
  obtain ⟨request, made, isPost, isUrl, askable⟩ :=
    endpoint.postRequest_askable takes dossier.submission.form settings.submitTimeout
  refine ⟨request, ?_, isPost, isUrl, askable.1, ?_⟩
  · rw [submit_of_endpoint (Dossier.endpoint_eq_ok_iff.mpr ⟨passes, showable⟩), made,
      Traced.requests_bind, requests_record, List.nil_append]
    exact requests_call_report (requests_submitReport endpoint dossier.submission) askable
  · rw [submit_of_endpoint (Dossier.endpoint_eq_ok_iff.mpr ⟨passes, showable⟩), made,
      Traced.value_bind]
    exact value_call_report askable

/-- A dossier that is not sent is handled by telling why. -/
theorem submit_isHandled_of_fails {rejection : Rejection}
    (fails : dossier.FailsFirst registry rejection) (showable : ¬ dossier.IsUnshowable registry)
    (rejected : dossier.submission.endpoint registry = .error (.rejected rejection)) :
    dossier.IsHandled registry explorer
      (submit registry settings explorer dossier.submission) := by
  obtain ⟨told, none⟩ :
      (submit registry settings explorer dossier.submission).value =
          .ok { success := false, message := rejection.message } ∧
        (submit registry settings explorer dossier.submission).requests = [] :=
    submit_of_rejection rejected
  have only (result : SubmitResult)
      (returned : (submit registry settings explorer dossier.submission).value = .ok result) :
      result = { success := false, message := rejection.message } :=
    Except.ok.inj (returned.symm.trans told)
  refine ⟨fun endpoint passes => ?_, fun _ => none, fun _ _ => ⟨rejection, fails, told⟩,
    fun long => (showable long).elim, ?_, fun result returned => ?_,
    fun result returned success => ?_, fun result returned _ => ?_⟩
  · exact (fails.not_passes endpoint passes).elim
  · rw [none]
    exact ⟨fun _ => ⟨showable, fun _ member => (by cases member)⟩, fun _ => ⟨_, told⟩⟩
  · rw [only result returned, none]
    simp
  · rw [only result returned] at success
    cases success
  · rw [only result returned]
    exact ⟨rfl, rfl, rejection.message_ne_empty⟩

/-- A dossier that cannot be shown is handled by breaking down before anything is sent. -/
theorem submit_isHandled_of_unshowable (long : dossier.IsUnshowable registry)
    (broken : dossier.submission.endpoint registry = .error (.brokeDown .longInteger)) :
    dossier.IsHandled registry explorer
      (submit registry settings explorer dossier.submission) := by
  rw [submit_of_breakdown broken]
  have noResult (result : SubmitResult) :
      (pure (.error .longInteger) : Traced (Except Breakdown SubmitResult)).value ≠ .ok result := by
    intro returned
    cases returned
  exact {
    sent := fun _ _ showable => (showable long).elim
    unsent := fun _ => rfl
    rejected := fun _ showable => (showable long).elim
    unshowable := fun _ => ⟨rfl, rfl⟩
    returns := iff_of_false (fun ⟨result, returned⟩ => noResult result returned)
      fun fine => fine.1 long
    success := fun result returned => (noResult result returned).elim
    page := fun result returned => (noResult result returned).elim
    failure := fun result returned => (noResult result returned).elim }

/-- A dossier that is sent is handled by what the reply tells. -/
theorem submit_isHandled_of_passes (takes : ∀ endpoint ∈ registry, endpoint.takesPosts = true)
    (passes : dossier.Passes registry endpoint) (showable : ¬ dossier.IsUnshowable registry) :
    dossier.IsHandled registry explorer
      (submit registry settings explorer dossier.submission) := by
  have member : endpoint ∈ registry := List.mem_of_find?_eq_some passes.registered
  obtain ⟨request, one, isPost, isUrl, absolute, value⟩ :
      ∃ request, (submit registry settings explorer dossier.submission).requests = [request] ∧
        request.method = .post ∧ requestAddress endpoint.apiUrl = .ok request.url ∧
        request.url.isAbsolute = true ∧ _ :=
    submit_of_passes (takes endpoint member) passes showable
  have only {other : Endpoint} (again : dossier.Passes registry other) : other = endpoint :=
    Option.some.inj (again.registered.symm.trans passes.registered)
  have cases_of {result : SubmitResult}
      (returned : (submit registry settings explorer dossier.submission).value = .ok result) :=
    submitReport_eq_ok (value.symm.trans returned)
  refine ⟨fun other again _ => ?_, fun none => (none ⟨endpoint, passes⟩).elim,
    fun none => (none ⟨endpoint, passes⟩).elim, fun long => (showable long).elim,
    submit_returns_iff takes dossier, fun result returned => ?_,
    fun result returned success other again => ?_, fun result returned failed => ?_⟩
  · rw [only again]
    exact ⟨request, one, isPost, isUrl⟩
  · have told : (∃ asked ∈ [request], ∃ document, (explorer asked).Tells document ∧
        IsEnvelope document ∧ SaysOk document) ↔
        ∃ envelope, envelopeOfReply request.url (explorer request) = .ok envelope ∧
          envelope.isOk = true := by
      rw [exists_success_iff absolute]
      simp only [List.mem_singleton, exists_eq_left]
    rw [and_iff_right ⟨endpoint, passes⟩, one, told]
    rcases cases_of returned with ⟨untold, message, -, rfl⟩ | ⟨given, success, -⟩
    · exact iff_of_false (fun success => (by cases success)) untold
    · exact iff_of_true success given
  · rw [only again]
    rcases cases_of returned with ⟨-, message, -, rfl⟩ | ⟨-, -, page⟩
    · cases success
    · exact page
  · rcases cases_of returned with ⟨-, message, given, rfl⟩ | ⟨-, success, -⟩
    · exact ⟨rfl, rfl, given⟩
    · rw [success] at failed
      cases failed

end Handled

/-- **What becomes of a submission**: it is checked, sent once if it passes, and its result is that
of the first failed check or of the reply. There is none if an integer cannot be shown. -/
theorem submit_isHandled (registry : Registry) (settings : Settings) (explorer : Request → Reply)
    (takes : ∀ endpoint ∈ registry, endpoint.takesPosts = true) (dossier : Dossier) :
    dossier.IsHandled registry explorer
      (submit registry settings explorer dossier.submission) := by
  have checked := dossier.endpoint_checked registry
  cases outcome : dossier.submission.endpoint registry with
  | ok endpoint =>
      obtain ⟨passes, showable⟩ := Dossier.endpoint_eq_ok_iff.mp outcome
      exact submit_isHandled_of_passes takes passes showable
  | error unsent =>
      rw [outcome] at checked
      cases checked with
      | rejected fails showable => exact submit_isHandled_of_fails fails showable outcome
      | unshowable long => exact submit_isHandled_of_unshowable long outcome

/-- A dossier that passes all checks. -/
def counterDossier : Dossier where
  chain := .number 1
  contractAddress := "0x1234567890abcdef1234567890ABCDEF12345678"
  sourceCode := "contract Counter \x7b\x7d"
  contractName := "Counter"
  compilerVersion := "v0.8.20+commit.a1b79de6"
  optimizationUsed := true
  runs := 200
  constructorArguments := none
  apiKey := some "K"

/-- Submit it to an explorer that always gives one reply. -/
def submitCounter (reply : Reply) : Traced (Except Breakdown SubmitResult) :=
  submit .builtin .standard (fun _ => reply) counterDossier.submission

/-- The theorem at this dossier and an explorer that takes it. -/
theorem submitCounter_taken :
    (∀ endpoint ∈ Registry.builtin, endpoint.takesPosts = true) ∧
    (submitCounter (successOf "\x7b\"status\":\"1\",\"result\":\"guid\"\x7d")).value = .ok {
      success := true
      message := "Verification submitted successfully"
      jobId := some "guid"
      explorerUrl := some
        "https://etherscan.io/address/0x1234567890abcdef1234567890ABCDEF12345678#code" } ∧
    counterDossier.IsHandled .builtin
      (fun _ => successOf "\x7b\"status\":\"1\",\"result\":\"guid\"\x7d")
      (submitCounter (successOf "\x7b\"status\":\"1\",\"result\":\"guid\"\x7d")) :=
  ⟨builtin_takesPosts, by decide +kernel,
    submit_isHandled .builtin .standard _ builtin_takesPosts counterDossier⟩

/-- A redirection to a place for mail leaves the submission without a result. -/
theorem no_result_of_mail_place :
    ¬ ∃ result, (submitCounter (.answered ⟨302, [("location", "mailto:a@b")], []⟩)).value =
      .ok result := by
  have none : (submitCounter (.answered ⟨302, [("location", "mailto:a@b")], []⟩)).value.toOption =
      none := by
    decide +kernel
  rintro ⟨result, returned⟩
  rw [returned] at none
  cases none

end Soliscope.Explorer
