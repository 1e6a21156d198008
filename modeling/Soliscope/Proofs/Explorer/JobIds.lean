import Soliscope.Proofs.Explorer.Submissions

/-!
# The job of a submission

A submission that succeeds names the job to be polled: the text that the reply carries as its
result. An explorer may say that all went well and carry no such text. The submission succeeds all
the same, without a job, and in no other case (`submit_jobId_iff`).
-/

namespace Soliscope.Explorer

/-- A document carries a job id: its result is this text, and the text says something. -/
def CarriesJob (document : Json) (job : String) : Prop :=
  document.field? "result" = some (.str job) ∧ job ≠ ""

/-- The job that an envelope names. -/
def Envelope.job? (envelope : Envelope) : Option String :=
  if envelope.resultText.isEmpty then none else some envelope.resultText

/-- A job is named by a result that is a text with something in it. -/
theorem Envelope.job?_eq_some {document : Json} {envelope : Envelope}
    (read : Envelope.read document = .accepted envelope) {job : String} :
    envelope.job? = some job ↔ CarriesJob document job := by
  have carried : envelope.result.text? = some job ↔ document.field? "result" = some (.str job) :=
    envelope.result_text_iff read
  unfold CarriesJob Envelope.job? Envelope.resultText
  rw [← carried]
  cases envelope.result.text? with
  | none => simp
  | some written =>
      rw [Option.getD_some, Option.some.injEq]
      by_cases empty : written = ""
      · subst empty
        constructor
        · intro none
          cases none
        · rintro ⟨rfl, given⟩
          exact (given rfl).elim
      · rw [if_neg (by simpa using empty), Option.some.injEq]
        constructor
        · intro same
          exact ⟨same, same ▸ empty⟩
        · intro found
          exact found.1

section Call

variable {explorer : Request → Reply} {envelope : Envelope}

/-- Only a reply from an address that says where to go gives an envelope. -/
theorem isAbsolute_of_envelope {url : Url.Address} {reply : Reply}
    (given : envelopeOfReply url reply = .ok envelope) : url.isAbsolute = true := by
  cases reply with
  | failed message => cases given
  | brokeDown message => cases given
  | answered response =>
      change envelopeOfResponse url response = .ok envelope at given
      rw [envelopeOfResponse_eq] at given
      obtain ⟨content, received, -⟩ := bind_eq_ok.mp given
      exact (receivedContent_eq_ok.mp received).1

/-- A call that gives an envelope made its request, and the reply told the document of it. -/
theorem call_eq_ok {written : Except Url.Flaw Request}
    (given : (call explorer written).value = .ok envelope) :
    ∃ request document, (call explorer written).requests = [request] ∧
      (explorer request).Tells document ∧ Envelope.read document = .accepted envelope := by
  cases written with
  | error flaw => cases given
  | ok request =>
      cases free : obstacle? request.url with
      | some failure =>
          simp only [call, free, Traced.value_pure] at given
          cases given
      | none =>
          rw [value_call free] at given
          have absolute : request.url.isAbsolute = true := isAbsolute_of_envelope given
          obtain ⟨document, told, read⟩ := (envelopeOfReply_eq_ok absolute).mp given
          exact ⟨request, document, requests_call free, told, read⟩

end Call

/-- A submission is reported as a success for an envelope that says so, with the job named there. -/
theorem submitReport_success {endpoint : Endpoint} {submission : Submission}
    {answer : Except Setback Envelope} {result : SubmitResult}
    (reported : (submitReport endpoint submission answer).value = .ok result)
    (success : result.success = true) :
    ∃ envelope, answer = .ok envelope ∧ envelope.isOk = true ∧ result.jobId = envelope.job? := by
  cases answer with
  | error setback =>
      cases setback with
      | brokeDown breakdown => cases reported
      | failed failure =>
          cases reported
          cases success
  | ok envelope =>
      cases isOk : envelope.isOk with
      | true =>
          simp only [submitReport, submitAnswer, isOk] at reported
          cases reported
          exact ⟨envelope, rfl, isOk, rfl⟩
      | false =>
          simp only [submitReport, submitAnswer, isOk] at reported
          cases reported
          cases success

section Submissions

variable {registry : Registry} {settings : Settings} {explorer : Request → Reply}
  {submission : Submission} {result : SubmitResult}

/-- A submission that succeeds passed its checks. -/
theorem exists_endpoint_of_success
    (returned : (submit registry settings explorer submission).value = .ok result)
    (success : result.success = true) :
    ∃ endpoint, submission.endpoint registry = .ok endpoint := by
  cases checked : submission.endpoint registry with
  | ok endpoint => exact ⟨endpoint, rfl⟩
  | error unsent =>
      cases unsent with
      | brokeDown breakdown =>
          rw [submit_of_breakdown checked] at returned
          cases returned
      | rejected rejection =>
          rw [(submit_of_rejection checked).1] at returned
          cases returned
          cases success

/-- **The job of a successful submission.** One request was made, and its reply says that all went
well. The job is the one that the reply carries, and there is none if it carries none. -/
theorem submit_jobId_iff
    (returned : (submit registry settings explorer submission).value = .ok result)
    (success : result.success = true) :
    ∃ request document, (submit registry settings explorer submission).requests = [request] ∧
      (explorer request).Tells document ∧ IsEnvelope document ∧ SaysOk document ∧
      (∀ job, result.jobId = some job ↔ CarriesJob document job) ∧
      (result.jobId = none ↔ ¬ ∃ job, CarriesJob document job) := by
  obtain ⟨endpoint, sent⟩ := exists_endpoint_of_success returned success
  rw [submit_of_endpoint sent] at returned ⊢
  simp only [Traced.value_bind] at returned
  obtain ⟨envelope, given, isOk, named⟩ := submitReport_success returned success
  obtain ⟨request, document, made, told, read⟩ := call_eq_ok given
  have jobs (job : String) : result.jobId = some job ↔ CarriesJob document job := by
    rw [named]
    exact envelope.job?_eq_some read
  refine ⟨request, document, ?_, told, Envelope.exists_read_iff.mp ⟨envelope, read⟩,
    (Envelope.isOk_iff read).mp isOk, jobs, ?_⟩
  · simp only [Traced.requests_bind, requests_record, made, requests_submitReport,
      List.nil_append, List.append_nil]
  · simp only [← jobs, Option.eq_none_iff_forall_ne_some, not_exists, ne_eq]

end Submissions

/-- The theorem at a dossier and an explorer that takes it and names a job. -/
theorem submitCounter_names_job :
    ∃ result, (submitCounter (successOf "\x7b\"status\":\"1\",\"result\":\"guid\"\x7d")).value =
        .ok result ∧ result.success = true ∧ result.jobId = some "guid" ∧
      ∃ request document,
        (submitCounter (successOf "\x7b\"status\":\"1\",\"result\":\"guid\"\x7d")).requests =
          [request] ∧
        (successOf "\x7b\"status\":\"1\",\"result\":\"guid\"\x7d").Tells document ∧
        CarriesJob document "guid" := by
  have returned : (submitCounter
      (successOf "\x7b\"status\":\"1\",\"result\":\"guid\"\x7d")).value = .ok {
        success := true
        message := "Verification submitted successfully"
        jobId := some "guid"
        explorerUrl := some
          "https://etherscan.io/address/0x1234567890abcdef1234567890ABCDEF12345678#code" } := by
    decide +kernel
  refine ⟨_, returned, rfl, rfl, ?_⟩
  obtain ⟨request, document, made, told, -, -, jobs, -⟩ := submit_jobId_iff returned rfl
  exact ⟨request, document, made, told, (jobs "guid").mp rfl⟩

/-- An explorer that says that all went well and carries no result leaves a success without a
job. -/
theorem success_without_job :
    ¬ ∀ result, (submitCounter (successOf "\x7b\"status\":\"1\",\"result\":null\x7d")).value =
      .ok result → result.success = true → ∃ job, result.jobId = some job ∧ job ≠ "" := by
  have returned : (submitCounter
      (successOf "\x7b\"status\":\"1\",\"result\":null\x7d")).value = .ok {
        success := true
        message := "Verification submitted successfully"
        jobId := none
        explorerUrl := some
          "https://etherscan.io/address/0x1234567890abcdef1234567890ABCDEF12345678#code" } := by
    decide +kernel
  intro always
  obtain ⟨job, named, -⟩ := always _ returned rfl
  cases named

end Soliscope.Explorer
