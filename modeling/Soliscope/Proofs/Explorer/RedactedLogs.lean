import Soliscope.Proofs.Explorer.Masking
import Soliscope.Proofs.Explorer.Submissions
import Soliscope.Proofs.Number.DoubleText

/-! # What is logged of calls

What an explorer says gets into the log only with its keys masked, in a message of which the rest is
fixed or given by the caller. The pieces of a message are kept apart by blanks, at which every key
ends, so that a message is redacted if each piece of it is (`IsRedacted.join`). With texts of the
caller that hold no mark, all that is logged of submissions, polls and lookups is redacted
(`calls_log_redacted`).
-/

namespace Soliscope

namespace Explorer

open Soliscope.Text

/-- No key is introduced in a text. -/
def IsUnmarked (text : String) : Prop :=
  ¬ keyMark <:+: text.toList

/-- **A text is redacted**: redaction does not change it. -/
def IsRedacted (text : String) : Prop :=
  redact text = text

/-- A text that a piece of a message may come after: it has no mark, and a blank at its end. -/
def isLead (text : String) : Bool :=
  text.toList.getLast? == some ' ' && !contains text "apikey="

/-- A text that may stand between two pieces of a message: a lead with a blank in front. -/
def isSeam (text : String) : Bool :=
  text.toList.head? == some ' ' && isLead text

section Messages

variable {front seam lead back : String}

/-- Without a mark there is nothing to redact. -/
theorem IsUnmarked.isRedacted {text : String} (unmarked : IsUnmarked text) : IsRedacted text :=
  (redact_eq_self_iff text).mpr (isMasked_of_unmarked unmarked)

/-- That a text holds no mark can be found by searching it. -/
theorem isUnmarked_of_contains {text : String} (missing : contains text "apikey=" = false) :
    IsUnmarked text := by
  intro within
  rw [(contains_iff text "apikey=").mpr within] at missing
  cases missing

/-- A mark has an equals sign in it. -/
theorem isUnmarked_of_missing {text : String} (missing : '=' ∉ text.toList) : IsUnmarked text :=
  fun within => missing (within.subset (by decide))

/-- No mark goes on across a character that it does not hold. -/
theorem isUnmarked_append_break {c : Char} (absent : c ∉ keyMark) {rest : String}
    (starts : rest.toList.head? = some c) (one : IsUnmarked front) (other : IsUnmarked rest) :
    IsUnmarked (front ++ rest) := by
  intro within
  rw [String.toList_append] at within
  cases written : rest.toList with
  | nil =>
      rw [written] at starts
      cases starts
  | cons first more =>
      rw [written] at starts within
      cases starts
      rcases infix_append_break absent within with inFront | inMore
      · exact one inFront
      · apply other
        rw [written]
        exact inMore.trans (List.suffix_cons c more).isInfix

/-- A piece of a message behind a lead. -/
theorem isRedacted_lead (isLead : isLead lead = true) (other : IsRedacted back) :
    IsRedacted (lead ++ back) := by
  unfold Explorer.isLead at isLead
  rw [Bool.and_eq_true, beq_iff_eq, Bool.not_eq_true'] at isLead
  obtain ⟨ended, missing⟩ := isLead
  obtain ⟨short, written⟩ := List.getLast?_eq_some_iff.mp ended
  have unmarked := isUnmarked_of_contains missing
  have one : IsMasked short := by
    apply isMasked_of_unmarked
    intro within
    apply unmarked
    rw [written]
    exact within.trans (List.prefix_append short [' ']).isInfix
  apply (redact_eq_self_iff _).mpr
  rw [String.toList_append, written, List.append_assoc]
  exact one.append_delimiter ((redact_eq_self_iff back).mp other) (by decide)

/-- **Redacted pieces make a redacted message**, if they are kept apart. -/
theorem IsRedacted.join (one : IsRedacted front) (isSeam : isSeam seam = true)
    (other : IsRedacted back) : IsRedacted (front ++ seam ++ back) := by
  unfold Explorer.isSeam at isSeam
  rw [Bool.and_eq_true, beq_iff_eq] at isSeam
  obtain ⟨started, isLead⟩ := isSeam
  obtain ⟨rest, written⟩ := List.head?_eq_some_iff.mp started
  have later := (redact_eq_self_iff _).mp (isRedacted_lead isLead other)
  apply (redact_eq_self_iff _).mpr
  rw [String.append_assoc, String.toList_append]
  apply ((redact_eq_self_iff front).mp one).append_ended later
  rw [String.toList_append, written]
  exact (by decide : endsKey ' ' = true)

/-- Redacting twice is redacting once. -/
theorem isRedacted_redact (text : String) : IsRedacted (redact text) :=
  (redact_eq_self_iff _).mpr (isMasked_redact text)

/-- The message of a failure is redacted, whatever the failure says. -/
theorem isRedacted_failureMessage (failure : CallFailure) {fallback : String}
    (unmarked : IsUnmarked fallback) : IsRedacted (failureMessage failure fallback) := by
  unfold failureMessage orElseText
  split
  · exact unmarked.isRedacted
  · exact isRedacted_redact failure.message

end Messages

section Scalars

/-- An integer in writing holds no mark. -/
theorem isUnmarked_int (value : Int) : IsUnmarked (toString value) :=
  isUnmarked_of_missing fun member =>
    Number.not_foreign_of_mem_toString member ⟨by decide, by decide⟩

theorem isUnmarked_double (value : Float) : IsUnmarked (Number.valueText value) := by
  apply isUnmarked_of_missing
  intro member
  rcases Number.isDoubleWriting_valueText value '=' member with digit | mark
  · cases digit
  · exact absurd mark (by decide)

theorem isUnmarked_bool (value : Bool) : IsUnmarked (Json.bool value).display := by
  cases value with
  | false => exact isUnmarked_of_contains (by decide)
  | true => exact isUnmarked_of_contains (by decide)

/-- A chain is shown without a mark, unless its id is a text with one. -/
theorem isUnmarked_chain {chain : ChainId} (named : ∀ text, chain = .text text → IsUnmarked text) :
    IsUnmarked chain.shown := by
  cases chain with
  | number value => exact isUnmarked_int value
  | truth value => exact isUnmarked_bool value
  | double value => exact isUnmarked_double value
  | text value => exact named value rfl
  | nothing => exact isUnmarked_of_contains (by decide)

/-- A rejection shows the value that it is told with. -/
theorem rejectShowing_eq_rejected {value : Json} {reason : String → Rejection}
    {rejection : Rejection} (rejected : rejectShowing value reason = .rejected rejection) :
    rejection = reason value.display := by
  unfold rejectShowing at rejected
  split at rejected
  · cases rejected
    rfl
  · cases rejected

/-- A number of runs that is told to be no positive one is a number. -/
theorem checkRuns_eq_rejected {runs : Json} {rejection : Rejection}
    (rejected : checkRuns runs = .error (.rejected rejection)) :
    rejection = .badRuns runs.display ∧ IsUnmarked runs.display := by
  have told {holds : Bool}
      (failed : (if holds then .ok () else .error (rejectShowing runs .badRuns) :
        Except Unsent Unit) = .error (.rejected rejection)) :
      rejection = .badRuns runs.display := by
    cases holds with
    | true => cases failed
    | false => exact rejectShowing_eq_rejected (Except.error.inj failed)
  unfold checkRuns at rejected
  cases runs with
  | int value => exact ⟨told rejected, isUnmarked_int value⟩
  | bool value => exact ⟨told rejected, isUnmarked_bool value⟩
  | float value => exact ⟨told rejected, isUnmarked_double value⟩
  | null => cases rejected
  | str text => cases rejected
  | arr items => cases rejected
  | obj fields => cases rejected

/-- A rejected address is told as it is shown. -/
theorem checkAddress_eq_rejected {address : Argument} {rejection : Rejection}
    (rejected : checkAddress address = .error (.rejected rejection)) :
    rejection = .badAddress address.shown := by
  obtain ⟨value⟩ := address
  unfold checkAddress at rejected
  split at rejected
  · cases rejected
    rfl
  · cases value with
    | str text =>
        dsimp only at rejected
        split at rejected
        · cases rejected
        · cases rejected
          rfl
    | _ => cases rejected

end Scalars

section Checks

variable {registry : Registry} {submission : Submission} {rejection : Rejection}

/-- A rejection quotes nothing but the chain, the number of runs or the address. -/
theorem isRedacted_rejection (named : ∀ text, submission.chain = .text text → IsUnmarked text)
    (address : IsUnmarked submission.contractAddress.shown)
    (rejected : submission.endpoint registry = .error (.rejected rejection)) :
    IsRedacted rejection.message := by
  unfold Submission.endpoint at rejected
  cases found : registry.find? submission.chain with
  | none =>
      rw [found] at rejected
      obtain rfl := rejectShowing_eq_rejected (Except.error.inj rejected)
      exact isRedacted_lead (by decide) (isUnmarked_chain named).isRedacted
  | some endpoint =>
      rw [found] at rejected
      dsimp only at rejected
      split at rejected
      · cases rejected
        exact (isUnmarked_of_contains (by decide)).isRedacted
      · rcases bind_eq_error.mp rejected with runsFailed | ⟨_, -, later⟩
        · obtain ⟨rfl, unmarked⟩ := checkRuns_eq_rejected runsFailed
          exact isRedacted_lead (by decide) unmarked.isRedacted
        · rcases bind_eq_error.mp later with addressFailed | ⟨_, -, passed⟩
          · obtain rfl := checkAddress_eq_rejected addressFailed
            exact isRedacted_lead (by decide) address.isRedacted
          · rcases bind_eq_error.mp passed with unshowable | ⟨_, -, done⟩
            · unfold checkShowable at unshowable
              split at unshowable <;> cases unshowable
            · cases done

/-- A submission is sent to the endpoint of its chain. -/
theorem find?_of_endpoint {endpoint : Endpoint}
    (sent : submission.endpoint registry = .ok endpoint) :
    registry.find? submission.chain = some endpoint := by
  unfold Submission.endpoint at sent
  cases found : registry.find? submission.chain with
  | none =>
      rw [found] at sent
      cases sent
  | some registered =>
      rw [found] at sent
      dsimp only at sent
      split at sent
      · cases sent
      · obtain ⟨_, -, later⟩ := bind_eq_ok.mp sent
        obtain ⟨_, -, passed⟩ := bind_eq_ok.mp later
        obtain ⟨_, -, done⟩ := bind_eq_ok.mp passed
        cases done
        rfl

end Checks

/-- **What is logged on the way shows no key**: redaction changes no message, so that nothing stands
behind a mark in it but the mask. -/
structure LogsRedacted {α : Type} (trace : Traced α) : Prop where
  fixed : ∀ entry ∈ trace.log, redact entry.message = entry.message
  covered : ∀ entry ∈ trace.log, IsMasked entry.message.toList

section Traces

variable {α β : Type}

/-- A log is redacted if each of its messages is. -/
theorem logsRedacted_of_messages {trace : Traced α}
    (all : ∀ entry ∈ trace.log, IsRedacted entry.message) : LogsRedacted trace :=
  ⟨all, fun entry member => (redact_eq_self_iff entry.message).mp (all entry member)⟩

theorem logsRedacted_pure (value : α) : LogsRedacted (pure value : Traced α) :=
  logsRedacted_of_messages fun _ member => (by cases member)

/-- Two redacted logs after each other are one. -/
theorem LogsRedacted.bind {first : Traced α} {next : α → Traced β} (start : LogsRedacted first)
    (goOn : ∀ value, LogsRedacted (next value)) : LogsRedacted (first >>= next) := by
  apply logsRedacted_of_messages
  intro entry member
  rw [Traced.log_bind, List.mem_append] at member
  rcases member with early | late
  · exact start.fixed entry early
  · exact (goOn first.value).fixed entry late

/-- A redacted message may be recorded. -/
theorem logsRedacted_record {message : String} (redacted : IsRedacted message) (level : LogLevel) :
    LogsRedacted (record level message) := by
  apply logsRedacted_of_messages
  intro entry member
  rw [log_record, List.mem_singleton] at member
  rw [member]
  exact redacted

/-- A call writes nothing that could show a key. -/
theorem logsRedacted_call (explorer : Request → Reply) (request : Except Url.Flaw Request) :
    LogsRedacted (call explorer request) := by
  apply logsRedacted_of_messages
  intro entry member
  rw [log_call] at member
  cases member

end Traces

section Reports

variable {endpoint : Endpoint} (display : IsUnmarked endpoint.displayName)

include display

/-- The report on a submission writes its failures redacted. -/
theorem submitReport_logsRedacted (submission : Submission) (answer : Except Setback Envelope) :
    LogsRedacted (submitReport endpoint submission answer) := by
  cases answer with
  | ok envelope =>
      refine LogsRedacted.bind ?_ fun result => logsRedacted_pure _
      unfold submitAnswer
      split
      · exact logsRedacted_pure _
      · refine LogsRedacted.bind (logsRedacted_record ?_ _) fun _ => logsRedacted_pure _
        exact isRedacted_lead (by decide) (isRedacted_redact _)
  | error setback =>
      cases setback with
      | brokeDown breakdown => exact logsRedacted_pure _
      | failed failure =>
          refine LogsRedacted.bind (logsRedacted_record ?_ _) fun _ => logsRedacted_pure _
          have told := isRedacted_failureMessage failure
            (isUnmarked_of_contains (by decide : contains "Failed to submit verification" _ = _))
          exact (isRedacted_lead (by decide) display.isRedacted).join (by decide) told

theorem statusReport_logsRedacted {job : Argument} (unmarked : IsUnmarked job.shown)
    (answer : Except Setback Envelope) : LogsRedacted (statusReport endpoint job answer) := by
  cases answer with
  | ok envelope =>
      refine LogsRedacted.bind (logsRedacted_record ?_ _) fun _ => logsRedacted_pure _
      -- The status stands behind a colon; no mark goes on across one.
      have status : IsUnmarked (": " ++ (statusOf envelope).status.name) := by
        apply isUnmarked_of_contains
        cases (statusOf envelope).status <;> decide
      have named : IsUnmarked (endpoint.displayName ++ (": " ++ (statusOf envelope).status.name)) :=
        isUnmarked_append_break (by decide : ':' ∉ keyMark)
          (by rw [String.toList_append]; rfl) display status
      rw [String.append_assoc, String.append_assoc]
      exact (isRedacted_lead (by decide) unmarked.isRedacted).join (by decide) named.isRedacted
  | error setback =>
      cases setback with
      | brokeDown breakdown => exact logsRedacted_pure _
      | failed failure =>
          refine LogsRedacted.bind (logsRedacted_record ?_ _) fun _ => logsRedacted_pure _
          have told := isRedacted_failureMessage failure
            (isUnmarked_of_contains (by decide : contains "Failed to check status" _ = _))
          exact (isRedacted_lead (by decide) unmarked.isRedacted).join (by decide) told

theorem lookUpReport_logsRedacted {address : Argument} (unmarked : IsUnmarked address.shown)
    (answer : Except Setback Envelope) : LogsRedacted (lookUpReport endpoint address answer) := by
  unfold lookUpReport
  split
  · exact logsRedacted_pure _
  · refine LogsRedacted.bind (logsRedacted_record ?_ _) fun _ => logsRedacted_pure _
    have front : IsRedacted ("Source lookup for " ++ address.shown) :=
      isRedacted_lead (by decide) unmarked.isRedacted
    exact (front.join (by decide) display.isRedacted).join (by decide) (isRedacted_redact _)
  · exact logsRedacted_pure _

end Reports

section Calls

variable {registry : Registry} (settings : Settings) (explorer : Request → Reply)
  (displays : ∀ endpoint ∈ registry, IsUnmarked endpoint.displayName)

include displays

/-- **The log of a submission is redacted.** -/
theorem submit_logsRedacted {submission : Submission}
    (named : ∀ text, submission.chain = .text text → IsUnmarked text)
    (name : IsUnmarked submission.contractName.shown)
    (address : IsUnmarked submission.contractAddress.shown) :
    LogsRedacted (submit registry settings explorer submission) := by
  cases checked : submission.endpoint registry with
  | error unsent =>
      unfold submit
      rw [checked]
      cases unsent with
      | brokeDown breakdown => exact logsRedacted_pure _
      | rejected rejection =>
          refine LogsRedacted.bind (logsRedacted_record ?_ _) fun _ => logsRedacted_pure _
          exact isRedacted_lead (by decide) (isRedacted_rejection named address checked)
  | ok endpoint =>
      have display := displays endpoint (List.mem_of_find?_eq_some (find?_of_endpoint checked))
      rw [submit_of_endpoint checked]
      refine LogsRedacted.bind (logsRedacted_record ?_ _) fun _ =>
        (logsRedacted_call explorer _).bind (submitReport_logsRedacted display submission)
      have front : IsRedacted ("Submitting " ++ submission.contractName.shown) :=
        isRedacted_lead (by decide) name.isRedacted
      exact (front.join (by decide) address.isRedacted).join (by decide) display.isRedacted

/-- **The log of a poll is redacted.** -/
theorem pollStatus_logsRedacted (chain : ChainId) {job : Argument}
    (unmarked : IsUnmarked job.shown) (apiKey : Argument) :
    LogsRedacted (pollStatus registry settings explorer chain job apiKey) := by
  cases found : registry.find? chain with
  | none =>
      rw [pollStatus_of_unregistered found]
      exact logsRedacted_pure _
  | some endpoint =>
      rw [pollStatus_of_registered found]
      exact (logsRedacted_call explorer _).bind
        (statusReport_logsRedacted (displays endpoint (List.mem_of_find?_eq_some found)) unmarked)

/-- **The log of a lookup is redacted.** -/
theorem lookUpSource_logsRedacted (chain : ChainId) {address : Argument}
    (unmarked : IsUnmarked address.shown) (apiKey : Argument) :
    LogsRedacted (lookUpSource registry settings explorer chain address apiKey) := by
  cases found : registry.find? chain with
  | none =>
      rw [lookUpSource_of_unregistered found]
      exact logsRedacted_pure _
  | some endpoint =>
      rw [lookUpSource_of_registered found]
      exact (logsRedacted_call explorer _).bind
        (lookUpReport_logsRedacted (displays endpoint (List.mem_of_find?_eq_some found)) unmarked)

end Calls

/-- No name of a chain that is built in looks like a key. -/
theorem builtin_displays : ∀ endpoint ∈ Registry.builtin, IsUnmarked endpoint.displayName := by
  have all : Registry.builtin.all (!contains ·.displayName "apikey=") = true := by decide +kernel
  intro endpoint member
  apply isUnmarked_of_contains
  simpa using List.all_eq_true.mp all endpoint member

/-- **What is logged of calls is redacted**, whatever the explorer says, if the texts of the caller
that are logged have no mark. -/
theorem calls_log_redacted (settings : Settings) (explorer : Request → Reply) :
    (∀ submission : Submission, (∀ text, submission.chain = .text text → IsUnmarked text) →
      IsUnmarked submission.contractName.shown → IsUnmarked submission.contractAddress.shown →
      LogsRedacted (submit .builtin settings explorer submission)) ∧
    (∀ (chain : ChainId) (job apiKey : Argument), IsUnmarked job.shown →
      LogsRedacted (pollStatus .builtin settings explorer chain job apiKey)) ∧
    ∀ (chain : ChainId) (address apiKey : Argument), IsUnmarked address.shown →
      LogsRedacted (lookUpSource .builtin settings explorer chain address apiKey) :=
  ⟨fun _ named name address =>
      submit_logsRedacted settings explorer builtin_displays named name address,
    fun chain _ apiKey unmarked =>
      pollStatus_logsRedacted settings explorer builtin_displays chain unmarked apiKey,
    fun chain _ apiKey unmarked =>
      lookUpSource_logsRedacted settings explorer builtin_displays chain unmarked apiKey⟩

/-- A reply full of keys: several in one address, one that holds a mark itself, and a mark without
any. -/
def leakyReply : Reply :=
  .failed "for url 'https://e/?apikey=K&to=apikey=L' apikey=apikey=M&apikey= apikey=N"

/-- The theorem at a submission that gets this reply. -/
theorem submitCounter_leakyReply :
    (submitCounter leakyReply).log = [
      ⟨.info, "Submitting Counter at 0x1234567890abcdef1234567890ABCDEF12345678 for verification " ++
        "on Ethereum Mainnet"⟩,
      ⟨.warning, "Verification submit to Ethereum Mainnet failed: for url " ++
        "'https://e/?apikey=[REDACTED]&to=apikey=[REDACTED]' " ++
        "apikey=[REDACTED]&apikey= apikey=[REDACTED]"⟩] ∧
    IsUnmarked counterDossier.contractName ∧ IsUnmarked counterDossier.contractAddress ∧
    LogsRedacted (submitCounter leakyReply) := by
  have name : IsUnmarked counterDossier.contractName := isUnmarked_of_contains (by decide)
  have address : IsUnmarked counterDossier.contractAddress :=
    isUnmarked_of_contains (by decide +kernel)
  refine ⟨by decide +kernel, name, address, ?_⟩
  exact (calls_log_redacted .standard fun _ => leakyReply).1 counterDossier.submission
    (fun _ named => (by cases named)) name address

end Explorer

end Soliscope
