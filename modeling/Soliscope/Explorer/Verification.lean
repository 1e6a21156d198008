import Soliscope.Argument
import Soliscope.Explorer.Call
import Soliscope.Explorer.Endpoint
import Soliscope.Explorer.Redaction
import Soliscope.Settings.Basic

/-! # Verification of deployed contracts

A submission hands the source of a deployed contract to the explorer of its chain and gets a job id;
a poll asks once what has become of a job; a lookup asks whether an address has verified source
already.  Each makes one call at most.  What goes wrong on the way is told in the result.
-/

namespace Soliscope.Explorer

/-- What is needed to verify a contract. -/
structure Submission where
  chain : ChainId
  contractAddress : Argument
  sourceCode : Argument
  contractName : Argument
  compilerVersion : Argument
  optimizationUsed : Bool := true
  runs : Json := .int 200
  constructorArguments : Argument := .ofText ""
  apiKey : Argument := .ofText ""

/-- The outcome of a submission. -/
structure SubmitResult where
  success : Bool
  message : String
  jobId : Option String := none
  explorerUrl : Option String := none
  deriving DecidableEq, Repr

/-- What a poll can find out about a job. -/
inductive JobStatus where
  | pending
  | pass
  | fail
  /-- It could not be found out. -/
  | unknown
  deriving DecidableEq, Repr

/-- The name of a job status. -/
def JobStatus.name : JobStatus → String
  | .pending => "pending"
  | .pass => "pass"
  | .fail => "fail"
  | .unknown => "unknown"

/-- The outcome of a poll. -/
structure StatusResult where
  status : JobStatus
  message : String
  deriving DecidableEq, Repr

/-- The outcome of a lookup. -/
structure SourceResult where
  verified : Bool
  sourceCode : Option String := none
  deriving DecidableEq, Repr

/-- A hexadecimal digit. -/
def isHexDigit (c : Char) : Bool :=
  c.isDigit || ('a' ≤ c && c ≤ 'f') || ('A' ≤ c && c ≤ 'F')

/-- A contract address: `0x` and forty hexadecimal digits. -/
def isAddress (address : String) : Bool :=
  match address.toList with
  | '0' :: 'x' :: digits => digits.length == 40 && digits.all isHexDigit
  | _ => false

/-- Why a submission is not sent. -/
inductive Rejection where
  | unsupportedChain (shown : String)
  | noKey
  | badRuns (shown : String)
  | badAddress (shown : String)
  deriving DecidableEq, Repr

/-- The text of a rejection. -/
def Rejection.message : Rejection → String
  | .unsupportedChain shown => "Verification not supported for chain ID " ++ shown
  | .noKey => "API key required for contract verification. Get one from the block explorer."
  | .badRuns shown => "Optimizer runs must be a positive integer, got " ++ shown
  | .badAddress shown => "Invalid contract address: " ++ shown

/-- A submission that is not sent is rejected, or checking it breaks down. -/
inductive Unsent where
  | rejected (rejection : Rejection)
  | brokeDown (breakdown : Breakdown)
  deriving DecidableEq, Repr

/-- Reject a submission and show a value with the reason, if it can be shown. -/
def rejectShowing (value : Json) (rejection : String → Rejection) : Unsent :=
  if value.isShowable then .rejected (rejection value.display) else .brokeDown .longInteger

/-- Check that a number of runs is positive. -/
def checkRuns (runs : Json) : Except Unsent Unit :=
  let positive (holds : Bool) : Except Unsent Unit :=
    if holds then .ok () else .error (rejectShowing runs .badRuns)
  match runs with
  | .int value => positive (0 < value)
  | .bool value => positive value
  | .float value => positive !(value ≤ 0)
  | value => .error (.brokeDown (.unorderedRuns value.kindName))

/-- Check that an argument is a contract address. -/
def checkAddress (address : Argument) : Except Unsent Unit :=
  if !address.isGiven then .error (.rejected (.badAddress address.shown))
  else
    match address.value with
    | .str text => if isAddress text then .ok () else .error (.rejected (.badAddress text))
    | value => .error (.brokeDown (.addressKind value.kindName))

/-- Check that a number of runs can be shown, so that it can be sent. -/
def checkShowable (runs : Json) : Except Unsent Unit :=
  if runs.isShowable then .ok () else .error (.brokeDown .longInteger)

/-- The endpoint that a submission is sent to, or the first reason why it is not sent. -/
def Submission.endpoint (registry : Registry) (submission : Submission) :
    Except Unsent Endpoint :=
  match registry.find? submission.chain with
  | none => .error (rejectShowing submission.chain.toJson .unsupportedChain)
  | some endpoint =>
    if !submission.apiKey.isGiven then .error (.rejected .noKey)
    else do
      checkRuns submission.runs
      checkAddress submission.contractAddress
      checkShowable submission.runs
      pure endpoint

/-- The constructor arguments of a submission; without any, the empty text. -/
def Submission.givenArguments (submission : Submission) : Argument :=
  if submission.constructorArguments.isGiven then submission.constructorArguments else .ofText ""

/-- The form of a submission.  The explorer wants the last name spelled as it is. -/
def Submission.form (submission : Submission) : List (String × String) :=
  submission.apiKey.entries "apikey" ++
    [("module", "contract"), ("action", "verifysourcecode")] ++
    submission.contractAddress.entries "contractaddress" ++
    submission.sourceCode.entries "sourceCode" ++
    [("codeformat", "solidity-single-file")] ++
    submission.contractName.entries "contractname" ++
    submission.compilerVersion.entries "compilerversion" ++
    [("optimizationUsed", if submission.optimizationUsed then "1" else "0"),
      ("runs", submission.runs.display)] ++
    submission.givenArguments.entries "constructorArguements"

/-- A text, or another one in the place of the empty text. -/
def orElseText (text other : String) : String :=
  if text.isEmpty then other else text

/-- The message about a failed call, without keys. -/
def failureMessage (failure : CallFailure) (fallback : String) : String :=
  orElseText (redact failure.message) fallback

/-- The page of a contract. -/
def Endpoint.contractPage (endpoint : Endpoint) (address : String) : String :=
  endpoint.explorerUrl ++ "/address/" ++ address ++ "#code"

/-- The outcome of a submission that was answered. -/
def submitAnswer (endpoint : Endpoint) (submission : Submission) (envelope : Envelope) :
    Traced SubmitResult :=
  if envelope.isOk then
    pure {
      success := true
      message := "Verification submitted successfully"
      jobId := if envelope.resultText.isEmpty then none else some envelope.resultText
      explorerUrl := some (endpoint.contractPage submission.contractAddress.shown) }
  else do
    let message := orElseText envelope.resultText "Verification failed"
    record .info ("Explorer rejected verification: " ++ redact message)
    pure { success := false, message := message }

/-- Submit a contract for verification. -/
def submit (registry : Registry) (settings : Settings) (explorer : Request → Reply)
    (submission : Submission) : Traced (Except Breakdown SubmitResult) :=
  match submission.endpoint registry with
  | .error (.brokeDown breakdown) => pure (.error breakdown)
  | .error (.rejected rejection) => do
    record .info ("Verification request rejected: " ++ rejection.message)
    pure (.ok { success := false, message := rejection.message })
  | .ok endpoint => do
    record .info ("Submitting " ++ submission.contractName.shown ++ " at " ++
      submission.contractAddress.shown ++ " for verification on " ++ endpoint.displayName)
    match ← call explorer (postRequest endpoint.apiUrl submission.form settings.submitTimeout) with
    | .error (.brokeDown breakdown) => pure (.error breakdown)
    | .error (.failed failure) => do
      let message := failureMessage failure "Failed to submit verification"
      record .warning ("Verification submit to " ++ endpoint.displayName ++ " failed: " ++ message)
      pure (.ok { success := false, message := message })
    | .ok envelope => do
      let result ← submitAnswer endpoint submission envelope
      pure (.ok result)

/-- The result text of a job that still waits. -/
def pendingText : String := "Pending in queue"

/-- What an envelope says about a job. -/
def statusOf (envelope : Envelope) : StatusResult :=
  if envelope.isOk then ⟨.pass, "Contract verified successfully"⟩
  else if envelope.result.text? == some pendingText then ⟨.pending, "Verification pending in queue"⟩
  else ⟨.fail, orElseText envelope.resultText "Verification failed"⟩

/-- The form of a poll. -/
def pollForm (apiKey job : Argument) : List (String × String) :=
  apiKey.entries "apikey" ++ [("module", "contract"), ("action", "checkverifystatus")] ++
    job.entries "guid"

/-- Ask once what has become of a job. -/
def pollStatus (registry : Registry) (settings : Settings) (explorer : Request → Reply)
    (chain : ChainId) (job apiKey : Argument) : Traced (Except Breakdown StatusResult) :=
  match registry.find? chain with
  | none =>
    if chain.isShowable then
      pure (.ok ⟨.unknown, "Chain ID " ++ chain.shown ++ " not supported"⟩)
    else pure (.error .longInteger)
  | some endpoint => do
    match ← call explorer
        (getRequest endpoint.apiUrl (pollForm apiKey job) settings.statusTimeout) with
    | .error (.brokeDown breakdown) => pure (.error breakdown)
    | .error (.failed failure) => do
      let message := failureMessage failure "Failed to check status"
      record .warning ("Status check for job " ++ job.shown ++ " failed: " ++ message)
      pure (.ok ⟨.unknown, message⟩)
    | .ok envelope => do
      let result := statusOf envelope
      record .debug ("Job " ++ job.shown ++ " on " ++ endpoint.displayName ++ ": " ++
        result.status.name)
      pure (.ok result)

/-- The form of a lookup; a key that is not given is not sent. -/
def lookupForm (address apiKey : Argument) : List (String × String) :=
  [("module", "contract"), ("action", "getsourcecode")] ++ address.entries "address" ++
    if apiKey.isGiven then apiKey.entries "apikey" else []

/-- The source entry of an envelope, if the envelope is a success and has records. -/
def sourceEntry? (envelope : Envelope) : Except Setback (Option SourceEntry) :=
  match envelope.isOk, envelope.records with
  | true, first :: _ =>
    match SourceEntry.read first with
    | .accepted entry => .ok (some entry)
    | .refused issues => .error (.failed (.otherForm "ExplorerSourceEntry" issues))
  | _, _ => .ok none

/-- The outcome of a lookup for an entry, if there is one. -/
def sourceOf : Option SourceEntry → SourceResult
  | some entry =>
    if entry.sourceCode.isEmpty then { verified := false }
    else { verified := true, sourceCode := some entry.sourceCode }
  | none => { verified := false }

/-- Ask whether an address has verified source. -/
def lookUpSource (registry : Registry) (settings : Settings) (explorer : Request → Reply)
    (chain : ChainId) (address apiKey : Argument) : Traced (Except Breakdown SourceResult) :=
  match registry.find? chain with
  | none => pure (.ok { verified := false })
  | some endpoint => do
    let answer ← call explorer
      (getRequest endpoint.apiUrl (lookupForm address apiKey) settings.sourceTimeout)
    match answer.bind sourceEntry? with
    | .error (.brokeDown breakdown) => pure (.error breakdown)
    | .error (.failed failure) => do
      record .warning ("Source lookup for " ++ address.shown ++ " on " ++
        endpoint.displayName ++ " failed: " ++ redact failure.message)
      pure (.ok { verified := false })
    | .ok entry => pure (.ok (sourceOf entry))

end Soliscope.Explorer
