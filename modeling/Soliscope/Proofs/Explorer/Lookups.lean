import Soliscope.Proofs.Explorer.JobIds

/-!
# What lookups find

A lookup says that an address has verified source only if the reply to it proves this: it tells an
envelope that says that all went well and lists records, and the first of these is a source entry
with a source that says something (`Reply.Proves`). The later records do not matter, nor does what
else is in the first. Otherwise nothing is verified and no source is given (`lookUp_isAnswered`).
The one thing that goes wrong is a reply that breaks the call down, after which there is no result.
-/

namespace Soliscope.Explorer

open Soliscope.Schema

/-- A record is a source entry with this source. Each field goes by two names; the source is a text,
empty when it is missing, and the others are texts that may be null or missing. -/
structure IsSourceEntry (record : Json) (source : String) : Prop where
  isObject : ∃ fields, record = .obj fields
  source : ((record.field? "SourceCode").or (record.field? "source_code")).getD (.str "") =
    .str source
  contractName : ∃ name,
    ((record.field? "ContractName").or (record.field? "contract_name")).getD .null =
      Json.ofText? name
  compilerVersion : ∃ version,
    ((record.field? "CompilerVersion").or (record.field? "compiler_version")).getD .null =
      Json.ofText? version

/-- **A reply proves that there is verified source**, and tells this source. -/
def Reply.Proves (reply : Reply) (source : String) : Prop :=
  ∃ document, reply.Tells document ∧ IsEnvelope document ∧ SaysOk document ∧
    ∃ first others, document.field? "result" = some (.arr (first :: others)) ∧
      IsSourceEntry first source ∧ source ≠ ""

/-- A question about an address. -/
structure Lookup where
  chain : ChainId
  address : Argument
  apiKey : Argument

/-- Ask the question. -/
def Lookup.ask (lookup : Lookup) (registry : Registry) (settings : Settings)
    (explorer : Request → Reply) : Traced (Except Breakdown SourceResult) :=
  lookUpSource registry settings explorer lookup.chain lookup.address lookup.apiKey

/-- The request of a lookup to an endpoint. -/
def Lookup.request (lookup : Lookup) (settings : Settings) (endpoint : Endpoint) :
    Except Url.Flaw Request :=
  getRequest endpoint.apiUrl (lookupForm lookup.address lookup.apiKey) settings.sourceTimeout

/-- The outcome of a lookup is what it should be for the explorer. -/
structure Lookup.IsAnswered (lookup : Lookup) (registry : Registry) (settings : Settings)
    (explorer : Request → Reply) (outcome : Traced (Except Breakdown SourceResult)) : Prop where
  /-- Nothing is asked about a chain that is not registered. -/
  unregistered : registry.find? lookup.chain = none → outcome.requests = []
  /-- The endpoint of the chain is asked once. -/
  registered : ∀ endpoint, registry.find? lookup.chain = some endpoint →
    ∃ request, lookup.request settings endpoint = .ok request ∧ outcome.requests = [request]
  /-- There is a result unless the reply breaks the call down. -/
  returns : (∃ result, outcome.value = .ok result) ↔
    ∀ request ∈ outcome.requests, ¬ (explorer request).BreaksDown request.url
  verified : ∀ result, outcome.value = .ok result → (result.verified = true ↔
    ∃ request ∈ outcome.requests, ∃ source, (explorer request).Proves source)
  source : ∀ result, outcome.value = .ok result → ∀ request ∈ outcome.requests,
    ∀ source, (explorer request).Proves source → result.sourceCode = some source
  sourceless : ∀ result, outcome.value = .ok result → result.verified = false →
    result.sourceCode = none

/-! ## Records -/

/-- **The records that are accepted as source entries.** -/
theorem SourceEntry.exists_read_iff {record : Json} {source : String} :
    (∃ entry, SourceEntry.read record = .accepted entry ∧ entry.sourceCode = source) ↔
      IsSourceEntry record source := by
  have stands : text (.str "") = .accepted "" := rfl
  unfold SourceEntry.read
  constructor
  · rintro ⟨entry, read, rfl⟩
    obtain ⟨fields, rfl, parts⟩ := document_eq_accepted.mp read
    obtain ⟨source, name, version, sourceRead, nameRead, versionRead, rfl⟩ :=
      Validation.fmap_seq_seq_eq_accepted.mp parts
    have isSource := (defaultedAs_eq_accepted_of_standIn stands).mp sourceRead
    have isName := defaultedAs_nullable_eq_accepted.mp nameRead
    have isVersion := defaultedAs_nullable_eq_accepted.mp versionRead
    exact {
      isObject := ⟨fields, rfl⟩
      source := text_eq_accepted.mp isSource
      contractName := ⟨name, nullable_text_eq_accepted.mp isName⟩
      compilerVersion := ⟨version, nullable_text_eq_accepted.mp isVersion⟩ }
  · intro form
    obtain ⟨fields, rfl⟩ := form.isObject
    obtain ⟨name, isName⟩ := form.contractName
    obtain ⟨version, isVersion⟩ := form.compilerVersion
    refine ⟨⟨source, name, version⟩, document_eq_accepted.mpr ⟨fields, rfl, ?_⟩, rfl⟩
    exact Validation.fmap_seq_seq_eq_accepted.mpr ⟨source, name, version,
      (defaultedAs_eq_accepted_of_standIn stands).mpr (text_eq_accepted.mpr form.source),
      defaultedAs_nullable_eq_accepted.mpr (nullable_text_eq_accepted.mpr isName),
      defaultedAs_nullable_eq_accepted.mpr (nullable_text_eq_accepted.mpr isVersion), rfl⟩

/-- An envelope has records if its result is a list with something in it. -/
theorem Envelope.records_eq_cons_iff {envelope : Envelope} {first : Json} {others : List Json} :
    envelope.records = first :: others ↔ envelope.result = .arr (first :: others) := by
  unfold Envelope.records
  cases envelope.result <;> simp

/-- An envelope has a source entry when it is a success, and the first of its records is one. -/
theorem sourceEntry?_eq_some {envelope : Envelope} {entry : SourceEntry} :
    sourceEntry? envelope = .ok (some entry) ↔
      envelope.isOk = true ∧ ∃ first others, envelope.result = .arr (first :: others) ∧
        SourceEntry.read first = .accepted entry := by
  simp only [← Envelope.records_eq_cons_iff]
  unfold sourceEntry?
  cases envelope.isOk with
  | false => simp
  | true =>
      cases envelope.records with
      | nil => simp
      | cons first others =>
          cases read : SourceEntry.read first <;> simp [read]

/-! ## Replies -/

/-- What a call gave has a source that says something. -/
def GivesSource (answer : Except Setback Envelope) (source : String) : Prop :=
  ∃ entry, answer.bind sourceEntry? = .ok (some entry) ∧ entry.sourceCode = source ∧ source ≠ ""

/-- An answer gives one source at most. -/
theorem GivesSource.unique {answer : Except Setback Envelope} {first second : String}
    (given : GivesSource answer first) (again : GivesSource answer second) : first = second := by
  obtain ⟨_, found, rfl, -⟩ := given
  obtain ⟨_, foundAgain, rfl, -⟩ := again
  rw [found] at foundAgain
  cases foundAgain
  rfl

/-- **Which replies give a source**: those that prove it. -/
theorem givesSource_iff {url : Url.Address} {reply : Reply} {source : String}
    (absolute : url.isAbsolute = true) :
    GivesSource (envelopeOfReply url reply) source ↔ reply.Proves source := by
  have listed {document first : Json} {others : List Json} {envelope : Envelope}
      (read : Envelope.read document = .accepted envelope) :
      envelope.result = .arr (first :: others) ↔
        document.field? "result" = some (.arr (first :: others)) := by
    rw [Envelope.result_eq read]
    cases document.field? "result" <;> simp
  unfold GivesSource Reply.Proves
  constructor
  · rintro ⟨entry, whole, isSource, notEmpty⟩
    obtain ⟨envelope, given, found⟩ := bind_eq_ok.mp whole
    obtain ⟨document, told, read⟩ := (envelopeOfReply_eq_ok absolute).mp given
    obtain ⟨isOk, first, others, records, isEntry⟩ := sourceEntry?_eq_some.mp found
    have form : IsEnvelope document := Envelope.exists_read_iff.mp ⟨envelope, read⟩
    exact ⟨document, told, form, (Envelope.isOk_iff read).mp isOk, first, others,
      (listed read).mp records, SourceEntry.exists_read_iff.mp ⟨entry, isEntry, isSource⟩, notEmpty⟩
  · rintro ⟨document, told, form, isOne, first, others, records, isEntry, notEmpty⟩
    obtain ⟨envelope, read⟩ := Envelope.exists_read_iff.mpr form
    obtain ⟨entry, entryRead, isSource⟩ := SourceEntry.exists_read_iff.mpr isEntry
    have given : envelopeOfReply url reply = .ok envelope :=
      (envelopeOfReply_eq_ok absolute).mpr ⟨document, told, read⟩
    have found : sourceEntry? envelope = .ok (some entry) :=
      sourceEntry?_eq_some.mpr ⟨(Envelope.isOk_iff read).mpr isOne, first, others,
        (listed read).mpr records, entryRead⟩
    exact ⟨entry, bind_eq_ok.mpr ⟨envelope, given, found⟩, isSource, notEmpty⟩

/-- A lookup reports a source that it was given, and otherwise none. -/
theorem lookUpReport_eq_ok {endpoint : Endpoint} {address : Argument}
    {answer : Except Setback Envelope} {result : SourceResult}
    (reported : (lookUpReport endpoint address answer).value = .ok result) :
    (∃ source, GivesSource answer source ∧
        result = { verified := true, sourceCode := some source }) ∨
      (¬ ∃ source, GivesSource answer source) ∧ result = { verified := false } := by
  unfold lookUpReport at reported
  unfold GivesSource
  cases found : answer.bind sourceEntry? with
  | error setback =>
      rw [found] at reported
      refine Or.inr ⟨fun ⟨_, _, same, _⟩ => (by cases same), ?_⟩
      cases setback with
      | brokeDown breakdown => cases reported
      | failed failure =>
          cases reported
          rfl
  | ok entry? =>
      rw [found] at reported
      cases entry? with
      | none =>
          cases reported
          exact Or.inr ⟨fun ⟨_, _, same, _⟩ => (by cases same), rfl⟩
      | some entry =>
          cases reported
          by_cases isEmpty : entry.sourceCode = ""
          · refine Or.inr ⟨?_, by simp [sourceOf, isEmpty]⟩
            rintro ⟨source, other, same, rfl, notEmpty⟩
            cases same
            exact notEmpty isEmpty
          · exact Or.inl ⟨entry.sourceCode, ⟨entry, rfl, rfl, isEmpty⟩, by simp [sourceOf, isEmpty]⟩

section Ask

variable {registry : Registry} {settings : Settings} {explorer : Request → Reply}
  {lookup : Lookup}

/-- A lookup on a registered chain is answered by what the reply proves. -/
theorem Lookup.ask_isAnswered {endpoint : Endpoint} {request : Request}
    (found : registry.find? lookup.chain = some endpoint) (usable : endpoint.isUsable = true)
    (made : lookup.request settings endpoint = .ok request) :
    lookup.IsAnswered registry settings explorer (lookup.ask registry settings explorer) := by
  have askable : request.IsAskable := endpoint.getRequest_usable usable made
  have asked : lookup.ask registry settings explorer =
      call explorer (.ok request) >>= lookUpReport endpoint lookup.address := by
    rw [← made]
    exact lookUpSource_of_registered found
  have one : (lookup.ask registry settings explorer).requests = [request] := by
    rw [asked]
    exact requests_call_report (requests_lookUpReport endpoint lookup.address) askable
  have cases_of {result : SourceResult}
      (returned : (lookup.ask registry settings explorer).value = .ok result) :
      (∃ source, (explorer request).Proves source ∧
          result = { verified := true, sourceCode := some source }) ∨
        (¬ ∃ source, (explorer request).Proves source) ∧ result = { verified := false } := by
    rw [asked, value_call_report askable] at returned
    simp only [← givesSource_iff askable.1]
    exact lookUpReport_eq_ok returned
  have unique {first second : String} (proved : (explorer request).Proves first)
      (again : (explorer request).Proves second) : first = second :=
    ((givesSource_iff askable.1).mpr proved).unique ((givesSource_iff askable.1).mpr again)
  refine ⟨fun unknown => ?_, fun other again => ?_, ?_, fun result returned => ?_,
    fun result returned asker member source proved => ?_, fun result returned unverified => ?_⟩
  · rw [found] at unknown
    cases unknown
  · rw [found] at again
    cases again
    exact ⟨request, made, one⟩
  · have only (other : Request) (same : (.ok request : Except Url.Flaw Request) = .ok other) :
        other.IsAskable :=
      Except.ok.inj same ▸ askable
    rw [asked, call_report_returns_iff (lookUpReport_reports endpoint lookup.address)
      (requests_lookUpReport endpoint lookup.address) only]
    exact and_iff_right ⟨request, rfl⟩
  · simp only [one, List.mem_singleton, exists_eq_left]
    rcases cases_of returned with ⟨source, proved, rfl⟩ | ⟨unproved, rfl⟩
    · exact iff_of_true rfl ⟨source, proved⟩
    · exact iff_of_false Bool.false_ne_true unproved
  · obtain rfl := List.mem_singleton.mp (one ▸ member)
    rcases cases_of returned with ⟨other, provedOther, rfl⟩ | ⟨unproved, -⟩
    · exact congrArg some (unique provedOther proved)
    · exact (unproved ⟨source, proved⟩).elim
  · rcases cases_of returned with ⟨source, -, rfl⟩ | ⟨-, rfl⟩
    · cases unverified
    · rfl

/-- A lookup on any other chain finds nothing, and nothing is asked. -/
theorem Lookup.ask_isAnswered_of_unregistered (unknown : registry.find? lookup.chain = none) :
    lookup.IsAnswered registry settings explorer (lookup.ask registry settings explorer) := by
  have told : lookup.ask registry settings explorer = pure (.ok { verified := false }) :=
    lookUpSource_of_unregistered unknown
  have none : (lookup.ask registry settings explorer).requests = [] := by
    rw [told]
    rfl
  have only {result : SourceResult}
      (returned : (lookup.ask registry settings explorer).value = .ok result) :
      result = { verified := false } := by
    rw [told] at returned
    exact (Except.ok.inj returned).symm
  refine ⟨fun _ => none, fun endpoint found => ?_, ?_, fun result returned => ?_,
    fun result returned asker member => ?_, fun result returned _ => ?_⟩
  · rw [unknown] at found
    cases found
  · rw [none, told]
    simp
  · rw [only returned, none]
    simp
  · rw [none] at member
    cases member
  · rw [only returned]

end Ask

/-- **A lookup says yes only on proof.** The endpoint of the chain is asked once, if there is one.
There is verified source exactly if the reply proves it, and then it is told unchanged; otherwise
nothing is verified and there is no source. There is no result only where the reply breaks the call
down. -/
theorem lookUp_isAnswered (lookup : Lookup) (registry : Registry) (settings : Settings)
    (explorer : Request → Reply) (usable : ∀ endpoint ∈ registry, endpoint.isUsable = true)
    (buildable : ∀ endpoint, registry.find? lookup.chain = some endpoint →
      ∃ request, lookup.request settings endpoint = .ok request) :
    lookup.IsAnswered registry settings explorer (lookup.ask registry settings explorer) := by
  cases found : registry.find? lookup.chain with
  | none => exact Lookup.ask_isAnswered_of_unregistered found
  | some endpoint =>
      obtain ⟨request, made⟩ := buildable endpoint found
      exact Lookup.ask_isAnswered found (usable endpoint (List.mem_of_find?_eq_some found)) made

/-- A lookup of an address on the first chain. -/
def counterLookup : Lookup where
  chain := .number 1
  address := .ofText "0x1234567890abcdef1234567890ABCDEF12345678"
  apiKey := .ofText "K"

/-- Ask it of an explorer that always gives one reply. -/
def lookUpCounter (reply : Reply) : Traced (Except Breakdown SourceResult) :=
  counterLookup.ask .builtin .standard fun _ => reply

/-- The request of the lookup can be made. -/
theorem counterLookup_buildable (endpoint : Endpoint)
    (found : Registry.builtin.find? counterLookup.chain = some endpoint) :
    ∃ request, counterLookup.request .standard endpoint = .ok request := by
  have usable := builtin_isUsable endpoint (List.mem_of_find?_eq_some found)
  have given : lookupForm counterLookup.address counterLookup.apiKey ≠ [] := by
    simp [lookupForm]
  have fits : Fits (lookupForm counterLookup.address counterLookup.apiKey) := by
    unfold Fits
    decide +kernel
  exact (endpoint.exists_getRequest_iff usable given).mpr fits

/-- A reply that proves a source, among records of which the second is no source entry. -/
def provingReply : Reply :=
  successOf ("\x7b\"status\":1,\"result\":[\x7b\"SourceCode\":\"contract C\"," ++
    "\"ContractName\":null\x7d,7]\x7d")

/-- The theorem at this lookup and reply. -/
theorem lookUpCounter_provingReply :
    (lookUpCounter provingReply).value =
        .ok { verified := true, sourceCode := some "contract C" } ∧
      counterLookup.IsAnswered .builtin .standard (fun _ => provingReply)
        (lookUpCounter provingReply) :=
  ⟨by decide +kernel,
    lookUp_isAnswered counterLookup .builtin .standard _ builtin_isUsable counterLookup_buildable⟩

/-- A redirection to a place for mail leaves the lookup without a result. -/
theorem no_lookup_of_mail_place :
    ¬ ∃ result, (lookUpCounter (.answered ⟨302, [("location", "mailto:a@b")], []⟩)).value =
      .ok result := by
  have none : (lookUpCounter (.answered ⟨302, [("location", "mailto:a@b")], []⟩)).value.toOption =
      none := by
    decide +kernel
  rintro ⟨result, returned⟩
  rw [returned] at none
  cases none

end Soliscope.Explorer
