import Soliscope.Proofs.Explorer.Dossiers
import Soliscope.Proofs.Explorer.KeySecrecy
import Soliscope.Proofs.Url.Forms

/-! # What explorers receive

An explorer reads entries off the query of the written address of a request, and off its body. A
call makes one request at most, and this carries exactly what the call is meant to tell, in the
place that its method has for it (`Request.Carries`), whatever characters the values hold
(`calls_deliver`). A request is made exactly if there is somewhere to go with it: a submission has
to pass its checks, and a question has to fit into an address (`Dossier.IsPosted`,
`Registry.IsAsked`).
-/

namespace Soliscope.Explorer

open Soliscope.Url

/-- The entries in the query of the written address of a request. -/
def Request.queryEntries (request : Request) : List (String × String) :=
  Form.parse ((Parts.ofText request.url.render.toList).query.getD [])

/-- The entries in the body of a request. -/
def Request.bodyEntries (request : Request) : List (String × String) :=
  Form.parse request.body.toList

/-- A request asks for entries in its query, or posts them in its body, and has no others. -/
def Request.Carries (request : Request) (method : Method) (entries : List (String × String)) :
    Prop :=
  request.method = method ∧
    match method with
    | .get => request.queryEntries = entries ∧ request.bodyEntries = []
    | .post => request.queryEntries = [] ∧ request.bodyEntries = entries

/-- An outcome for which one request is made if something is to be sent, and none if not. The
request carries the entries. -/
structure Delivers {α : Type} (sent : Prop) (outcome : Traced α) (method : Method)
    (entries : List (String × String)) : Prop where
  one : sent → ∃ request, outcome.requests = [request] ∧ request.Carries method entries
  none : ¬ sent → outcome.requests = []

/-- Where a request is to go is an address that can be asked. -/
def CanBeAsked (goal : Except Url.Flaw Address) : Prop :=
  ∃ address, goal = .ok address ∧ obstacle? address = none

instance (goal : Except Url.Flaw Address) : Decidable (CanBeAsked goal) :=
  match goal with
  | .ok address => decidable_of_iff (obstacle? address = none) (by simp [CanBeAsked])
  | .error flaw => isFalse (by simp [CanBeAsked])

/-- A dossier passes its checks, and can be posted to the endpoint of its chain. -/
def Dossier.IsPosted (dossier : Dossier) (registry : Registry) : Prop :=
  ∃ endpoint, dossier.Passes registry endpoint ∧ ¬ dossier.IsUnshowable registry ∧
    CanBeAsked (requestAddress endpoint.apiUrl)

/-- A form fits into an address, and can be asked of the endpoint of a chain. -/
def Registry.IsAsked (registry : Registry) (chain : ChainId) (entries : List (String × String)) :
    Prop :=
  ∃ endpoint, registry.find? chain = some endpoint ∧ Fits entries ∧
    CanBeAsked (bareAddress endpoint.apiUrl)

section Written

variable {url : String} {entries : List (String × String)} {timeout : Float} {request : Request}

/-- A form of at least one entry is a query, if it fits. -/
theorem isFormQuery_render (given : entries ≠ []) (fits : Fits entries) :
    IsFormQuery (Form.render entries) where
  given := by
    intro empty
    have none : entries = [] := by
      rw [← Form.parse_render entries, empty]
      rfl
    exact given none
  chars := fun _ member => isFormChar_of_mem_render member
  fits := fits

/-- A request with a form in its query can be made exactly if the form fits and the address is
one. -/
theorem getRequest_eq_ok_iff (given : entries ≠ []) :
    getRequest url entries timeout = .ok request ↔
      Fits entries ∧ ∃ bare, bareAddress url = .ok bare ∧
        request = {
          method := .get, url := bare.putQuery (Form.render entries), body := "",
          timeout := timeout } := by
  by_cases fits : Fits entries
  · have sound := (isFormQuery_render given fits).sound
    rw [getRequest_eq_map sound, and_iff_right fits]
    cases bareAddress url with
    | error flaw => simp [Except.map]
    | ok bare => simp [Except.map, eq_comm]
  · have bad : partFlaw? .query (Form.render entries) = some (.longPart .query) :=
      if_pos (Nat.not_le.mp fits)
    simp only [fits, false_and, iff_false]
    exact getRequest_ne_ok bad request

/-- **A question carries its form** in the query. -/
theorem carries_of_getRequest (given : entries ≠ [])
    (made : getRequest url entries timeout = .ok request) : request.Carries .get entries := by
  obtain ⟨fits, bare, isBare, rfl⟩ := (getRequest_eq_ok_iff given).mp made
  have isQuery := isFormQuery_render given fits
  refine ⟨rfl, ?_, rfl⟩
  unfold Request.queryEntries
  rw [Parts.ofText_render_putQuery (bareAddress_isClean isBare) isQuery]
  exact Form.parse_render entries

/-- The query of an address is the one that it was made from, escaped. -/
theorem query_ofParts {parts : Parts} {authority : Authority} {address : Address}
    (made : Address.ofParts parts authority = .ok address) :
    address.query = parts.query.map (escape isQuerySafe) := by
  simp only [Address.ofParts, bind_eq_ok] at made
  obtain ⟨host, -, port, -, made⟩ := made
  split at made
  · cases made
  · cases made
    rfl

/-- A written address has no query of its own. -/
def HasNoQuery (url : String) : Prop :=
  (Parts.ofText url.toList).query = none

/-- An endpoint without a query is asked at an address without one. -/
theorem query_requestAddress (bare : HasNoQuery url) {address : Address}
    (made : requestAddress url = .ok address) : address.query = none := by
  have none_of_parse {parsed : Address} (isParsed : Url.parse url = .ok parsed) :
      parsed.query = none := by
    simp only [parse, check_eq_ok] at isParsed
    obtain ⟨-, isParsed⟩ := isParsed
    split at isParsed
    · cases isParsed
    · rw [query_ofParts isParsed, bare]
      rfl
  obtain ⟨parsed, isParsed, made⟩ := bind_eq_ok.mp made
  split at made
  · cases made
    exact none_of_parse isParsed
  · unfold Address.onServer Parts.address at made
    split at made
    · cases made
    · rw [query_ofParts made, none_of_parse isParsed]
      rfl

/-- An address without a query is written without one. -/
theorem query_ofText_render {address : Address} (clean : address.IsClean)
    (bare : address.query = none) : (Parts.ofText address.render.toList).query = none := by
  have written : address.render.toList =
      address.parts.front ++ address.fragment.elim [] ('#' :: ·) := by
    have noQuery : address.parts.query = none := bare
    rw [Address.render, String.toList_ofList, Parts.render, noQuery, Option.elim_none,
      List.append_nil]
    rfl
  rw [written]
  exact Parts.query_ofText_fragment clean.parts.isPlain_front address.fragment

/-- **A posted request carries its form** in the body, if the address has no query. -/
theorem carries_of_postRequest (bare : HasNoQuery url)
    (made : postRequest url entries timeout = .ok request) : request.Carries .post entries := by
  obtain ⟨address, isAddress, made⟩ := bind_eq_ok.mp made
  cases made
  have noQuery := query_ofText_render (requestAddress_isClean isAddress)
    (query_requestAddress bare isAddress)
  refine ⟨rfl, ?_, ?_⟩
  · unfold Request.queryEntries
    rw [noQuery]
    rfl
  · unfold Request.bodyEntries
    rw [String.toList_ofList, Form.parse_render]

end Written

section Calls

variable {explorer : Request → Reply} {request : Request}

/-- A request that nothing is in the way of is made once. -/
theorem requests_call (free : obstacle? request.url = none) :
    (call explorer (.ok request)).requests = [request] := by
  simp only [call, free, Traced.requests_bind, requests_callExplorer, Traced.requests_pure,
    List.append_nil]

/-- A call whose request cannot be made makes none. -/
theorem requests_call_eq_nil {written : Except Url.Flaw Request}
    (stuck : ¬ ∃ request, written = .ok request ∧ obstacle? request.url = none) :
    (call explorer written).requests = [] := by
  cases written with
  | error flaw => rfl
  | ok request =>
      cases free : obstacle? request.url with
      | none => exact (stuck ⟨request, rfl, free⟩).elim
      | some failure => simp only [call, free, Traced.requests_pure]

/-- The report on a status asks nothing more. -/
theorem requests_statusReport (endpoint : Endpoint) (job : Argument)
    (answer : Except Setback Envelope) : (statusReport endpoint job answer).requests = [] := by
  cases answer with
  | ok envelope => rfl
  | error setback => cases setback <;> rfl

theorem requests_lookUpReport (endpoint : Endpoint) (address : Argument)
    (answer : Except Setback Envelope) : (lookUpReport endpoint address answer).requests = [] := by
  unfold lookUpReport
  split <;> rfl

theorem requests_submitReport (endpoint : Endpoint) (submission : Submission)
    (answer : Except Setback Envelope) :
    (submitReport endpoint submission answer).requests = [] := by
  cases answer with
  | error setback => cases setback <;> rfl
  | ok envelope =>
      simp only [submitReport, submitAnswer]
      split <;> rfl

/-- A call that is reported delivers what its request carries, if the request can be made. -/
theorem delivers_call {α : Type} {sent : Prop} {written : Except Url.Flaw Request}
    {method : Method} {entries : List (String × String)}
    {report : Except Setback Envelope → Traced α}
    (silent : ∀ answer, (report answer).requests = [])
    (sent_iff : sent ↔ ∃ request, written = .ok request ∧ obstacle? request.url = none)
    (carries : ∀ request, written = .ok request → request.Carries method entries) :
    Delivers sent (call explorer written >>= report) method entries := by
  have reported : (call explorer written >>= report).requests =
      (call explorer written).requests := by
    rw [Traced.requests_bind, silent, List.append_nil]
  refine ⟨fun isSent => ?_, fun unsent => ?_⟩
  · obtain ⟨request, rfl, free⟩ := sent_iff.mp isSent
    exact ⟨request, reported.trans (requests_call free), carries request rfl⟩
  · exact reported.trans (requests_call_eq_nil (mt sent_iff.mpr unsent))

/-- Asking makes a request exactly if the form fits and the address can be asked. -/
theorem exists_getRequest_free_iff {url : String} {entries : List (String × String)}
    (given : entries ≠ []) {timeout : Float} :
    (∃ request, getRequest url entries timeout = .ok request ∧ obstacle? request.url = none) ↔
      Fits entries ∧ CanBeAsked (bareAddress url) := by
  constructor
  · rintro ⟨request, made, free⟩
    obtain ⟨fits, bare, isBare, rfl⟩ := (getRequest_eq_ok_iff given).mp made
    exact ⟨fits, bare, isBare, free⟩
  · rintro ⟨fits, bare, isBare, free⟩
    exact ⟨_, (getRequest_eq_ok_iff given).mpr ⟨fits, bare, isBare, rfl⟩, free⟩

/-- Posting makes a request exactly if the address can be asked. -/
theorem exists_postRequest_free_iff {url : String} {entries : List (String × String)}
    {timeout : Float} :
    (∃ request, postRequest url entries timeout = .ok request ∧ obstacle? request.url = none) ↔
      CanBeAsked (requestAddress url) := by
  unfold postRequest CanBeAsked
  constructor
  · rintro ⟨request, made, free⟩
    obtain ⟨address, isAddress, made⟩ := bind_eq_ok.mp made
    cases made
    exact ⟨address, isAddress, free⟩
  · rintro ⟨address, isAddress, free⟩
    exact ⟨_, bind_eq_ok.mpr ⟨address, isAddress, rfl⟩, free⟩

end Calls

/-- What is told of a key that is given; of one that is not, nothing. -/
def keyEntry : Option String → List (String × String)
  | some key => if key = "" then [] else [("apikey", key)]
  | none => []

/-- The form of a lookup has a key only if there is one. -/
theorem lookupForm_ofText (address : String) (apiKey : Option String) :
    lookupForm (.ofText address) (.ofText? apiKey) =
      [("module", "contract"), ("action", "getsourcecode"), ("address", address)] ++
        keyEntry apiKey := by
  unfold lookupForm
  cases apiKey with
  | none => rfl
  | some key =>
      by_cases missing : key = ""
      · rw [missing]
        rfl
      · have given : (Argument.ofText? (some key)).isGiven = true :=
          (Argument.isGiven_ofText? (some key)).mpr missing
        rw [given, keyEntry, if_neg missing]
        rfl

section Deliveries

variable {registry : Registry} {settings : Settings} {explorer : Request → Reply}

/-- A submission delivers the entries of its dossier. -/
theorem submit_delivers (bare : ∀ endpoint ∈ registry, HasNoQuery endpoint.apiUrl)
    (dossier : Dossier) :
    Delivers (dossier.IsPosted registry) (submit registry settings explorer dossier.submission)
      .post dossier.entries := by
  cases checked : dossier.submission.endpoint registry with
  | error unsent =>
      have unposted : ¬ dossier.IsPosted registry := by
        rintro ⟨endpoint, passes, showable, -⟩
        cases checked.symm.trans (Dossier.endpoint_eq_ok_iff.mpr ⟨passes, showable⟩)
      refine ⟨fun isPosted => (unposted isPosted).elim, fun _ => ?_⟩
      unfold submit
      rw [checked]
      cases unsent <;> rfl
  | ok endpoint =>
      obtain ⟨passes, showable⟩ := Dossier.endpoint_eq_ok_iff.mp checked
      have member : endpoint ∈ registry := List.mem_of_find?_eq_some passes.registered
      have posted_iff : dossier.IsPosted registry ↔ CanBeAsked (requestAddress endpoint.apiUrl) := by
        constructor
        · rintro ⟨other, again, -, can⟩
          cases passes.registered.symm.trans again.registered
          exact can
        · exact fun can => ⟨endpoint, passes, showable, can⟩
      have delivered : Delivers (dossier.IsPosted registry) (call explorer
          (postRequest endpoint.apiUrl dossier.submission.form settings.submitTimeout) >>=
            submitReport endpoint dossier.submission) .post dossier.entries := by
        rw [Dossier.form_submission]
        exact delivers_call (requests_submitReport endpoint dossier.submission)
          (posted_iff.trans exists_postRequest_free_iff.symm)
          (fun _ made => carries_of_postRequest (bare endpoint member) made)
      rw [submit_of_endpoint checked]
      exact ⟨delivered.one, delivered.none⟩

variable {chain : ChainId}

/-- A registered chain is asked if the form fits and its address can be asked. -/
theorem Registry.isAsked_iff {endpoint : Endpoint} (found : registry.find? chain = some endpoint)
    {entries : List (String × String)} :
    registry.IsAsked chain entries ↔ Fits entries ∧ CanBeAsked (bareAddress endpoint.apiUrl) := by
  constructor
  · rintro ⟨other, again, fits, can⟩
    cases found.symm.trans again
    exact ⟨fits, can⟩
  · rintro ⟨fits, can⟩
    exact ⟨endpoint, found, fits, can⟩

/-- A chain that is not registered is not asked. -/
theorem Registry.not_isAsked (unknown : registry.find? chain = none)
    (entries : List (String × String)) : ¬ registry.IsAsked chain entries := by
  rintro ⟨endpoint, found, -⟩
  cases found.symm.trans unknown

/-- **A question to a registered chain delivers its form**, if it is asked. -/
theorem delivers_question {α : Type} {endpoint : Endpoint}
    (found : registry.find? chain = some endpoint) {entries : List (String × String)}
    (given : entries ≠ []) {timeout : Float} {report : Except Setback Envelope → Traced α}
    (silent : ∀ answer, (report answer).requests = []) :
    Delivers (registry.IsAsked chain entries)
      (call explorer (getRequest endpoint.apiUrl entries timeout) >>= report) .get entries := by
  apply delivers_call silent
  · exact (Registry.isAsked_iff found).trans (exists_getRequest_free_iff given).symm
  · exact fun _ made => carries_of_getRequest given made

/-- A poll delivers its form. -/
theorem pollStatus_delivers (job apiKey : Argument) :
    Delivers (registry.IsAsked chain (pollForm apiKey job))
      (pollStatus registry settings explorer chain job apiKey) .get (pollForm apiKey job) := by
  cases found : registry.find? chain with
  | none =>
      rw [pollStatus_of_unregistered found]
      exact ⟨fun asked => (Registry.not_isAsked found _ asked).elim, fun _ => rfl⟩
  | some endpoint =>
      have given : pollForm apiKey job ≠ [] := by
        simp [pollForm]
      rw [pollStatus_of_registered found]
      exact delivers_question found given (requests_statusReport endpoint job)

/-- A lookup delivers its form. -/
theorem lookUpSource_delivers (address apiKey : Argument) :
    Delivers (registry.IsAsked chain (lookupForm address apiKey))
      (lookUpSource registry settings explorer chain address apiKey) .get
      (lookupForm address apiKey) := by
  cases found : registry.find? chain with
  | none =>
      rw [lookUpSource_of_unregistered found]
      exact ⟨fun asked => (Registry.not_isAsked found _ asked).elim, fun _ => rfl⟩
  | some endpoint =>
      have given : lookupForm address apiKey ≠ [] := by
        simp [lookupForm]
      rw [lookUpSource_of_registered found]
      exact delivers_question found given (requests_lookUpReport endpoint address)

end Deliveries

/-- The entries of a poll. -/
def pollEntries (job apiKey : String) : List (String × String) :=
  [("apikey", apiKey), ("module", "contract"), ("action", "checkverifystatus"), ("guid", job)]

/-- The entries of a lookup; a key that is not given is not among them. -/
def lookupEntries (address : String) (apiKey : Option String) : List (String × String) :=
  [("module", "contract"), ("action", "getsourcecode"), ("address", address)] ++ keyEntry apiKey

/-- What the three calls deliver to an explorer. -/
structure CallsDeliver (registry : Registry) (settings : Settings)
    (explorer : Request → Reply) : Prop where
  submit : ∀ dossier : Dossier, Delivers (dossier.IsPosted registry)
    (submit registry settings explorer dossier.submission) .post dossier.entries
  poll : ∀ (chain : ChainId) (job apiKey : String),
    Delivers (registry.IsAsked chain (pollEntries job apiKey))
      (pollStatus registry settings explorer chain (.ofText job) (.ofText apiKey)) .get
      (pollEntries job apiKey)
  lookUp : ∀ (chain : ChainId) (address : String) (apiKey : Option String),
    Delivers (registry.IsAsked chain (lookupEntries address apiKey))
      (lookUpSource registry settings explorer chain (.ofText address) (.ofText? apiKey)) .get
      (lookupEntries address apiKey)

/-- **The explorer receives exactly what is meant**: a call makes its one request whenever it can be
made, and no value can add an entry to it, drop one or change another. -/
theorem calls_deliver (registry : Registry) (settings : Settings) (explorer : Request → Reply)
    (bare : ∀ endpoint ∈ registry, HasNoQuery endpoint.apiUrl) :
    CallsDeliver registry settings explorer := by
  refine ⟨fun dossier => submit_delivers bare dossier, fun chain job apiKey => ?_,
    fun chain address apiKey => ?_⟩
  · exact pollStatus_delivers (.ofText job) (.ofText apiKey)
  · rw [lookupEntries, ← lookupForm_ofText]
    exact lookUpSource_delivers (.ofText address) (.ofText? apiKey)

/-- A dossier with the marks of forms in its values. -/
def markedDossier : Dossier where
  chain := .number 1
  contractAddress := "0x00000000000000000000000000000000000000aF"
  sourceCode := "// 100% & more?\n/* runs=1&apikey=+%26 ü€😀 */"
  contractName := "a.sol:A=B"
  compilerVersion := "v0.8.20+commit.a1b79de6"
  optimizationUsed := false
  runs := 1000000
  constructorArguments := none
  apiKey := some "key&module=proxy"

theorem builtin_hasNoQuery : ∀ endpoint ∈ Registry.builtin, HasNoQuery endpoint.apiUrl := by
  unfold HasNoQuery
  decide +kernel

/-- A usable endpoint can be asked. -/
theorem CanBeAsked.of_isUsable {endpoint : Endpoint} (usable : endpoint.isUsable = true) :
    CanBeAsked (bareAddress endpoint.apiUrl) := by
  unfold Endpoint.isUsable at usable
  cases found : bareAddress endpoint.apiUrl with
  | error flaw =>
      rw [found] at usable
      cases usable
  | ok bare =>
      simp only [found, Bool.and_eq_true, Option.isNone_iff_eq_none] at usable
      exact ⟨bare, rfl, usable.2⟩

/-- A form that fits is asked of the built-in endpoint of a chain. -/
theorem builtin_isAsked {chain : ChainId} {endpoint : Endpoint}
    (found : Registry.builtin.find? chain = some endpoint) {entries : List (String × String)}
    (fits : Fits entries) : Registry.builtin.IsAsked chain entries :=
  ⟨endpoint, found, fits,
    .of_isUsable (builtin_isUsable endpoint (List.mem_of_find?_eq_some found))⟩

/-- The theorem at this dossier, and at a poll and a lookup with such marks. All three are sent, and
none of the marks is taken for one. -/
theorem markedCalls_delivered :
    (∀ endpoint ∈ Registry.builtin, HasNoQuery endpoint.apiUrl) ∧
    (submit .builtin .standard (fun _ => outOfService) markedDossier.submission).requests.map
        Request.bodyEntries = [[
      ("apikey", "key&module=proxy"),
      ("module", "contract"),
      ("action", "verifysourcecode"),
      ("contractaddress", "0x00000000000000000000000000000000000000aF"),
      ("sourceCode", "// 100% & more?\n/* runs=1&apikey=+%26 ü€😀 */"),
      ("codeformat", "solidity-single-file"),
      ("contractname", "a.sol:A=B"),
      ("compilerversion", "v0.8.20+commit.a1b79de6"),
      ("optimizationUsed", "0"),
      ("runs", "1000000"),
      ("constructorArguements", "")]] ∧
    (pollStatus .builtin .standard (fun _ => outOfService) (.number 1) (.ofText "a&guid=b ü")
        (.ofText "key&module=proxy")).requests.map Request.queryEntries = [[
      ("apikey", "key&module=proxy"),
      ("module", "contract"),
      ("action", "checkverifystatus"),
      ("guid", "a&guid=b ü")]] ∧
    (lookUpSource .builtin .standard (fun _ => outOfService) (.number 1) (.ofText "0x%26&apikey=")
        (.ofText? none)).requests.map Request.queryEntries = [[
      ("module", "contract"),
      ("action", "getsourcecode"),
      ("address", "0x%26&apikey=")]] := by
  have deliver := calls_deliver .builtin .standard (fun _ => outOfService) builtin_hasNoQuery
  refine ⟨builtin_hasNoQuery, ?_, ?_, ?_⟩
  · have posted : markedDossier.IsPosted .builtin := by
      refine ⟨_, ⟨rfl, by decide, by decide, ?_⟩, ?_, by decide +kernel⟩
      · exact isAddress_iff.mp (by decide +kernel)
      · exact Dossier.not_isUnshowable rfl fun _ _ => by decide +kernel
    obtain ⟨request, one, -, -, received⟩ := (deliver.submit markedDossier).one posted
    have runs : toString (1000000 : Int) = "1000000" := by decide +kernel
    rw [one, List.map_singleton, received, Dossier.entries, markedDossier, runs]
    rfl
  · have fits : Fits (pollEntries "a&guid=b ü" "key&module=proxy") := by
      unfold Fits
      decide +kernel
    obtain ⟨request, one, -, received, -⟩ :=
      (deliver.poll (.number 1) _ _).one (builtin_isAsked rfl fits)
    rw [one, List.map_singleton, received, pollEntries]
  · have fits : Fits (lookupEntries "0x%26&apikey=" none) := by
      unfold Fits
      decide +kernel
    obtain ⟨request, one, -, received, -⟩ :=
      (deliver.lookUp (.number 1) _ _).one (builtin_isAsked rfl fits)
    rw [one, List.map_singleton, received]
    rfl

end Soliscope.Explorer
