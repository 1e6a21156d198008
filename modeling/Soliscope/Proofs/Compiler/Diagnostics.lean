import Soliscope.Proofs.Compiler.Runs
import Soliscope.Proofs.Schema.Acceptance
import Soliscope.Proofs.Schema.Integers

/-! # What holds of every compilation result

A result keeps errors, warnings and artifacts apart (`Result.IsWellFormed`). When the compiler gave
output, the errors and the warnings are the entries of its list of problems, sorted into two lists
without loss, repetition or change of order (`Result.Sorts`). What a diagnostic carries is said in
terms of the fields of the printed entry, down to the place in the source (`Diagnostic.Carries`,
`SourceLocation.IsPrinted`). All ways to a result establish both.
-/

namespace Soliscope.Compiler

open Soliscope.Schema

/-- The two lists of diagnostics hold what their names say, and artifacts exclude errors. -/
structure Result.IsWellFormed (result : Result) : Prop where
  success_iff : result.success = true ↔ result.errors = [] ∧ result.contracts ≠ []
  exclusive : result.errors ≠ [] → result.contracts = []
  errors : ∀ diagnostic ∈ result.errors, diagnostic.gravity = .error
  warnings : ∀ diagnostic ∈ result.warnings, diagnostic.gravity = .warning

/-- The field of a document that goes by two names. -/
def eitherField? (document : Json) (name other : String) : Option Json :=
  (document.field? name).or (document.field? other)

/-- The entries that a printed document has in its list of problems. -/
def problemEntries (document : Json) : List Json :=
  match document.field? "errors" with
  | some (.arr entries) => entries
  | _ => []

/-- The place that an entry has in the printed document, which may be missing or null. -/
def printedPlace (entry : Json) : Option Json :=
  eitherField? entry "sourceLocation" "source_location"

/-- A place is the printed one: its file is the printed text, and it starts and ends at the integers
that the printed values stand for. -/
structure SourceLocation.IsPrinted (location : SourceLocation) (place : Json) : Prop where
  file : place.field? "file" = some (.str location.file)
  start : ∃ value, place.field? "start" = some value ∧ value.StandsFor location.start
  stop : ∃ value, place.field? "end" = some value ∧ value.StandsFor location.stop

/-- A diagnostic carries what a printed entry says. -/
structure Diagnostic.Carries (diagnostic : Diagnostic) (entry : Json) : Prop where
  severity : ∃ severity, entry.field? "severity" = some (.str severity) ∧
    (diagnostic.gravity = .error ↔ severity = "error")
  message : entry.field? "message" = some (.str diagnostic.message)
  formattedMessage :
    (eitherField? entry "formattedMessage" "formatted_message").getD .null =
      Json.ofText? diagnostic.formattedMessage
  placeless : diagnostic.sourceLocation = none ↔
    printedPlace entry = none ∨ printedPlace entry = some .null
  place : ∀ location, diagnostic.sourceLocation = some location →
    ∃ place, printedPlace entry = some place ∧ location.IsPrinted place

/-- The diagnostics of a result are those of the given entries: each list keeps their order, and
together they hold every one once. -/
def Result.Sorts (result : Result) (entries : List Json) : Prop :=
  ∃ diagnostics,
    List.Forall₂ (fun entry (diagnostic : Diagnostic) => diagnostic.Carries entry)
      entries diagnostics ∧
    result.errors = diagnostics.filter (·.gravity == .error) ∧
    result.warnings = diagnostics.filter (·.gravity != .error) ∧
    (result.errors ++ result.warnings).Perm diagnostics

/-- A problem is an error exactly if it is called one. -/
theorem gravity_diagnostic_iff {problem : OutputProblem} :
    problem.diagnostic.gravity = .error ↔ problem.severity = "error" := by
  have same := problem.gravity_diagnostic_beq
  rw [← beq_iff_eq, same, beq_iff_eq]

/-- What is listed among the errors is an error. -/
theorem gravity_of_mem_errorProblems {output : Output} {diagnostic : Diagnostic}
    (member : diagnostic ∈ output.errorProblems.map (·.diagnostic)) :
    diagnostic.gravity = .error := by
  rw [← filter_error_diagnostics] at member
  exact beq_iff_eq.mp (List.mem_filter.mp member).2

/-- What is listed among the other problems is a warning. -/
theorem gravity_of_mem_otherProblems {output : Output} {diagnostic : Diagnostic}
    (member : diagnostic ∈ output.otherProblems.map (·.diagnostic)) :
    diagnostic.gravity = .warning := by
  rw [← filter_other_diagnostics] at member
  have different := (List.mem_filter.mp member).2
  cases gravity : diagnostic.gravity with
  | error =>
      rw [gravity] at different
      cases different
  | warning => rfl

/-- A place that was read is the printed one. -/
theorem SourceLocation.isPrinted_of_read {origin : Origin} {title : String} {place : Json}
    {location : SourceLocation} (read : SourceLocation.read origin title place = .accepted location) :
    location.IsPrinted place := by
  obtain ⟨fields, rfl, parts⟩ := document_eq_accepted.mp read
  obtain ⟨file, start, stop, fileRead, startRead, stopRead, rfl⟩ :=
    Validation.fmap_seq_seq_eq_accepted.mp parts
  obtain ⟨_, fileField, isText⟩ := required_eq_accepted.mp fileRead
  obtain rfl := text_eq_accepted.mp isText
  obtain ⟨first, startField, startNumber⟩ := required_eq_accepted.mp startRead
  obtain ⟨last, stopField, stopNumber⟩ := required_eq_accepted.mp stopRead
  exact {
    file := fileField
    start := ⟨first, startField, Json.standsFor_of_integer startNumber⟩
    stop := ⟨last, stopField, Json.standsFor_of_integer stopNumber⟩ }

/-- An object is no null, so that a place is missing only where none is printed. -/
theorem SourceLocation.IsPrinted.ne_null {location : SourceLocation} {place : Json}
    (printed : location.IsPrinted place) : place ≠ .null := by
  rintro rfl
  cases printed.file

/-- Where a place may be missing or null, it is none then and else the printed one. -/
theorem printedPlace_of_read {printed : Option Json} {found : Option SourceLocation}
    (read : nullable (SourceLocation.read .document "SolcSourceLocation") (printed.getD .null) =
      .accepted found) :
    (found = none ↔ printed = none ∨ printed = some .null) ∧
      ∀ location, found = some location →
        ∃ place, printed = some place ∧ location.IsPrinted place := by
  rcases cases_of_nullable read with ⟨unplaced, rfl⟩ | ⟨place, location, rfl, placeRead, rfl⟩
  · exact ⟨iff_of_true rfl unplaced, fun location same => (by cases same)⟩
  · have isPrinted := SourceLocation.isPrinted_of_read placeRead
    refine ⟨iff_of_false (by simp) ?_, fun other same => ?_⟩
    · rintro (absent | isNull)
      · cases absent
      · exact isPrinted.ne_null (Option.some.inj isNull)
    · cases same
      exact ⟨place, rfl, isPrinted⟩

/-- A problem that was read carries what its entry says. -/
theorem carries_of_read {entry : Json} {problem : OutputProblem}
    (read : OutputProblem.read entry = .accepted problem) :
    problem.diagnostic.Carries entry := by
  unfold OutputProblem.read at read
  obtain ⟨fields, rfl, parts⟩ := document_eq_accepted.mp read
  obtain ⟨_, location, three, locationRead, rfl⟩ := Validation.seq_eq_accepted.mp parts
  obtain ⟨_, formatted, two, formattedRead, rfl⟩ := Validation.seq_eq_accepted.mp three
  obtain ⟨_, message, one, messageRead, rfl⟩ := Validation.seq_eq_accepted.mp two
  obtain ⟨severity, severityRead, rfl⟩ := Validation.fmap_eq_accepted.mp one
  obtain ⟨_, severityField, isText⟩ := required_eq_accepted.mp severityRead
  obtain rfl := text_eq_accepted.mp isText
  obtain ⟨_, messageField, isText⟩ := required_eq_accepted.mp messageRead
  obtain rfl := text_eq_accepted.mp isText
  have placed := printedPlace_of_read (defaultedAs_nullable_eq_accepted.mp locationRead)
  exact {
    severity := ⟨severity, severityField, gravity_diagnostic_iff⟩
    message := messageField
    formattedMessage :=
      nullable_text_eq_accepted.mp (defaultedAs_nullable_eq_accepted.mp formattedRead)
    placeless := placed.1
    place := placed.2 }

/-- The problems of an output are the entries of its document, in order. -/
theorem forall₂_problemEntries {document : Json} {output : Output}
    (accepted : Output.read document = .accepted output) :
    List.Forall₂ (fun entry problem => OutputProblem.read entry = .accepted problem)
      (problemEntries document) output.problems := by
  unfold Output.read at accepted
  obtain ⟨fields, rfl, parts⟩ := document_eq_accepted.mp accepted
  obtain ⟨problems, contracts, problemsRead, -, rfl⟩ := Validation.fmap_seq_eq_accepted.mp parts
  unfold problemEntries Json.field?
  rcases defaulted_eq_accepted.mp problemsRead with ⟨absent, rfl⟩ | ⟨value, present, listRead⟩
  · simp only [absent]
    exact .nil
  · obtain ⟨items, rfl, all⟩ := list_eq_accepted.mp listRead
    simp only [present]
    exact all

/-- Sorting problems by what they are called sorts the entries of the document. -/
theorem sorts_of_tables {document : Json} {output : Output} {result : Result}
    (accepted : Output.read document = .accepted output)
    (errors : result.errors = output.errorProblems.map (·.diagnostic))
    (warnings : result.warnings = output.otherProblems.map (·.diagnostic)) :
    result.Sorts (problemEntries document) := by
  rw [← filter_error_diagnostics] at errors
  rw [← filter_other_diagnostics] at warnings
  refine ⟨output.problems.map (·.diagnostic), ?_, errors, warnings, ?_⟩
  · rw [List.forall₂_map_right_iff]
    exact (forall₂_problemEntries accepted).imp fun _ _ read => carries_of_read read
  · rw [errors, warnings]
    exact List.filter_append_perm _ _

/-- A report of a failure is a single error, and as such in order. -/
theorem Result.IsFailureReport.isWellFormed {result : Result} (report : result.IsFailureReport) :
    result.IsWellFormed := by
  obtain ⟨reason, oneError⟩ := report.oneError
  refine ⟨?_, fun _ => report.noContracts, ?_, ?_⟩
  · rw [report.unsuccessful, report.noContracts]
    simp
  · intro diagnostic member
    rw [oneError, List.mem_singleton] at member
    rw [member]
  · intro diagnostic member
    rw [report.noWarnings] at member
    cases member

theorem packageResult_isWellFormed : packageResult.IsWellFormed := by
  refine ⟨by simp [packageResult], fun _ => rfl, ?_, ?_⟩
  · intro diagnostic member
    rw [packageResult, List.mem_singleton] at member
    rw [member, packageError]
  · intro diagnostic member
    rw [packageResult, List.mem_singleton] at member
    rw [member, packageHint]

/-- What comes of output is well formed, and its tables are those of the output. -/
theorem tables_of_resultOf {fileName : Argument} {output : Output} {result : Result}
    (returned : (resultOf fileName output).value = .ok result) :
    result.IsWellFormed ∧ result.errors = output.errorProblems.map (·.diagnostic) ∧
      result.warnings = output.otherProblems.map (·.diagnostic) := by
  by_cases clean : output.errorProblems = []
  · rw [value_resultOf_of_no_errors clean] at returned
    cases made : (output.contractsOf fileName.value).mapM
        fun entry => artifact entry.1 entry.2 with
    | error fault =>
        rw [made] at returned
        cases returned
    | ok contracts =>
        rw [made] at returned
        cases returned
        refine ⟨⟨?_, fun some => (some rfl).elim, ?_, ?_⟩, by rw [clean]; rfl, rfl⟩
        · simp
        · intro diagnostic member
          cases member
        · exact fun diagnostic member => gravity_of_mem_otherProblems member
  · rw [value_resultOf_of_errors clean] at returned
    cases returned
    refine ⟨⟨?_, fun _ => rfl, ?_, ?_⟩, rfl, rfl⟩
    · simp
    · exact fun diagnostic member => gravity_of_mem_errorProblems member
    · exact fun diagnostic member => gravity_of_mem_otherProblems member

/-- **Every compilation result is well formed.** Whatever the source, the file name and the run,
errors, warnings and artifacts are kept apart. When the run printed a document of output, the
diagnostics are its entries, and when the run was of no use, a single error tells so. -/
theorem compile_wellFormed {settings : Settings} {compiler : Invocation → RunOutcome}
    {source name : String} {result : Result}
    (returned : (compile settings compiler source (.ofText name)).value = .ok result) :
    result.IsWellFormed ∧
    (importsPackages source = false →
      ∀ text document output, (compiler (invocation settings source name)).Prints text →
        Json.read text = .ok document → Output.read document = .accepted output →
          result.Sorts (problemEntries document)) ∧
    (importsPackages source = false →
      (∀ output, ¬ (compiler (invocation settings source name)).Gives output) →
        result.IsFailureReport) := by
  cases single : importsPackages source with
  | true =>
      rw [value_compile_of_packages single] at returned
      cases returned
      exact ⟨packageResult_isWellFormed, fun other => (by cases other),
        fun other => (by cases other)⟩
  | false =>
      by_cases found : ∃ output, (compiler (invocation settings source name)).Gives output
      · obtain ⟨output, gives⟩ := found
        rw [value_compile_of_gives single gives] at returned
        obtain ⟨wellFormed, errors, warnings⟩ := tables_of_resultOf returned
        refine ⟨wellFormed, fun _ text document other printed read accepted => ?_,
          fun _ useless => (useless output gives).elim⟩
        obtain ⟨first, firstDocument, firstPrinted, firstRead, firstAccepted⟩ := gives
        obtain rfl := firstPrinted.unique printed
        rw [firstRead] at read
        cases read
        exact sorts_of_tables firstAccepted errors warnings
      · have useless := not_exists.mp found
        rcases value_compile_of_useless single useless with ⟨breakdown, -, broke⟩ | ⟨failure, told⟩
        · rw [broke] at returned
          cases returned
        · rw [told] at returned
          cases returned
          have report := failedResult_isFailureReport failure
          refine ⟨report.isWellFormed, fun _ text document output printed read accepted => ?_,
            fun _ _ => report⟩
          exact (useless output ⟨text, document, printed, read, accepted⟩).elim

/-- A run that reports a warning and then an error, the error with its place. -/
def mixedRun : RunOutcome :=
  .finished ("\x7b\"errors\":[\x7b\"severity\":\"warning\",\"message\":\"unused\"\x7d," ++
    "\x7b\"severity\":\"error\",\"message\":\"bad\",\"sourceLocation\":" ++
    "\x7b\"file\":\"C.sol\",\"start\":3,\"end\":9\x7d\x7d]\x7d") none 1

/-- The theorem at a run that reports an error and a warning: there is a result, and it keeps them
apart. -/
theorem compile_mixedRun_wellFormed :
    ∃ result, (compile .standard (fun _ => mixedRun) "contract A" (.ofText "C.sol")).value =
        .ok result ∧
      result.IsWellFormed ∧
      result.errors.map (fun error => (error.message, error.sourceLocation)) =
        [("bad", some ⟨"C.sol", 3, 9⟩)] ∧
      result.warnings.map (fun warning => (warning.message, warning.sourceLocation)) =
        [("unused", none)] := by
  have tables :
      (compile .standard (fun _ => mixedRun) "contract A" (.ofText "C.sol")).value.map
          (fun result =>
            (result.errors.map fun error => (error.message, error.sourceLocation),
              result.warnings.map fun warning => (warning.message, warning.sourceLocation))) =
        .ok ([("bad", some ⟨"C.sol", 3, 9⟩)], [("unused", none)]) := by
    decide +kernel
  cases returned : (compile .standard (fun _ => mixedRun) "contract A" (.ofText "C.sol")).value with
  | error breakdown =>
      rw [returned] at tables
      cases tables
  | ok result =>
      rw [returned] at tables
      obtain ⟨errors, warnings⟩ := Prod.mk.inj (Except.ok.inj tables)
      exact ⟨result, rfl, (compile_wellFormed returned).1, errors, warnings⟩

end Soliscope.Compiler
