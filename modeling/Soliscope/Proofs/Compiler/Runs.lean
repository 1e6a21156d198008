import Soliscope.Compiler.Compile
import Soliscope.Proofs.Outcomes

/-! # What a compiler run gives

A run is of use when it prints a text that is not blank and that reads as the output document. This
module says so without following the stages of the reading (`RunOutcome.Prints`,
`RunOutcome.Gives`), shows that the stages agree with it, and tells the outcome of a compilation
by the outcome of its run (`value_compile_of_gives`, `value_compile_of_useless`). The two tables of
diagnostics are described as parts of the list of problems.
-/

namespace Soliscope.Compiler

open Soliscope.Text

/-- The process ended and printed a text that is not blank. -/
def RunOutcome.Prints (outcome : RunOutcome) (text : String) : Prop :=
  ∃ errorOutput exitCode, outcome = .finished text errorOutput exitCode ∧
    (trimBlanks text).isEmpty = false

/-- The process printed the document of an output. -/
def RunOutcome.Gives (outcome : RunOutcome) (output : Output) : Prop :=
  ∃ text document, outcome.Prints text ∧ Json.read text = .ok document ∧
    Output.read document = .accepted output

/-- A run prints one text at most. -/
theorem RunOutcome.Prints.unique {outcome : RunOutcome} {first second : String}
    (printed : outcome.Prints first) (again : outcome.Prints second) : first = second := by
  obtain ⟨_, _, rfl, _⟩ := printed
  obtain ⟨_, _, same, _⟩ := again
  cases same
  rfl

/-- A text is output if it is a document of the right form. -/
theorem readOutput_eq_ok_ok {text : String} {output : Output} :
    readOutput text = .ok (.ok output) ↔
      ∃ document, Json.read text = .ok document ∧ Output.read document = .accepted output := by
  unfold readOutput
  cases Json.read text with
  | error error => cases error <;> simp
  | ok document =>
      simp only [Except.ok.injEq, exists_eq_left']
      cases Output.read document with
      | accepted found => simp
      | refused issues => simp

/-- Only two faults of a text break its reading down. -/
theorem readOutput_eq_error {text : String} {breakdown : Breakdown} :
    readOutput text = .error breakdown ↔
      (∃ digits, Json.read text = .error (.longInteger digits) ∧
        breakdown = .longInteger digits) ∨
      (∃ container, Json.read text = .error (.tooDeep container) ∧
        breakdown = .tooDeep container) := by
  unfold readOutput
  cases Json.read text with
  | error error => cases error <;> simp [eq_comm]
  | ok document =>
      dsimp only
      cases Output.read document <;> simp

/-- A run that printed something is judged by what it printed. -/
theorem outputOf_finished {run : Invocation} {binary text : String} {errorOutput : Option String}
    {exitCode : Int} (printed : (trimBlanks text).isEmpty = false) :
    outputOf run binary (.finished text errorOutput exitCode) = readOutput text := by
  simp only [outputOf, printed, Bool.false_eq_true, ↓reduceIte]

/-- The stages of reading find an output exactly when the run gives it. -/
theorem outputOf_eq_ok_ok {run : Invocation} {binary : String} {outcome : RunOutcome}
    {output : Output} :
    outputOf run binary outcome = .ok (.ok output) ↔ outcome.Gives output := by
  constructor
  · intro found
    cases outcome with
    | finished text errorOutput exitCode =>
        cases blank : (trimBlanks text).isEmpty with
        | true => simp [outputOf, blank] at found
        | false =>
            rw [outputOf_finished blank, readOutput_eq_ok_ok] at found
            obtain ⟨document, read, accepted⟩ := found
            exact ⟨text, document, ⟨errorOutput, exitCode, rfl, blank⟩, read, accepted⟩
    | notFound => cases found
    | timedOut => cases found
    | undecodable reason => cases found
    | refused reason => cases found
    | brokeDown message => cases found
  · rintro ⟨text, document, ⟨errorOutput, exitCode, rfl, printed⟩, read, accepted⟩
    rw [outputOf_finished printed, readOutput_eq_ok_ok]
    exact ⟨document, read, accepted⟩

/-- A run breaks a compilation down by its output or by itself. -/
theorem outputOf_eq_error {run : Invocation} {binary : String} {outcome : RunOutcome}
    {breakdown : Breakdown} :
    outputOf run binary outcome = .error breakdown ↔
      (∃ text, outcome.Prints text ∧ readOutput text = .error breakdown) ∨
      (∃ message, outcome = .brokeDown message ∧ breakdown = .running message) := by
  constructor
  · intro found
    cases outcome with
    | finished text errorOutput exitCode =>
        cases blank : (trimBlanks text).isEmpty with
        | true => simp [outputOf, blank] at found
        | false =>
            rw [outputOf_finished blank] at found
            exact Or.inl ⟨text, ⟨errorOutput, exitCode, rfl, blank⟩, found⟩
    | notFound => cases found
    | timedOut => cases found
    | undecodable reason => cases found
    | refused reason => cases found
    | brokeDown message =>
        cases found
        exact Or.inr ⟨message, rfl, rfl⟩
  · rintro (⟨text, ⟨errorOutput, exitCode, rfl, printed⟩, read⟩ | ⟨message, rfl, rfl⟩)
    · rwa [outputOf_finished printed]
    · rfl

/-- The problems that are called errors. -/
def Output.errorProblems (output : Output) : List OutputProblem :=
  output.problems.filter (·.severity == "error")

/-- The problems that are called anything else. -/
def Output.otherProblems (output : Output) : List OutputProblem :=
  output.problems.filter (·.severity != "error")

/-- The gravity of a problem is decided by its severity. -/
theorem OutputProblem.gravity_diagnostic_beq (problem : OutputProblem) :
    (problem.diagnostic.gravity == Gravity.error) = (problem.severity == "error") := by
  simp only [OutputProblem.diagnostic, Gravity.ofSeverity]
  cases problem.severity == "error" <;> rfl

/-- The errors among the diagnostics are those among the problems, in their order. -/
theorem filter_error_diagnostics (output : Output) :
    (output.problems.map (·.diagnostic)).filter (·.gravity == .error) =
      output.errorProblems.map (·.diagnostic) := by
  rw [List.filter_map]
  refine congrArg (List.map _) (List.filter_congr fun problem _ => ?_)
  exact problem.gravity_diagnostic_beq

/-- The warnings are the other problems, in their order. -/
theorem filter_other_diagnostics (output : Output) :
    (output.problems.map (·.diagnostic)).filter (·.gravity != .error) =
      output.otherProblems.map (·.diagnostic) := by
  rw [List.filter_map]
  refine congrArg (List.map _) (List.filter_congr fun problem _ => ?_)
  exact congrArg Bool.not problem.gravity_diagnostic_beq

/-- Output with errors makes a failure, and nothing is said of contracts. -/
theorem value_resultOf_of_errors {fileName : Argument} {output : Output}
    (errors : output.errorProblems ≠ []) :
    (resultOf fileName output).value = .ok {
      success := false
      errors := output.errorProblems.map (·.diagnostic)
      warnings := output.otherProblems.map (·.diagnostic) } := by
  unfold resultOf
  simp only [filter_error_diagnostics, filter_other_diagnostics, List.isEmpty_map,
    List.isEmpty_iff, errors, ↓reduceIte]
  rfl

/-- Output without errors makes a success if it has contracts, unless their gas estimates are odd.
-/
theorem value_resultOf_of_no_errors {fileName : Argument} {output : Output}
    (none : output.errorProblems = []) :
    (resultOf fileName output).value =
      match (output.contractsOf fileName.value).mapM fun entry => artifact entry.1 entry.2 with
      | .error fault => .error (.gasSection fault)
      | .ok contracts => .ok {
          success := !contracts.isEmpty
          contracts := contracts
          warnings := output.otherProblems.map (·.diagnostic) } := by
  unfold resultOf
  simp only [filter_error_diagnostics, filter_other_diagnostics, none, List.map_nil,
    List.isEmpty_nil, ↓reduceIte]
  cases (output.contractsOf fileName.value).mapM fun entry => artifact entry.1 entry.2 <;> rfl

/-- A single error tells that the compilation failed and why, and there is nothing else. -/
structure Result.IsFailureReport (result : Result) : Prop where
  unsuccessful : result.success = false
  noContracts : result.contracts = []
  noWarnings : result.warnings = []
  oneError : ∃ reason, result.errors =
    [{ gravity := .error, message := "Compilation failed: " ++ reason }]

/-- The result for a failed run reports the failure. -/
theorem failedResult_isFailureReport (failure : RunFailure) :
    (failedResult failure).IsFailureReport :=
  ⟨rfl, rfl, rfl, failure.message, rfl⟩

variable {settings : Settings} {compiler : Invocation → RunOutcome} {source name : String}

/-- A source that imports packages has its fixed result. -/
theorem value_compile_of_packages (packages : importsPackages source = true)
    (fileName : Argument) :
    (compile settings compiler source fileName).value = .ok packageResult := by
  simp only [compile, packages, ↓reduceIte]
  rfl

/-- A compilation of a file with a name goes by what is made of its run. -/
theorem value_compile (single : importsPackages source = false) :
    (compile settings compiler source (.ofText name)).value =
      match outputOf (invocation settings source name) settings.solcBinary
          (compiler (invocation settings source name)) with
      | .error breakdown => .error breakdown
      | .ok (.error failure) => .ok (failedResult failure)
      | .ok (.ok output) => (resultOf (.ofText name) output).value := by
  simp only [compile, single, Bool.false_eq_true, ↓reduceIte, Argument.fieldName?_ofText,
    compileAs, Traced.value_bind, value_runCompiler]
  cases outputOf (invocation settings source name) settings.solcBinary
      (compiler (invocation settings source name)) with
  | error breakdown => rfl
  | ok read => cases read <;> rfl

/-- A run that gives output decides the result. -/
theorem value_compile_of_gives (single : importsPackages source = false) {output : Output}
    (gives : (compiler (invocation settings source name)).Gives output) :
    (compile settings compiler source (.ofText name)).value =
      (resultOf (.ofText name) output).value := by
  rw [value_compile single, outputOf_eq_ok_ok.mpr gives]

/-- Without output a compilation either breaks down or tells why there is none. -/
theorem value_compile_of_useless (single : importsPackages source = false)
    (useless : ∀ output, ¬ (compiler (invocation settings source name)).Gives output) :
    (∃ breakdown, outputOf (invocation settings source name) settings.solcBinary
        (compiler (invocation settings source name)) = .error breakdown ∧
      (compile settings compiler source (.ofText name)).value = .error breakdown) ∨
    ∃ failure, (compile settings compiler source (.ofText name)).value =
      .ok (failedResult failure) := by
  rw [value_compile single]
  cases found : outputOf (invocation settings source name) settings.solcBinary
      (compiler (invocation settings source name)) with
  | error breakdown => exact Or.inl ⟨breakdown, rfl, rfl⟩
  | ok read =>
      cases read with
      | error failure => exact Or.inr ⟨failure, rfl⟩
      | ok output => exact (useless output (outputOf_eq_ok_ok.mp found)).elim

end Soliscope.Compiler
