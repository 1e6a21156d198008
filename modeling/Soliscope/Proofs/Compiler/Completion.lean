import Soliscope.Proofs.Compiler.Runs

/-! # When a compilation has a result

A compilation is meant to have a result whatever the compiler does. It has one for every run that
ends in an expected way, and what is not output is reported as a single error. The exceptions are
listed in `RunOutcome.Unanswerable`: an integer with more digits than are taken, containers beyond
the nesting limit, and a section of gas estimates that says something without being a dictionary.
The last is looked at after the output was accepted, and only if no error is told.
-/

namespace Soliscope.Compiler

/-- A section of gas estimates says something, but is no dictionary. -/
def IsOddSection (estimates : List (String × Json)) (name : String) : Prop :=
  ∃ value, estimates.lookup name = some value ∧ value.isTruthy = true ∧
    ∀ entries, value ≠ .obj entries

/-- One of the two sections of the gas estimates of a contract is odd. -/
def OutputContract.HasOddGas (contract : OutputContract) : Prop :=
  ∃ machine estimates, contract.machine = some machine ∧
    machine.gasEstimates = some estimates ∧
    (IsOddSection estimates "creation" ∨ IsOddSection estimates "external")

/-- A section of gas estimates is read unless it is odd. -/
theorem exists_gasSection_iff {estimates : List (String × Json)} {name : String} :
    (∃ entries, gasSection estimates name = .ok entries) ↔ ¬ IsOddSection estimates name := by
  unfold gasSection IsOddSection
  cases estimates.lookup name with
  | none => simp
  | some value =>
      by_cases truthy : value.isTruthy = true
      · cases value <;> simp [truthy]
      · simp [truthy]

/-- Gas estimates are read unless one of the two sections is odd. -/
theorem exists_gasEstimates_iff {estimates : Option (List (String × Json))} :
    (∃ texts, gasEstimates estimates = .ok texts) ↔
      ∀ entries, estimates = some entries →
        ¬ (IsOddSection entries "creation" ∨ IsOddSection entries "external") := by
  cases estimates with
  | none => simp [gasEstimates]
  | some entries =>
      cases entries with
      | nil => simp [gasEstimates, IsOddSection]
      | cons first rest =>
          simp only [Option.some.injEq, forall_eq', not_or, ← exists_gasSection_iff, gasEstimates]
          cases gasSection (first :: rest) "creation" with
          | error fault => simp [bind, Except.bind]
          | ok creation =>
              cases gasSection (first :: rest) "external" with
              | error fault => simp [bind, Except.bind]
              | ok external => simp [bind, Except.bind, pure, Except.pure]

/-- A contract becomes an artifact unless its gas estimates are odd. -/
theorem exists_artifact_iff (name : String) {contract : OutputContract} :
    (∃ made, artifact name contract = .ok made) ↔ ¬ contract.HasOddGas := by
  have estimated : (∃ made, artifact name contract = .ok made) ↔
      ∃ texts, gasEstimates (contract.machine.bind (·.gasEstimates)) = .ok texts := by
    unfold artifact
    cases gasEstimates (contract.machine.bind (·.gasEstimates)) with
    | error fault => simp [bind, Except.bind]
    | ok texts => simp [bind, Except.bind, pure, Except.pure]
  rw [estimated, exists_gasEstimates_iff]
  constructor
  · rintro fine ⟨machine, estimates, isMachine, isEstimates, odd⟩
    exact fine estimates (Option.bind_eq_some_iff.mpr ⟨machine, isMachine, isEstimates⟩) odd
  · intro fine estimates found odd
    obtain ⟨machine, isMachine, isEstimates⟩ := Option.bind_eq_some_iff.mp found
    exact fine ⟨machine, estimates, isMachine, isEstimates, odd⟩

/-- All contracts have artifacts unless the gas estimates of one are odd. -/
theorem exists_artifacts_iff {entries : List (String × OutputContract)} :
    (∃ made, entries.mapM (fun entry => artifact entry.1 entry.2) = .ok made) ↔
      ∀ entry ∈ entries, ¬ entry.2.HasOddGas := by
  rw [exists_mapM_iff]
  exact forall₂_congr fun entry _ => exists_artifact_iff entry.1

/-- What a run may not be for the file of a name to be answered. -/
inductive RunOutcome.Unanswerable (fileName : String) (outcome : RunOutcome) : Prop
  /-- Running the compiler broke down. -/
  | crash {message : String} (broke : outcome = .brokeDown message)
  /-- The printed text holds an integer with more digits than are taken. -/
  | longInteger {text : String} {digits : Nat} (printed : outcome.Prints text)
      (stopped : Json.read text = .error (.longInteger digits))
  /-- The printed text holds too many containers in each other. -/
  | deep {text : String} {container : Json.Container} (printed : outcome.Prints text)
      (stopped : Json.read text = .error (.tooDeep container))
  /-- No error is told, and a contract of the file has odd gas estimates. -/
  | oddGas {output : Output} {entry : String × OutputContract} (gives : outcome.Gives output)
      (clean : output.errorProblems = []) (member : entry ∈ output.contractsOf (.str fileName))
      (odd : entry.2.HasOddGas)

variable {settings : Settings} {compiler : Invocation → RunOutcome} {source name : String}

/-- A run that cannot be answered leaves the compilation without a result. -/
theorem exists_breakdown_of_unanswerable (single : importsPackages source = false)
    (unanswerable : (compiler (invocation settings source name)).Unanswerable name) :
    ∃ breakdown, (compile settings compiler source (.ofText name)).value = .error breakdown := by
  have broken {breakdown : Breakdown}
      (found : outputOf (invocation settings source name) settings.solcBinary
        (compiler (invocation settings source name)) = .error breakdown) :
      ∃ breakdown,
        (compile settings compiler source (.ofText name)).value = .error breakdown := by
    rw [value_compile single, found]
    exact ⟨breakdown, rfl⟩
  cases unanswerable with
  | crash broke => exact broken (outputOf_eq_error.mpr (Or.inr ⟨_, broke, rfl⟩))
  | longInteger printed stopped =>
      exact broken (outputOf_eq_error.mpr (Or.inl ⟨_, printed,
        readOutput_eq_error.mpr (Or.inl ⟨_, stopped, rfl⟩)⟩))
  | deep printed stopped =>
      exact broken (outputOf_eq_error.mpr (Or.inl ⟨_, printed,
        readOutput_eq_error.mpr (Or.inr ⟨_, stopped, rfl⟩)⟩))
  | @oddGas output entry gives clean member odd =>
      rw [value_compile_of_gives single gives, value_resultOf_of_no_errors clean]
      cases made : (output.contractsOf (.str name)).mapM
          fun entry => artifact entry.1 entry.2 with
      | error fault =>
          refine ⟨.gasSection fault, ?_⟩
          simp only [Argument.ofText, made]
      | ok artifacts => exact (exists_artifacts_iff.mp ⟨artifacts, made⟩ entry member odd).elim

/-- Only a run that cannot be answered leaves the compilation without a result. -/
theorem unanswerable_of_breakdown (single : importsPackages source = false)
    {breakdown : Breakdown}
    (broke : (compile settings compiler source (.ofText name)).value = .error breakdown) :
    (compiler (invocation settings source name)).Unanswerable name := by
  by_cases found : ∃ output, (compiler (invocation settings source name)).Gives output
  · obtain ⟨output, gives⟩ := found
    rw [value_compile_of_gives single gives] at broke
    by_cases clean : output.errorProblems = []
    · rw [value_resultOf_of_no_errors clean] at broke
      by_contra answerable
      have fine : ∀ entry ∈ output.contractsOf (.str name), ¬ entry.2.HasOddGas :=
        fun entry member odd => answerable (.oddGas gives clean member odd)
      obtain ⟨artifacts, made⟩ := exists_artifacts_iff.mpr fine
      simp only [Argument.ofText, made, reduceCtorEq] at broke
    · rw [value_resultOf_of_errors clean] at broke
      cases broke
  · have useless := not_exists.mp found
    rcases value_compile_of_useless single useless with ⟨fault, stopped, -⟩ | ⟨failure, told⟩
    · rcases outputOf_eq_error.mp stopped with ⟨text, printed, read⟩ | ⟨message, crashed, -⟩
      · rcases readOutput_eq_error.mp read with ⟨digits, fault, -⟩ | ⟨container, fault, -⟩
        · exact .longInteger printed fault
        · exact .deep printed fault
      · exact .crash crashed
    · rw [told] at broke
      cases broke

/-- **When a compilation has a result.** A source that imports packages always has one. Any other
has one exactly when its run can be answered, and then a run that gives no output is reported as a
single error. -/
theorem compile_returns_iff (settings : Settings) (compiler : Invocation → RunOutcome)
    (source name : String) :
    ((∃ result, (compile settings compiler source (.ofText name)).value = .ok result) ↔
      importsPackages source = true ∨
        ¬ (compiler (invocation settings source name)).Unanswerable name) ∧
    (importsPackages source = false →
      ¬ (compiler (invocation settings source name)).Unanswerable name →
      (∀ output, ¬ (compiler (invocation settings source name)).Gives output) →
      ∃ result, (compile settings compiler source (.ofText name)).value = .ok result ∧
        result.IsFailureReport) := by
  refine ⟨⟨?_, ?_⟩, ?_⟩
  · rintro ⟨result, returned⟩
    cases single : importsPackages source with
    | true => exact Or.inl rfl
    | false =>
        refine Or.inr fun unanswerable => ?_
        obtain ⟨breakdown, broke⟩ := exists_breakdown_of_unanswerable single unanswerable
        rw [broke] at returned
        cases returned
  · rintro (packages | answerable)
    · exact ⟨packageResult, value_compile_of_packages packages _⟩
    · cases single : importsPackages source with
      | true => exact ⟨packageResult, value_compile_of_packages single _⟩
      | false =>
          cases value : (compile settings compiler source (.ofText name)).value with
          | ok result => exact ⟨result, rfl⟩
          | error breakdown => exact (answerable (unanswerable_of_breakdown single value)).elim
  · intro single answerable useless
    rcases value_compile_of_useless single useless with ⟨breakdown, -, broke⟩ | ⟨failure, told⟩
    · exact (answerable (unanswerable_of_breakdown single broke)).elim
    · exact ⟨failedResult failure, told, failedResult_isFailureReport failure⟩

/-- A list of estimates in the place of a dictionary leaves no result. -/
theorem no_result_of_listed_gas :
    ¬ ∃ result, (compile .standard
      (fun _ => .finished ("\x7b\"contracts\":\x7b\"C.sol\":\x7b\"A\":\x7b\"evm\":" ++
        "\x7b\"gasEstimates\":\x7b\"creation\":[1]\x7d\x7d\x7d\x7d\x7d\x7d") none 0)
      "contract A" (.ofText "C.sol")).value = .ok result := by
  have broke : (compile .standard
      (fun _ => .finished ("\x7b\"contracts\":\x7b\"C.sol\":\x7b\"A\":\x7b\"evm\":" ++
        "\x7b\"gasEstimates\":\x7b\"creation\":[1]\x7d\x7d\x7d\x7d\x7d\x7d") none 0)
      "contract A" (.ofText "C.sol")).value.isOk = false := by decide +kernel
  rintro ⟨result, returned⟩
  rw [returned] at broke
  cases broke

end Soliscope.Compiler
