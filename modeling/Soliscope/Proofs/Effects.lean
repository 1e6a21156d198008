import Soliscope.Compiler.Compile
import Soliscope.Explorer.Verification
import Soliscope.Scan.Report

/-! # What services do

Each service runs the compiler or calls an explorer a limited number of times, whatever it is given
and whatever comes back (`Traced.MakesAtMost`). The limits of what is done one after the other add
up, so that each service has its limits from those of its steps: compiling makes one run and no
call, each of the three verification services makes one call and no run, and scanning makes neither.
-/

namespace Soliscope

/-- **Limits of a trace**: how many runs of the compiler and how many calls to explorers there are
at most. -/
structure Traced.MakesAtMost {α : Type} (runs calls : Nat) (trace : Traced α) : Prop where
  runs : trace.invocations.length ≤ runs
  calls : trace.requests.length ≤ calls

namespace Traced

variable {α β : Type} {runs calls moreRuns moreCalls : Nat}

/-- A value alone has no effects. -/
theorem makesAtMost_pure (value : α) (runs calls : Nat) :
    (pure value : Traced α).MakesAtMost runs calls :=
  ⟨Nat.zero_le runs, Nat.zero_le calls⟩

/-- The limits of one step after the other add up. -/
theorem MakesAtMost.bind {first : Traced α} {next : α → Traced β}
    (start : first.MakesAtMost runs calls)
    (goOn : ∀ value, (next value).MakesAtMost moreRuns moreCalls) :
    (first >>= next).MakesAtMost (runs + moreRuns) (calls + moreCalls) := by
  constructor
  · rw [invocations_bind, List.length_append]
    exact Nat.add_le_add start.runs (goOn first.value).runs
  · rw [requests_bind, List.length_append]
    exact Nat.add_le_add start.calls (goOn first.value).calls

/-- Going on without runs and calls keeps the limits. -/
theorem MakesAtMost.bind_quiet {first : Traced α} {next : α → Traced β}
    (start : first.MakesAtMost runs calls) (goOn : ∀ value, (next value).MakesAtMost 0 0) :
    (first >>= next).MakesAtMost runs calls :=
  start.bind goOn

/-- A log record before a computation keeps its limits. -/
theorem MakesAtMost.record_bind {next : Unit → Traced β} (level : LogLevel) (message : String)
    (goOn : (next ()).MakesAtMost runs calls) :
    (record level message >>= next).MakesAtMost runs calls :=
  ⟨goOn.runs, goOn.calls⟩

theorem MakesAtMost.no_runs {trace : Traced α} (limits : trace.MakesAtMost 0 calls) :
    trace.invocations = [] :=
  List.length_eq_zero_iff.mp (Nat.le_zero.mp limits.runs)

theorem MakesAtMost.no_calls {trace : Traced α} (limits : trace.MakesAtMost runs 0) :
    trace.requests = [] :=
  List.length_eq_zero_iff.mp (Nat.le_zero.mp limits.calls)

end Traced

open Traced

/-- A scan has no effects outside. -/
theorem Scan.scan_makesAtMost (catalog : List Scan.Rule) (source : String) :
    (Scan.scan catalog source).MakesAtMost 0 0 :=
  .record_bind _ _ (makesAtMost_pure _ 0 0)

namespace Compiler

/-- Output is made a result without effects outside. -/
theorem resultOf_makesAtMost (fileName : Argument) (output : Output) :
    (resultOf fileName output).MakesAtMost 0 0 := by
  unfold resultOf
  dsimp only
  split
  · split
    · exact makesAtMost_pure _ 0 0
    · exact .record_bind _ _ (makesAtMost_pure _ 0 0)
  · exact .record_bind _ _ (makesAtMost_pure _ 0 0)

variable (settings : Settings) (compiler : Invocation → RunOutcome) (source : String)

/-- One run is one run. -/
theorem runCompiler_makesAtMost (invocation : Invocation) :
    (runCompiler compiler invocation).MakesAtMost 1 0 :=
  ⟨Nat.le_refl 1, Nat.le_refl 0⟩

/-- A compilation under a name makes one run. -/
theorem compileAs_makesAtMost (fileName : Argument) (fieldName : String) :
    (compileAs settings compiler source fileName fieldName).MakesAtMost 1 0 := by
  apply (runCompiler_makesAtMost compiler _).bind_quiet
  intro outcome
  split
  · exact makesAtMost_pure _ 0 0
  · exact .record_bind _ _ (makesAtMost_pure _ 0 0)
  · exact resultOf_makesAtMost _ _

/-- **Compiling makes at most one run and no call.** -/
theorem compile_makesAtMost (fileName : Argument) :
    (compile settings compiler source fileName).MakesAtMost 1 0 := by
  unfold compile
  split
  · exact .record_bind _ _ (makesAtMost_pure _ 1 0)
  · split
    · exact makesAtMost_pure _ 1 0
    · exact compileAs_makesAtMost settings compiler source fileName _

end Compiler

namespace Explorer

variable (registry : Registry) (settings : Settings) (explorer : Request → Reply)

/-- One call is one call. -/
theorem callExplorer_makesAtMost (request : Request) :
    (callExplorer explorer request).MakesAtMost 0 1 :=
  ⟨Nat.le_refl 0, Nat.le_refl 1⟩

/-- A call makes one round trip at most; a redirection is not followed. -/
theorem call_makesAtMost (request : Except Url.Flaw Request) :
    (call explorer request).MakesAtMost 0 1 := by
  unfold call
  split
  · exact makesAtMost_pure _ 0 1
  · split
    · exact makesAtMost_pure _ 0 1
    · exact (callExplorer_makesAtMost explorer _).bind_quiet fun _ => makesAtMost_pure _ 0 0

/-- The answer to a submission is told without another call. -/
theorem submitAnswer_makesAtMost (endpoint : Endpoint) (submission : Submission)
    (envelope : Envelope) : (submitAnswer endpoint submission envelope).MakesAtMost 0 0 := by
  unfold submitAnswer
  split
  · exact makesAtMost_pure _ 0 0
  · exact .record_bind _ _ (makesAtMost_pure _ 0 0)

/-- **Submitting makes at most one call and no run.** -/
theorem submit_makesAtMost (submission : Submission) :
    (submit registry settings explorer submission).MakesAtMost 0 1 := by
  unfold submit
  split
  · exact makesAtMost_pure _ 0 1
  · exact .record_bind _ _ (makesAtMost_pure _ 0 1)
  · apply MakesAtMost.record_bind
    apply (call_makesAtMost explorer _).bind_quiet
    intro answer
    split
    · exact makesAtMost_pure _ 0 0
    · exact .record_bind _ _ (makesAtMost_pure _ 0 0)
    · exact (submitAnswer_makesAtMost _ _ _).bind_quiet fun _ => makesAtMost_pure _ 0 0

/-- **Polling makes at most one call and no run.** -/
theorem pollStatus_makesAtMost (chain : ChainId) (job apiKey : Argument) :
    (pollStatus registry settings explorer chain job apiKey).MakesAtMost 0 1 := by
  unfold pollStatus
  split
  · split
    · exact makesAtMost_pure _ 0 1
    · exact makesAtMost_pure _ 0 1
  · apply (call_makesAtMost explorer _).bind_quiet
    intro answer
    split
    · exact makesAtMost_pure _ 0 0
    · exact .record_bind _ _ (makesAtMost_pure _ 0 0)
    · exact .record_bind _ _ (makesAtMost_pure _ 0 0)

/-- **Looking up makes at most one call and no run.** -/
theorem lookUpSource_makesAtMost (chain : ChainId) (address apiKey : Argument) :
    (lookUpSource registry settings explorer chain address apiKey).MakesAtMost 0 1 := by
  unfold lookUpSource
  split
  · exact makesAtMost_pure _ 0 1
  · apply (call_makesAtMost explorer _).bind_quiet
    intro answer
    split
    · exact makesAtMost_pure _ 0 0
    · exact .record_bind _ _ (makesAtMost_pure _ 0 0)
    · exact makesAtMost_pure _ 0 0

end Explorer

end Soliscope
