import Soliscope.Proofs.Compiler.Runs
import Soliscope.Proofs.Json.RoundTrip
import Soliscope.Proofs.Text.Search

/-!
# What the compiler is handed

A compilation runs the compiler once, or not at all if the source imports packages. The text that
the compiler is handed is ASCII and reads as one document, in which the source and the name of its
file stand character for character; whatever they hold, the rest of the document is always the same
(`compile_handsOver`).
-/

namespace Soliscope.Compiler

open Soliscope.Text

/-- A source imports packages if it mentions the place where packages come from. -/
theorem importsPackages_iff (source : String) :
    importsPackages source = true ↔ "@openzeppelin/".toList <:+: source.toList := by
  rw [← contains_iff, importsPackages, packageMarkers, List.any_cons, List.any_nil, Bool.or_false]

/-- The compiler is started for standard input and handed the document of one source file. -/
structure Invocation.HandsOver (run : Invocation) (settings : Settings) (source name : String) :
    Prop where
  command : run.command = [settings.solcBinary, "--standard-json"]
  ascii : ∀ c ∈ run.input.toList, c.toNat < 0x80
  decodes : Json.read run.input = .ok (standardInput source name)
  /-- The document in full, with the source and the file name where they belong. -/
  tells : Json.read run.input = .ok (.obj [
    ("language", .str "Solidity"),
    ("sources", .obj [(name, .obj [("content", .str source)])]),
    ("settings", .obj [
      ("optimizer", .obj [("enabled", .bool true), ("runs", .int 200)]),
      ("outputSelection", .obj [("*", .obj [("*", .arr [.str "abi", .str "evm.bytecode",
        .str "evm.deployedBytecode", .str "evm.gasEstimates"])])])])])

/-- The document for the compiler tells its source and file name in full. -/
theorem standardInput_isPlain (source name : String) : (standardInput source name).IsPlain := by
  have runs : Json.IsTakenInteger optimizerRuns := by decide
  simp [standardInput, outputSelection, Json.texts, Json.IsPlain, Json.ItemsArePlain,
    Json.FieldsArePlain, runs]

/-- Six containers lie in each other in what is handed over, whatever the source. -/
theorem depth_standardInput (source name : String) : (standardInput source name).depth = 6 := rfl

/-- What a run is given reads back as the source under its name. -/
theorem invocation_handsOver (settings : Settings) (source name : String) :
    (invocation settings source name).HandsOver settings source name := by
  have plain := standardInput_isPlain source name
  have shallow : (standardInput source name).depth ≤ Json.nestingLimit := by
    rw [depth_standardInput]
    decide
  have decodes := Json.read_render plain shallow
  exact {
    command := rfl
    ascii := Json.render_ascii plain
    decodes := decodes
    tells := decodes }

/-- Once the output is there, the compiler is not run again. -/
theorem invocations_resultOf (fileName : Argument) (output : Output) :
    (resultOf fileName output).invocations = [] := by
  unfold resultOf
  dsimp only
  split
  · split <;> rfl
  · rfl

/-- A compilation of a single file runs the compiler once, whatever comes of the run. -/
theorem invocations_compileAs (settings : Settings) (compiler : Invocation → RunOutcome)
    (source : String) (fileName : Argument) (fieldName : String) :
    (compileAs settings compiler source fileName fieldName).invocations =
      [invocation settings source fieldName] := by
  have run := invocations_runCompiler compiler (invocation settings source fieldName)
  rw [compileAs, Traced.invocations_bind, run, value_runCompiler]
  split
  · rfl
  · rfl
  · rw [invocations_resultOf]
    rfl

/-- A source without packages is compiled in one run. -/
theorem invocations_compile {settings : Settings} {compiler : Invocation → RunOutcome}
    {source name : String} (single : importsPackages source = false) :
    (compile settings compiler source (.ofText name)).invocations =
      [invocation settings source name] := by
  simp only [compile, single, Bool.false_eq_true, ↓reduceIte, Argument.fieldName?_ofText]
  exact invocations_compileAs settings compiler source (.ofText name) name

/-- **The compiler is run once, on exactly the given source, unless that imports packages.** -/
theorem compile_handsOver (settings : Settings) (compiler : Invocation → RunOutcome)
    (source name : String) :
    ∃ run, (compile settings compiler source (.ofText name)).invocations =
        (if "@openzeppelin/".toList <:+: source.toList then [] else [run]) ∧
      run.HandsOver settings source name := by
  refine ⟨invocation settings source name, ?_, invocation_handsOver settings source name⟩
  by_cases packages : "@openzeppelin/".toList <:+: source.toList
  · have imported : importsPackages source = true := (importsPackages_iff source).mpr packages
    rw [if_pos packages, compile, if_pos imported]
    rfl
  · have single : ¬ importsPackages source = true := mt (importsPackages_iff source).mp packages
    rw [if_neg packages, compile, if_neg single, Argument.fieldName?_ofText]
    exact invocations_compileAs settings compiler source (.ofText name) name

end Soliscope.Compiler
