import Soliscope.Proofs.Compiler.Completion
import Soliscope.Proofs.Compiler.Diagnostics
import Soliscope.Proofs.Json.Display
import Soliscope.Proofs.Json.Names
import Soliscope.Proofs.Json.RoundTrip

/-! # What artifacts depict

The artifacts of a compilation are an image of what the compiler printed for the file that was asked
for: one for each of its contracts, in the printed order, under names that differ, and nothing of
other files (`compile_depicts`). What an artifact keeps of its contract is said in terms of the
printed document alone (`Artifact.Depicts`). Code gets a prefix unless there is none, and gas
estimates become texts (`Json.IsToldBy`). The document is followed level by level: every part may be
missing or null, and two of them go by either of two names (`OutputContract.parts_of_read`).
-/

namespace Soliscope.Compiler

open Soliscope.Schema

/-! ## What is printed for a contract -/

/-- The entries of a printed object; what is missing or no object has none. -/
def printedEntries (printed : Option Json) : List (String × Json) :=
  match printed with
  | some (.obj entries) => entries
  | _ => []

/-- The contracts that a printed document has for a file, with their names. -/
def contractEntries (document : Json) (name : String) : List (String × Json) :=
  printedEntries ((document.field? "contracts").bind (·.field? name))

/-- The text that is printed as code, if any is. -/
def printedCode (code : Option Json) : Option String :=
  (code.bind (·.field? "object")).bind (·.text?)

/-- What is printed for the virtual machine of a contract under either of two names. -/
def printedPart (contract : Json) (name other : String) : Option Json :=
  (contract.field? "evm").bind (eitherField? · name other)

/-- The gas estimates that are printed for a contract. -/
def printedGas (contract : Json) : Option Json :=
  printedPart contract "gasEstimates" "gas_estimates"

/-- A section of the gas estimates is missing, null or an object. -/
def IsPlainSection (printed : Option Json) : Prop :=
  printed = none ∨ printed = some .null ∨ ∃ entries, printed = some (.obj entries)

/-- Both sections of the gas estimates of a contract are missing, null or objects. -/
structure HasPlainGas (contract : Json) : Prop where
  creation : IsPlainSection ((printedGas contract).bind (·.field? "creation"))
  external : IsPlainSection ((printedGas contract).bind (·.field? "external"))

/-- Code in an artifact is the printed text with a prefix, and empty when there is none. -/
structure IsCodeOf (printed : Option String) (code : String) : Prop where
  empty_iff : code = "" ↔ printed = none ∨ printed = some ""
  prefixed : ∀ text, printed = some text → text ≠ "" → code = "0x" ++ text
  neverBare : code ≠ "0x"

/-- A section of estimates tells the printed entries: the same names in the same order, each with
the text of its value. -/
def IsSectionOf (printed : Option Json) (told : List (String × String)) : Prop :=
  List.Forall₂ (fun entry estimate => estimate.1 = entry.1 ∧ entry.2.IsToldBy estimate.2)
    (printedEntries printed) told

/-- **What an artifact keeps of the printed contract.** -/
structure Artifact.Depicts (artifact : Artifact) (entry : String × Json) : Prop where
  name : artifact.contractName = entry.1
  abi : (entry.2.field? "abi").getD (.arr []) = .arr (artifact.abi.map .obj)
  bytecode : IsCodeOf (printedCode ((entry.2.field? "evm").bind (·.field? "bytecode")))
    artifact.bytecode
  deployedBytecode :
    IsCodeOf (printedCode (printedPart entry.2 "deployedBytecode" "deployed_bytecode"))
      artifact.deployedBytecode
  unestimated : artifact.gasEstimates = none ↔
    printedGas entry.2 = none ∨ printedGas entry.2 = some .null ∨
      printedGas entry.2 = some (.obj [])
  estimated : ∀ estimates, artifact.gasEstimates = some estimates →
    IsSectionOf ((printedGas entry.2).bind (·.field? "creation")) estimates.creation ∧
      IsSectionOf ((printedGas entry.2).bind (·.field? "external")) estimates.external

/-! ## Reading a contract level by level -/

section Levels

/-- Code that was read holds the printed text. -/
theorem OutputCode.object_of_read {value : Json} {code : OutputCode}
    (read : OutputCode.read value = .accepted code) :
    code.object = (printedCode (some value)).getD "" := by
  unfold OutputCode.read at read
  obtain ⟨fields, rfl, parts⟩ := document_eq_accepted.mp read
  obtain ⟨object, objectRead, rfl⟩ := Validation.fmap_eq_accepted.mp parts
  change object = ((fields.lookup "object").bind (·.text?)).getD ""
  rcases defaulted_eq_accepted.mp objectRead with ⟨absent, rfl⟩ | ⟨written, present, isText⟩
  · rw [absent]
    rfl
  · obtain rfl := text_eq_accepted.mp isText
    rw [present]
    rfl

/-- Where code may be missing or null, it is empty then. -/
theorem codeOf_of_read {printed : Option Json} {code : Option OutputCode}
    (read : nullable OutputCode.read (printed.getD .null) = .accepted code) :
    codeOf code = hexCode ((printedCode printed).getD "") := by
  rcases cases_of_nullable read with ⟨rfl | rfl, rfl⟩ | ⟨value, found, rfl, foundRead, rfl⟩
  · rfl
  · rfl
  · rw [codeOf, Option.map_some, Option.getD_some, found.object_of_read foundRead]

/-- Code is given the prefix that shows it is hexadecimal, if there is any. -/
theorem hexCode_isCodeOf (printed : Option String) :
    IsCodeOf printed (hexCode (printed.getD "")) := by
  cases printed with
  | none => exact ⟨by simp [hexCode], fun text same => (by cases same), by decide⟩
  | some text =>
      by_cases isEmpty : text = ""
      · subst isEmpty
        refine ⟨by simp [hexCode], fun text same notEmpty => ?_, by decide⟩
        exact (notEmpty (Option.some.inj same).symm).elim
      · have coded : hexCode text = "0x" ++ text := by
          rw [hexCode, if_neg (mt String.isEmpty_iff.mp isEmpty)]
        rw [Option.getD_some, coded]
        refine ⟨?_, fun other same _ => (by rw [Option.some.inj same]), fun same => ?_⟩
        · simp [isEmpty]
        · have letters := congrArg String.toList same
          rw [String.toList_append, List.append_right_eq_self] at letters
          exact isEmpty (String.toList_eq_nil_iff.mp letters)

variable {value : Json}

/-- A machine part that was read holds its three fields, the last two under either of their
names. -/
theorem OutputMachine.fields_of_read {machine : OutputMachine}
    (read : OutputMachine.read value = .accepted machine) :
    codeOf machine.bytecode = hexCode ((printedCode (value.field? "bytecode")).getD "") ∧
    codeOf machine.deployedBytecode = hexCode ((printedCode
      (eitherField? value "deployedBytecode" "deployed_bytecode")).getD "") ∧
    (eitherField? value "gasEstimates" "gas_estimates").getD .null =
      (machine.gasEstimates.map .obj).getD .null := by
  unfold OutputMachine.read at read
  obtain ⟨fields, rfl, parts⟩ := document_eq_accepted.mp read
  obtain ⟨code, deployed, estimates, codeRead, deployedRead, estimatesRead, rfl⟩ :=
    Validation.fmap_seq_seq_eq_accepted.mp parts
  exact ⟨codeOf_of_read (defaulted_nullable_eq_accepted.mp codeRead),
    codeOf_of_read (defaultedAs_nullable_eq_accepted.mp deployedRead),
    nullable_dictionary_eq_accepted.mp (defaultedAs_nullable_eq_accepted.mp estimatesRead)⟩

/-- A contract that was read holds the printed interface and machine part. -/
theorem OutputContract.fields_of_read {contract : OutputContract}
    (read : OutputContract.read value = .accepted contract) :
    (value.field? "abi").getD (.arr []) = .arr (contract.abi.map .obj) ∧
    nullable OutputMachine.read ((value.field? "evm").getD .null) =
      .accepted contract.machine := by
  unfold OutputContract.read at read
  obtain ⟨fields, rfl, parts⟩ := document_eq_accepted.mp read
  obtain ⟨abi, machine, abiRead, machineRead, rfl⟩ := Validation.fmap_seq_eq_accepted.mp parts
  have stands : list (dictionary anything) (.arr []) = .accepted [] := rfl
  have listed := (defaulted_eq_accepted_of_standIn stands).mp abiRead
  obtain ⟨items, isList, each⟩ := list_eq_accepted.mp listed
  refine ⟨?_, defaulted_nullable_eq_accepted.mp machineRead⟩
  change (fields.lookup "abi").getD (.arr []) = .arr (abi.map .obj)
  rw [isList]
  simp only [dictionary_anything_eq_accepted] at each
  rw [← List.forall₂_map_right_iff, List.forall₂_eq_eq_eq] at each
  rw [each]

/-- What an artifact is made from is what is printed for its contract. -/
theorem OutputContract.parts_of_read {contract : OutputContract}
    (read : OutputContract.read value = .accepted contract) :
    codeOf (contract.machine.bind (·.bytecode)) =
        hexCode ((printedCode ((value.field? "evm").bind (·.field? "bytecode"))).getD "") ∧
    codeOf (contract.machine.bind (·.deployedBytecode)) =
        hexCode ((printedCode
          (printedPart value "deployedBytecode" "deployed_bytecode")).getD "") ∧
    (printedGas value).getD .null =
        ((contract.machine.bind (·.gasEstimates)).map .obj).getD .null := by
  obtain ⟨-, machineRead⟩ := OutputContract.fields_of_read read
  unfold printedGas printedPart
  rcases cases_of_nullable machineRead with ⟨none | null, same⟩ | ⟨part, machine, some, read, same⟩
  · rw [none, same]
    exact ⟨rfl, rfl, rfl⟩
  · rw [null, same]
    exact ⟨rfl, rfl, rfl⟩
  · rw [some, same]
    exact OutputMachine.fields_of_read read

end Levels

/-! ## From contracts to artifacts -/

/-- A section that is missing, null or an object has texts for its entries. -/
theorem gasSection_of_plain {estimates : List (String × Json)} {name : String}
    (plain : IsPlainSection (estimates.lookup name)) :
    ∃ told, gasSection estimates name = .ok told ∧
      IsSectionOf (estimates.lookup name) told := by
  unfold gasSection
  rcases plain with missing | isNull | ⟨entries, isObject⟩
  · rw [missing]
    exact ⟨[], rfl, .nil⟩
  · rw [isNull]
    exact ⟨[], rfl, .nil⟩
  · rw [isObject]
    cases entries with
    | nil => exact ⟨[], rfl, .nil⟩
    | cons first rest =>
        refine ⟨_, rfl, ?_⟩
        unfold IsSectionOf printedEntries
        rw [List.forall₂_map_right_iff, List.forall₂_same]
        exact fun entry _ => ⟨rfl, entry.2.display_isToldBy⟩

/-- Gas estimates with plain sections become texts. -/
theorem gasEstimates_of_plain {printed : Option Json}
    {estimates : Option (List (String × Json))}
    (read : printed.getD .null = (estimates.map .obj).getD .null)
    (creation : IsPlainSection (printed.bind (·.field? "creation")))
    (external : IsPlainSection (printed.bind (·.field? "external"))) :
    ∃ told, gasEstimates estimates = .ok told ∧
      (told = none ↔ printed = none ∨ printed = some .null ∨ printed = some (.obj [])) ∧
      ∀ texts, told = some texts →
        IsSectionOf (printed.bind (·.field? "creation")) texts.creation ∧
          IsSectionOf (printed.bind (·.field? "external")) texts.external := by
  cases estimates with
  | none =>
      refine ⟨none, rfl, ⟨fun _ => ?_, fun _ => rfl⟩, fun texts same => (by cases same)⟩
      cases printed with
      | none => exact Or.inl rfl
      | some value => exact Or.inr (Or.inl (congrArg some read))
  | some entries =>
      cases printed with
      | none => cases read
      | some value =>
          obtain rfl : value = .obj entries := read
          cases entries with
          | nil => exact ⟨none, rfl, by simp, fun texts same => (by cases same)⟩
          | cons first rest =>
              obtain ⟨created, createdFound, isCreated⟩ := gasSection_of_plain creation
              obtain ⟨called, calledFound, isCalled⟩ := gasSection_of_plain external
              refine ⟨some ⟨created, called⟩, ?_, by simp, fun texts same => ?_⟩
              · dsimp only [gasEstimates]
                rw [createdFound, calledFound]
                rfl
              · cases same
                exact ⟨isCreated, isCalled⟩

/-- A contract with plain gas estimates has an artifact, and it depicts what was printed. -/
theorem exists_depicting {entry : String × Json} {contract : OutputContract}
    (read : OutputContract.read entry.2 = .accepted contract) (plain : HasPlainGas entry.2) :
    ∃ made, artifact entry.1 contract = .ok made ∧ made.Depicts entry := by
  obtain ⟨abi, -⟩ := OutputContract.fields_of_read read
  obtain ⟨code, deployed, gas⟩ := OutputContract.parts_of_read read
  obtain ⟨told, found, unestimated, estimated⟩ :=
    gasEstimates_of_plain gas plain.creation plain.external
  refine ⟨_, by rw [artifact, found]; rfl, rfl, abi, ?_, ?_, unestimated, estimated⟩
  · rw [code]
    exact hexCode_isCodeOf _
  · rw [deployed]
    exact hexCode_isCodeOf _

/-- Contracts that were read one by one have artifacts that depict them one by one. -/
theorem exists_artifacts_depicting {entries : List (String × Json)}
    {contracts : List (String × OutputContract)}
    (read : List.Forall₂ (fun entry contract => entry.1 = contract.1 ∧
      OutputContract.read entry.2 = .accepted contract.2) entries contracts)
    (plain : ∀ entry ∈ entries, HasPlainGas entry.2) :
    ∃ made, contracts.mapM (fun entry => artifact entry.1 entry.2) = .ok made ∧
      List.Forall₂ (fun entry found => found.Depicts entry) entries made := by
  simp only [mapM_eq_ok]
  induction read with
  | nil => exact ⟨[], .nil, .nil⟩
  | @cons entry contract _ _ first _ ih =>
      obtain ⟨firstPlain, restPlain⟩ := List.forall_mem_cons.mp plain
      obtain ⟨made, found, depicts⟩ := exists_depicting first.2 firstPlain
      obtain ⟨others, othersFound, othersDepict⟩ := ih restPlain
      rw [first.1] at found
      exact ⟨made :: others, .cons found othersFound, .cons depicts othersDepict⟩

/-! ## The contracts of a file -/

/-- Where entries are related under the same names, so is what is found under a name. -/
theorem rel_lookup_of_forall₂ {α β : Type} {related : α → β → Prop}
    {first : List (String × α)} {second : List (String × β)}
    (all : List.Forall₂ (fun one two => one.1 = two.1 ∧ related one.2 two.2) first second)
    (name : String) : Option.Rel related (first.lookup name) (second.lookup name) := by
  induction all with
  | nil => exact .none
  | @cons one two _ _ alike _ ih =>
      obtain ⟨key, value⟩ := one
      obtain ⟨other, found⟩ := two
      obtain ⟨rfl, same⟩ := alike
      rw [List.lookup_cons, List.lookup_cons]
      cases name == key with
      | true => exact .some same
      | false => exact ih

/-- The contracts that were read for a file are those that were printed for it. -/
theorem forall₂_contractEntries {document : Json} {output : Output}
    (accepted : Output.read document = .accepted output) (name : String) :
    List.Forall₂ (fun entry contract => entry.1 = contract.1 ∧
      OutputContract.read entry.2 = .accepted contract.2)
      (contractEntries document name) (output.contractsOf (.str name)) := by
  unfold Output.read at accepted
  obtain ⟨fields, rfl, parts⟩ := document_eq_accepted.mp accepted
  obtain ⟨problems, contracts, -, contractsRead, rfl⟩ := Validation.fmap_seq_eq_accepted.mp parts
  have stands : dictionary (dictionary OutputContract.read) (.obj []) = .accepted [] := rfl
  obtain ⟨files, isObject, all⟩ :=
    dictionary_eq_accepted.mp ((defaulted_eq_accepted_of_standIn stands).mp contractsRead)
  have printed : (fields.lookup "contracts").bind (·.field? name) = files.lookup name := by
    cases found : fields.lookup "contracts" with
    | none =>
        rw [found] at isObject
        cases isObject
        rfl
    | some value =>
        rw [found] at isObject
        obtain rfl : value = .obj files := isObject
        rfl
  have related : Option.Rel
      (fun value contracts => dictionary OutputContract.read value = .accepted contracts)
      (files.lookup name) (contracts.lookup name) :=
    rel_lookup_of_forall₂ all name
  unfold contractEntries Output.contractsOf
  change List.Forall₂ _ (printedEntries ((fields.lookup "contracts").bind (·.field? name)))
    ((contracts.lookup name).getD [])
  rw [printed]
  generalize files.lookup name = value, contracts.lookup name = found at related ⊢
  cases related with
  | none => exact .nil
  | @some value contracts read =>
      obtain ⟨entries, rfl, each⟩ := dictionary_eq_accepted.mp read
      exact each

/-- A file holds each contract once. -/
theorem contractEntries_distinct {document : Json} (once : document.NamesOnce) (name : String) :
    ((contractEntries document name).map Prod.fst).Nodup := by
  unfold contractEntries
  cases found : (document.field? "contracts").bind (·.field? name) with
  | none => exact List.nodup_nil
  | some value =>
      obtain ⟨files, isFiles, isValue⟩ := Option.bind_eq_some_iff.mp found
      have inner := (once.field isFiles).field isValue
      cases value with
      | obj contracts => exact inner.names
      | _ => exact List.nodup_nil

/-- Where no entry is called an error, no problem is. -/
theorem errorProblems_eq_nil {document : Json} {output : Output}
    (accepted : Output.read document = .accepted output)
    (clean : ∀ entry ∈ problemEntries document, entry.field? "severity" ≠ some (.str "error")) :
    output.errorProblems = [] := by
  refine List.filter_eq_nil_iff.mpr fun problem member isError => ?_
  obtain ⟨entry, printed, read⟩ := exists_of_forall₂ (forall₂_problemEntries accepted) member
  obtain ⟨severity, written, called⟩ := (carries_of_read read).severity
  rw [gravity_diagnostic_iff] at called
  obtain rfl := called.mp (beq_iff_eq.mp isError)
  exact clean entry printed written

/-- **Artifacts are an image of the printed output.** When the run for a single file prints a
document of output that tells no error and whose gas estimates have plain sections, there is a
result. Its artifacts depict the contracts of that file, one by one and in the printed order, under
names that differ. -/
theorem compile_depicts {settings : Settings} {compiler : Invocation → RunOutcome}
    {source name text : String} {document : Json} {output : Output}
    (single : importsPackages source = false)
    (printed : (compiler (invocation settings source name)).Prints text)
    (read : Json.read text = .ok document) (accepted : Output.read document = .accepted output)
    (clean : ∀ entry ∈ problemEntries document, entry.field? "severity" ≠ some (.str "error"))
    (plain : ∀ entry ∈ contractEntries document name, HasPlainGas entry.2) :
    ∃ result, (compile settings compiler source (.ofText name)).value = .ok result ∧
      List.Forall₂ (fun entry artifact => artifact.Depicts entry)
        (contractEntries document name) result.contracts ∧
      (result.contracts.map (·.contractName)).Nodup := by
  have gives : (compiler (invocation settings source name)).Gives output :=
    ⟨text, document, printed, read, accepted⟩
  obtain ⟨artifacts, made, depict⟩ :=
    exists_artifacts_depicting (forall₂_contractEntries accepted name) plain
  have names : artifacts.map (·.contractName) = (contractEntries document name).map Prod.fst := by
    rw [← List.forall₂_eq_eq_eq, List.forall₂_map_left_iff, List.forall₂_map_right_iff]
    exact depict.flip.imp fun _ _ same => same.name
  have answered : (compile settings compiler source (.ofText name)).value = .ok {
      success := !artifacts.isEmpty
      contracts := artifacts
      warnings := output.otherProblems.map (·.diagnostic) } := by
    rw [value_compile_of_gives single gives,
      value_resultOf_of_no_errors (errorProblems_eq_nil accepted clean)]
    simp only [Argument.ofText, made]
  refine ⟨_, answered, depict, ?_⟩
  rw [names]
  exact contractEntries_distinct (Json.read_namesOnce read) name

section Estimated

/-- A contract with gas estimates under a name. -/
def estimatedContract (field : String) : Json :=
  .obj [("abi", .arr []), ("evm", .obj [(field, .obj [("creation", .obj [("a", .str "1")])])])]

/-- A document with a contract that has gas estimates under a name. -/
def estimatedDocument (field : String) : Json :=
  .obj [("contracts", .obj [("Contract.sol", .obj [("A", estimatedContract field)])])]

/-- A compilation whose run prints this document. -/
def estimatedCompilation (field : String) : Traced (Except Breakdown Result) :=
  compile .standard (fun _ => .finished (estimatedDocument field).render none 0) "contract A {}"
    (.ofText "Contract.sol")

/-- The document reads back as it was written. -/
theorem read_estimatedDocument (field : String) :
    Json.read (estimatedDocument field).render = .ok (estimatedDocument field) := by
  have depth : (estimatedDocument field).depth = 8 := rfl
  have plain : (estimatedDocument field).IsPlain := by
    simp [estimatedDocument, estimatedContract, Json.IsPlain, Json.ItemsArePlain,
      Json.FieldsArePlain]
  exact Json.read_render plain (by rw [depth]; decide)

/-- The theorem at a document with estimates of the creation. -/
theorem compile_estimatedDocument_depicts :
    ∃ result, (estimatedCompilation "gasEstimates").value = .ok result ∧
      List.Forall₂ (fun entry artifact => artifact.Depicts entry)
        [("A", estimatedContract "gasEstimates")] result.contracts ∧
      (result.contracts.map (·.contractName)).Nodup := by
  have printed : (Text.trimBlanks (estimatedDocument "gasEstimates").render).isEmpty = false := by
    decide +kernel
  refine compile_depicts (by decide +kernel) ⟨none, 0, rfl, printed⟩ (read_estimatedDocument _) rfl
    (fun entry member => ?_) fun entry member => ?_
  · cases member
  · obtain rfl := List.mem_singleton.mp member
    exact ⟨Or.inr (Or.inr ⟨_, rfl⟩), Or.inl rfl⟩

/-- Estimates are also taken over from a field that goes by the name of the part of the artifact:
nothing is printed as `gasEstimates` here. -/
theorem estimated_under_other_name :
    Json.read (estimatedDocument "gas_estimates").render =
      .ok (estimatedDocument "gas_estimates") ∧
    (∃ output, Output.read (estimatedDocument "gas_estimates") = .accepted output) ∧
    problemEntries (estimatedDocument "gas_estimates") = [] ∧
    contractEntries (estimatedDocument "gas_estimates") "Contract.sol" =
      [("A", estimatedContract "gas_estimates")] ∧
    ((estimatedContract "gas_estimates").field? "evm").bind (·.field? "gasEstimates") = none ∧
    ∃ result, (estimatedCompilation "gas_estimates").value = .ok result ∧
      result.contracts.map (·.gasEstimates) = [some ⟨[("a", "1")], []⟩] := by
  refine ⟨read_estimatedDocument _, ⟨_, rfl⟩, rfl, rfl, rfl, ?_⟩
  have told : (estimatedCompilation "gas_estimates").value.map
      (fun result => result.contracts.map (·.gasEstimates)) =
        .ok [some ⟨[("a", "1")], []⟩] := by
    decide +kernel
  cases returned : (estimatedCompilation "gas_estimates").value with
  | error breakdown =>
      rw [returned] at told
      cases told
  | ok result =>
      rw [returned] at told
      exact ⟨result, rfl, Except.ok.inj told⟩

end Estimated

end Soliscope.Compiler
