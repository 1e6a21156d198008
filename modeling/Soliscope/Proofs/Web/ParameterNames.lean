import Mathlib.Data.List.Nodup
import Soliscope.Proofs.Web.Interfaces

/-! # Parameter names in Python

Three renamings meet in the parameters of a Python method: the object itself is called `self`, an
input without a name goes by its position, and a keyword gets an underscore. No name that comes out
is a keyword. That they are all different does not follow from different inputs: an input may have a
name that one of the renamings makes (`AbiEntry.Collides`), and then, and only then, a method has
two parameters of one name (`AbiEntry.nodup_parameters_iff`).
-/

namespace Soliscope.Web

open Schema Abi

/-- The inputs that have names have different names. -/
def AbiEntry.HasDistinctInputs (entry : AbiEntry) : Prop :=
  ((entry.inputs.map (·.name)).filter (· ≠ "")).Nodup

/-- **An input has a name that a renaming makes for another parameter.** -/
inductive AbiEntry.Collides (entry : AbiEntry) : Prop where
  /-- It is called like the object itself. -/
  | receiver (named : AbiParameter) (member : named ∈ entry.inputs) (same : named.name = "self")
  /-- It is called by the position of an input without a name. -/
  | position (unnamed named : AbiParameter) (position : Nat)
      (place : entry.inputs[position]? = some unnamed) (nameless : unnamed.name = "")
      (member : named ∈ entry.inputs) (same : named.name = positionName position)
  /-- It is called like an input that is a keyword, with an underscore. -/
  | keyword (reserved named : AbiParameter) (within : reserved ∈ entry.inputs)
      (isKeyword : reserved.name ∈ pythonKeywords) (member : named ∈ entry.inputs)
      (same : named.name = reserved.name ++ "_")

/-- The name of an input in Python. -/
def AbiParameter.written (input : AbiParameter × Nat) : String :=
  Language.python.spelled (input.1.nameAt input.2)

/-- The ways in which an input comes to its name in Python. -/
inductive AbiParameter.Spelling (input : AbiParameter × Nat) : Prop where
  | position (nameless : input.1.name = "") (same : written input = positionName input.2)
  | keyword (isKeyword : input.1.name ∈ pythonKeywords) (same : written input = input.1.name ++ "_")
  | own (named : input.1.name ≠ "") (same : written input = input.1.name)

section Inputs

variable {input other : AbiParameter × Nat} {entry : AbiEntry}

/-- A parameter without a name is called after its position. -/
theorem AbiParameter.written_of_nameless (nameless : input.1.name = "") :
    written input = positionName input.2 := by
  rw [written, nameAt, if_pos nameless]
  exact spelled_of_notMem (positionName_notMem_pythonKeywords input.2)

/-- Any other name is spelled as the language needs it. -/
theorem AbiParameter.written_of_named (named : input.1.name ≠ "") :
    written input = Language.python.spelled input.1.name := by
  rw [written, nameAt, if_neg named]

theorem empty_notMem_pythonKeywords : "" ∉ pythonKeywords := by
  decide

/-- A keyword is given an underscore. -/
theorem AbiParameter.written_of_keyword (isKeyword : input.1.name ∈ pythonKeywords) :
    written input = input.1.name ++ "_" := by
  have named : input.1.name ≠ "" := by
    intro nameless
    exact empty_notMem_pythonKeywords (nameless ▸ isKeyword)
  rw [written_of_named named, spelled_of_mem isKeyword]

/-- A name that is no keyword stays as it is. -/
theorem AbiParameter.written_of_free (named : input.1.name ≠ "")
    (free : input.1.name ∉ pythonKeywords) : written input = input.1.name := by
  rw [written_of_named named, spelled_of_notMem free]

/-- There is no fourth way to a name. -/
theorem AbiParameter.spelling (input : AbiParameter × Nat) : Spelling input := by
  by_cases nameless : input.1.name = ""
  · exact .position nameless (written_of_nameless nameless)
  by_cases isKeyword : input.1.name ∈ pythonKeywords
  · exact .keyword isKeyword (written_of_keyword isKeyword)
  · exact .own nameless (written_of_free nameless isKeyword)

/-- Inputs at two positions are two, even if they are equal. -/
theorem nodup_zipIdx (inputs : List AbiParameter) : inputs.zipIdx.Nodup := by
  apply List.Nodup.of_map Prod.snd
  rw [List.zipIdx_map_snd]
  exact List.nodup_range'

/-- Inputs of one name are one input. -/
theorem AbiEntry.HasDistinctInputs.eq_of_name_eq (distinct : entry.HasDistinctInputs)
    (member : input ∈ entry.inputs.zipIdx) (otherMember : other ∈ entry.inputs.zipIdx)
    (named : input.1.name ≠ "") (same : input.1.name = other.1.name) : input = other := by
  have listed : (entry.inputs.map (·.name)).filter (· ≠ "") =
      (entry.inputs.zipIdx.filter fun place => place.1.name ≠ "").map
        fun place => place.1.name := by
    have places := List.zipIdx_map_fst 0 entry.inputs
    rw [← places, List.map_map, List.filter_map, places]
    rfl
  have unique : ((entry.inputs.zipIdx.filter fun place => place.1.name ≠ "").map
      fun place => place.1.name).Nodup := listed ▸ distinct
  apply List.inj_on_of_nodup_map unique
  · exact List.mem_filter.mpr ⟨member, decide_eq_true named⟩
  · exact List.mem_filter.mpr ⟨otherMember, decide_eq_true (same ▸ named)⟩
  · exact same

/-- One position holds one input. -/
theorem eq_of_position_eq (member : input ∈ entry.inputs.zipIdx)
    (otherMember : other ∈ entry.inputs.zipIdx) (same : input.2 = other.2) : input = other := by
  have place := List.mem_zipIdx_iff_getElem?.mp member
  have otherPlace := List.mem_zipIdx_iff_getElem?.mp otherMember
  rw [same, otherPlace] at place
  exact Prod.ext (Option.some.inj place).symm same

/-- Where a renaming makes a name that is there, the input with this name collides. -/
theorem AbiEntry.collides_of_position (within : input ∈ entry.inputs.zipIdx)
    (nameless : input.1.name = "") (member : other ∈ entry.inputs.zipIdx)
    (same : other.1.name = positionName input.2) : entry.Collides :=
  .position input.1 other.1 input.2 (List.mem_zipIdx_iff_getElem?.mp within) nameless
    (List.fst_mem_of_mem_zipIdx member) same

/-- A keyword and the same word with an underscore are one name in the end. -/
theorem AbiEntry.collides_of_keyword (within : input ∈ entry.inputs.zipIdx)
    (isKeyword : input.1.name ∈ pythonKeywords) (member : other ∈ entry.inputs.zipIdx)
    (same : other.1.name = input.1.name ++ "_") : entry.Collides :=
  .keyword input.1 other.1 (List.fst_mem_of_mem_zipIdx within) isKeyword
    (List.fst_mem_of_mem_zipIdx member) same

/-- Inputs that are written alike are one input, unless a renaming makes a name that is there. -/
theorem AbiEntry.HasDistinctInputs.eq_of_written_eq (distinct : entry.HasDistinctInputs)
    (free : ¬ entry.Collides) (member : input ∈ entry.inputs.zipIdx)
    (otherMember : other ∈ entry.inputs.zipIdx)
    (alike : AbiParameter.written input = AbiParameter.written other) : input = other := by
  -- One renaming makes the same name of the same input only, and the two make different names.
  cases AbiParameter.spelling input with
  | position nameless same =>
      rw [same] at alike
      cases AbiParameter.spelling other with
      | position _ otherSame =>
          exact eq_of_position_eq member otherMember (positionName_inj (alike.trans otherSame))
      | keyword otherKeyword otherSame =>
          exact ((positionName_ne_keyword otherKeyword _).2 (alike.trans otherSame)).elim
      | own _ otherSame =>
          have found := (alike.trans otherSame).symm
          exact (free (collides_of_position member nameless otherMember found)).elim
  | keyword isKeyword same =>
      rw [same] at alike
      cases AbiParameter.spelling other with
      | position _ otherSame =>
          exact ((positionName_ne_keyword isKeyword _).2 (alike.trans otherSame).symm).elim
      | keyword _ otherSame =>
          have named : input.1.name ≠ "" := fun nameless =>
            empty_notMem_pythonKeywords (nameless ▸ isKeyword)
          have sameName := (String.append_left_inj "_").mp (alike.trans otherSame)
          exact distinct.eq_of_name_eq member otherMember named sameName
      | own _ otherSame =>
          have found := (alike.trans otherSame).symm
          exact (free (collides_of_keyword member isKeyword otherMember found)).elim
  | own named same =>
      rw [same] at alike
      cases AbiParameter.spelling other with
      | position otherNameless otherSame =>
          have found := alike.trans otherSame
          exact (free (collides_of_position otherMember otherNameless member found)).elim
      | keyword otherKeyword otherSame =>
          have found := alike.trans otherSame
          exact (free (collides_of_keyword otherMember otherKeyword member found)).elim
      | own _ otherSame =>
          exact distinct.eq_of_name_eq member otherMember named (alike.trans otherSame)

/-- No renaming makes the name of the object itself. -/
theorem AbiParameter.written_eq_self_iff : written input = "self" ↔ input.1.name = "self" := by
  constructor
  · intro isSelf
    cases spelling input with
    | position _ same => exact (positionName_ne rfl _ (same.symm.trans isSelf)).elim
    | keyword isKeyword same =>
        have apart : ∀ keyword ∈ pythonKeywords, keyword ++ "_" ≠ "self" := by
          decide
        exact (apart _ isKeyword (same.symm.trans isSelf)).elim
    | own _ same => exact same.symm.trans isSelf
  · intro isSelf
    have named : input.1.name ≠ "" := by
      rw [isSelf]
      decide
    rw [written_of_free named (isSelf ▸ self_notMem_pythonKeywords), isSelf]

/-- The names in a signature are `self` and those of the inputs in their order. -/
theorem AbiEntry.map_fst_parameters (entry : AbiEntry) :
    (entry.signature .python).parameters.map Prod.fst =
      "self" :: entry.inputs.zipIdx.map AbiParameter.written := by
  simp only [signature, Language.receiver, List.map_map, List.map_cons, List.map_nil,
    List.singleton_append, List.cons.injEq, true_and]
  exact List.map_congr_left fun _ _ => rfl

/-- An input that collides makes two parameters of one name. -/
theorem AbiEntry.Collides.not_nodup (collides : entry.Collides) :
    ¬ ((entry.signature .python).parameters.map Prod.fst).Nodup := by
  rw [entry.map_fst_parameters, List.nodup_cons,
    List.nodup_map_iff_inj_on (nodup_zipIdx entry.inputs)]
  rintro ⟨noSelf, apart⟩
  cases collides with
  | receiver named member same =>
      obtain ⟨position, within⟩ := exists_mem_zipIdx member
      exact noSelf (List.mem_map.mpr ⟨_, within, AbiParameter.written_eq_self_iff.mpr same⟩)
  | position unnamed named position place nameless member same =>
      obtain ⟨other, within⟩ := exists_mem_zipIdx member
      have isNamed : named.name ≠ "" := same ▸ positionName_ne rfl position
      have written : AbiParameter.written (named, other) = positionName position := by
        rw [AbiParameter.written_of_free isNamed
          (same ▸ positionName_notMem_pythonKeywords position), same]
      have one := apart _ (List.mk_mem_zipIdx_iff_getElem?.mpr place) _ within
        ((AbiParameter.written_of_nameless nameless).trans written.symm)
      cases one
      exact isNamed nameless
  | keyword reserved named within isKeyword member same =>
      obtain ⟨position, place⟩ := exists_mem_zipIdx within
      obtain ⟨other, otherPlace⟩ := exists_mem_zipIdx member
      have isFree : named.name ∉ pythonKeywords := same ▸ append_underscore_notMem isKeyword
      have isNamed : named.name ≠ "" := by
        simp [same]
      have written : AbiParameter.written (named, other) = reserved.name ++ "_" := by
        rw [AbiParameter.written_of_free isNamed isFree, same]
      have one := apart _ place _ otherPlace
        ((AbiParameter.written_of_keyword isKeyword).trans written.symm)
      cases one
      exact isFree isKeyword

/-- **The parameters of a method in Python have different names if the inputs do, unless one of them
has a name that a renaming makes.** -/
theorem AbiEntry.nodup_parameters_iff (distinct : entry.HasDistinctInputs) :
    ((entry.signature .python).parameters.map Prod.fst).Nodup ↔ ¬ entry.Collides := by
  constructor
  · intro nodup collides
    exact collides.not_nodup nodup
  · intro free
    rw [entry.map_fst_parameters, List.nodup_cons,
      List.nodup_map_iff_inj_on (nodup_zipIdx entry.inputs)]
    constructor
    · intro isSelf
      obtain ⟨input, member, written⟩ := List.mem_map.mp isSelf
      exact free (.receiver input.1 (List.fst_mem_of_mem_zipIdx member)
        (AbiParameter.written_eq_self_iff.mp written))
    · intro input member other otherMember alike
      exact distinct.eq_of_written_eq free member otherMember alike

/-- No parameter is called by a keyword. -/
theorem AbiEntry.parameter_notMem_pythonKeywords (entry : AbiEntry) :
    ∀ parameter ∈ (entry.signature .python).parameters, parameter.1 ∉ pythonKeywords := by
  intro parameter member
  have named : parameter.1 ∈ (entry.signature .python).parameters.map Prod.fst :=
    List.mem_map_of_mem member
  rw [entry.map_fst_parameters] at named
  rcases List.mem_cons.mp named with isSelf | isInput
  · rw [isSelf]
    exact self_notMem_pythonKeywords
  · obtain ⟨input, -, written⟩ := List.mem_map.mp isInput
    rw [← written]
    exact spelled_notMem_pythonKeywords _

end Inputs

/-- The route answers a shallow document with an interface of all its functions. -/
theorem exists_answer {document : Json} {types : TypesRequest}
    (posts : (Request.posting "/api/analysis/types" document).Posts "/api/analysis/types" document)
    (accepted : TypesRequest.read .request document = .accepted types)
    (shallow : types.IsShallow routeCalls) : ∃ source,
      (handle (.compiling .notFound) (.posting "/api/analysis/types" document)).value.body =
        .json (.obj [("source", .str source)]) ∧
      IsInterface types.language types.contractName
        (types.functions.map (·.signature types.language)) source := by
  obtain ⟨source, generated, isInterface⟩ :=
    TypesRequest.exists_isInterface (TypesRequest.isProper_of_read accepted) shallow
  exact ⟨source, congrArg Response.body (handle_post_types posts accepted generated), isInterface⟩

/-- **The names in a Python interface that is answered.** None of them is a keyword, and where the
inputs have different names, the parameters do exactly if no input has a name that a renaming
makes. -/
theorem python_names {context : Context} {request : Request} {document : Json}
    {types : TypesRequest} {source : String}
    (posts : request.Posts "/api/analysis/types" document)
    (accepted : TypesRequest.read .request document = .accepted types)
    (python : types.language = .python)
    (answered : (handle context request).value.body = .json (.obj [("source", .str source)])) :
    IsInterface .python types.contractName (types.functions.map (·.signature .python)) source ∧
    ∀ entry ∈ types.functions,
      (entry.signature .python).name ∉ pythonKeywords ∧
      (∀ parameter ∈ (entry.signature .python).parameters, parameter.1 ∉ pythonKeywords) ∧
      (entry.HasDistinctInputs →
        (((entry.signature .python).parameters.map Prod.fst).Nodup ↔ ¬ entry.Collides)) := by
  have generated := generated_of_answered posts accepted answered
  obtain ⟨found, same, isInterface⟩ := TypesRequest.exists_isInterface
    (TypesRequest.isProper_of_read accepted) (TypesRequest.isShallow_of_generated generated)
  obtain rfl := Except.ok.inj (generated.symm.trans same)
  refine ⟨python ▸ isInterface, ?_⟩
  intro entry _
  exact ⟨spelled_notMem_pythonKeywords _, entry.parameter_notMem_pythonKeywords,
    AbiEntry.nodup_parameters_iff⟩

/-- The theorem at an ABI with all kinds of names. -/
theorem token_names : ∃ source,
    (handle (.compiling .notFound) (.posting "/api/analysis/types" tokenDocument)).value.body =
      .json (.obj [("source", .str source)]) ∧
    IsInterface .python "Token" (tokenTypes.functions.map (·.signature .python)) source ∧
    ∀ entry ∈ tokenTypes.functions,
      (entry.signature .python).name ∉ pythonKeywords ∧ ¬ entry.Collides := by
  obtain ⟨source, answered, -⟩ := exists_answer posts_token read_token isShallow_token
  obtain ⟨isInterface, names⟩ := python_names posts_token read_token rfl answered
  have distinct : ∀ entry ∈ tokenTypes.functions, entry.HasDistinctInputs := by
    unfold AbiEntry.HasDistinctInputs
    decide +kernel
  have nodup : ∀ entry ∈ tokenTypes.functions,
      ((entry.signature .python).parameters.map Prod.fst).Nodup := by
    decide +kernel
  refine ⟨source, answered, isInterface, ?_⟩
  intro entry member
  obtain ⟨free, -, unique⟩ := names entry member
  exact ⟨free, (unique (distinct entry member)).mp (nodup entry member)⟩

/-- A document with a function that takes an input called `self`. -/
def selfDocument : Json :=
  .obj [("contract_name", .str "Token"), ("abi", .arr [.obj [("name", .str "f"),
    ("inputs", .arr [.obj [("name", .str "self"), ("type", .str "uint256")]])]]),
    ("language", .str "python")]

/-- What the document asks for. -/
def selfTypes : TypesRequest where
  contractName := "Token"
  language := .python
  abi := [⟨"function", some "f", [⟨"self", "uint256", []⟩], [], []⟩]

/-- An input called `self` is accepted, and the method gets two parameters of this name. -/
theorem self_twice :
    TypesRequest.read .request selfDocument = .accepted selfTypes ∧
    (∀ entry ∈ selfTypes.functions, entry.HasDistinctInputs) ∧
    ∃ source,
      (handle (.compiling .notFound) (.posting "/api/analysis/types" selfDocument)).value.body =
        .json (.obj [("source", .str source)]) ∧
      IsInterface .python "Token" (selfTypes.functions.map (·.signature .python)) source ∧
      ¬ ∀ entry ∈ selfTypes.functions,
        ((entry.signature .python).parameters.map Prod.fst).Nodup := by
  have accepted : TypesRequest.read .request selfDocument = .accepted selfTypes := rfl
  have plain : selfDocument.IsPlain := by
    simp [selfDocument, Json.IsPlain, Json.FieldsArePlain, Json.ItemsArePlain]
  have posts : (Request.posting "/api/analysis/types" selfDocument).Posts "/api/analysis/types"
      selfDocument := by
    apply Request.posts_posting plain <;> decide +kernel
  have shallow : selfTypes.IsShallow routeCalls := by
    unfold TypesRequest.IsShallow
    decide +kernel
  obtain ⟨source, answered, isInterface⟩ := exists_answer posts accepted shallow
  refine ⟨accepted, ?_, source, answered, isInterface, ?_⟩
  · unfold AbiEntry.HasDistinctInputs
    decide +kernel
  · decide +kernel

end Soliscope.Web
