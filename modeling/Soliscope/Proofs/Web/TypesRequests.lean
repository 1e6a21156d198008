import Soliscope.Proofs.Abi.Interfaces
import Soliscope.Proofs.Abi.Spelling
import Soliscope.Proofs.Abi.Writable
import Soliscope.Proofs.Outcomes
import Soliscope.Proofs.Schema.Acceptance
import Soliscope.Web.RequestDocuments

/-! # What requests for interfaces ask for

A request for an interface that is accepted names the contract and its functions by identifiers, and
each input by an identifier or not at all (`IsProper`). Written as a document again, it is taken
apart without a fault exactly if no type has too many array suffixes (`IsShallow`), and what is
written is the interface of the contract with the signatures that the request asks for
(`TypesRequest.exists_isInterface`).
-/

namespace Soliscope.Web

open Schema

/-- The name that an input goes by: its own, or one made from its position. -/
def AbiParameter.nameAt (parameter : AbiParameter) (position : Nat) : String :=
  if parameter.name = "" then Abi.positionName position else parameter.name

/-- The signature that an entry asks for. -/
def AbiEntry.signature (language : Abi.Language) (entry : AbiEntry) : Abi.Signature where
  name := language.spelled (entry.name.getD "")
  parameters := language.receiver.map (fun name => (name, none)) ++
    entry.inputs.zipIdx.map fun (input, position) =>
      (language.spelled (input.nameAt position), some (language.typeName input.type))
  results := entry.outputs.map fun output => language.typeName output.type

/-- The entries for functions, in order. -/
def TypesRequest.functions (types : TypesRequest) : List AbiEntry :=
  types.abi.filter fun entry => entry.type == functionType

/-- No type in an entry has too many array suffixes for the calls that are under way where it is
written. -/
structure AbiEntry.IsShallow (language : Abi.Language) (calls : Nat) (entry : AbiEntry) : Prop where
  inputs : ∀ input ∈ entry.inputs,
    Abi.arrayDepth input.type < Abi.depthLimit (calls + language.callsAround .input)
  outputs : ∀ output ∈ entry.outputs,
    Abi.arrayDepth output.type < Abi.depthLimit (calls + language.callsAround .output)

instance (language : Abi.Language) (calls : Nat) (entry : AbiEntry) :
    Decidable (entry.IsShallow language calls) :=
  decidable_of_iff
    ((∀ input ∈ entry.inputs,
        Abi.arrayDepth input.type < Abi.depthLimit (calls + language.callsAround .input)) ∧
      ∀ output ∈ entry.outputs,
        Abi.arrayDepth output.type < Abi.depthLimit (calls + language.callsAround .output))
    ⟨fun ⟨inputs, outputs⟩ => ⟨inputs, outputs⟩, fun shallow => ⟨shallow.inputs, shallow.outputs⟩⟩

/-- No type of a function has too many array suffixes. -/
def TypesRequest.IsShallow (calls : Nat) (types : TypesRequest) : Prop :=
  ∀ entry ∈ types.functions, entry.IsShallow types.language calls

/-- The names in an entry are identifiers. An input may have none. -/
structure AbiEntry.IsProper (entry : AbiEntry) : Prop where
  inputs : ∀ input ∈ entry.inputs,
    input.name = "" ∨ Text.isIdentifier input.name.toList = true
  name : entry.type = functionType →
    ∃ name, entry.name = some name ∧ Text.isIdentifier name.toList = true

/-- All names in a request are identifiers. -/
structure TypesRequest.IsProper (types : TypesRequest) : Prop where
  contractName : Text.isIdentifier types.contractName.toList = true
  abi : ∀ entry ∈ types.abi, entry.IsProper

section Acceptance

/-- An accepted parameter has no name or an identifier. -/
theorem AbiParameter.isProper_of_read {origin : Origin} {value : Json} {parameter : AbiParameter}
    (accepted : AbiParameter.read origin value = .accepted parameter) :
    parameter.name = "" ∨ Text.isIdentifier parameter.name.toList = true := by
  obtain ⟨fields, -, read⟩ := document_eq_accepted.mp accepted
  simp only [Validation.seq_eq_accepted, Validation.fmap_eq_accepted] at read
  obtain ⟨_, others, ⟨_, type, ⟨name, named, rfl⟩, -, rfl⟩, -, rfl⟩ := read
  rcases defaulted_eq_accepted.mp named with ⟨-, unnamed⟩ | ⟨written, -, limited⟩
  · exact Or.inl unnamed.symm
  · have form := flaw?_eq_none_of_form.mp (limitedText_eq_accepted.mp limited).2
    rcases Bool.or_eq_true_iff.mp form with isEmpty | identifier
    · exact Or.inl (String.toList_eq_nil_iff.mp (List.isEmpty_iff.mp isEmpty))
    · exact Or.inr identifier

theorem AbiParameter.isProper_of_mem {origin : Origin} {name : String} {fields : Fields}
    {parameters : List AbiParameter}
    (accepted : defaulted name [] (list (AbiParameter.read origin)) fields = .accepted parameters) :
    ∀ parameter ∈ parameters,
      parameter.name = "" ∨ Text.isIdentifier parameter.name.toList = true := by
  intro parameter member
  rcases defaulted_eq_accepted.mp accepted with ⟨-, rfl⟩ | ⟨value, -, isList⟩
  · cases member
  · obtain ⟨item, read⟩ := exists_of_mem_list isList member
    exact isProper_of_read read

/-- A function without a name is not complete. -/
theorem AbiEntry.exists_name_of_isComplete {entry : AbiEntry} (complete : entry.isComplete = true)
    (isFunction : entry.type = functionType) : ∃ name, entry.name = some name := by
  cases name : entry.name with
  | some given => exact ⟨given, rfl⟩
  | none => simp [isComplete, isFunction, name] at complete

/-- An accepted entry has proper names throughout. -/
theorem AbiEntry.isProper_of_read {origin : Origin} {value : Json} {entry : AbiEntry}
    (accepted : AbiEntry.read origin value = .accepted entry) : entry.IsProper := by
  obtain ⟨fields, -, read⟩ := document_eq_accepted.mp accepted
  obtain ⟨found, parts, checked⟩ := Validation.andThen_eq_accepted.mp read
  by_cases complete : found.isComplete = true
  · rw [if_pos complete, Validation.accepted_inj] at checked
    subst checked
    simp only [Validation.seq_eq_accepted, Validation.fmap_eq_accepted] at parts
    obtain ⟨_, others, ⟨_, outputs, ⟨_, inputs, ⟨_, name, ⟨type, -, rfl⟩, named, rfl⟩, given, rfl⟩,
      -, rfl⟩, -, rfl⟩ := parts
    refine ⟨AbiParameter.isProper_of_mem given, ?_⟩
    intro isFunction
    obtain ⟨written, rfl⟩ : ∃ written, name = some written :=
      exists_name_of_isComplete complete isFunction
    refine ⟨written, rfl, ?_⟩
    rcases defaulted_eq_accepted.mp named with ⟨-, missing⟩ | ⟨field, -, isName⟩
    · cases missing
    rcases nullable_eq_accepted.mp isName with ⟨-, missing⟩ | ⟨-, inner, limited, same⟩
    · cases missing
    cases same
    exact flaw?_eq_none_of_form.mp (limitedText_eq_accepted.mp limited).2
  · rw [if_neg complete] at checked
    exact absurd checked Validation.flawed_ne_accepted

/-- **What is accepted names everything by identifiers.** -/
theorem TypesRequest.isProper_of_read {origin : Origin} {value : Json} {types : TypesRequest}
    (accepted : TypesRequest.read origin value = .accepted types) : types.IsProper := by
  obtain ⟨fields, -, read⟩ := document_eq_accepted.mp accepted
  simp only [Validation.seq_eq_accepted, Validation.fmap_eq_accepted] at read
  obtain ⟨_, language, ⟨_, abi, ⟨contractName, named, rfl⟩, given, rfl⟩, -, rfl⟩ := read
  obtain ⟨name, -, limited⟩ := required_eq_accepted.mp named
  obtain ⟨entries, -, isList⟩ := required_eq_accepted.mp given
  constructor
  · exact flaw?_eq_none_of_form.mp (limitedText_eq_accepted.mp limited).2
  · intro entry member
    obtain ⟨item, read⟩ := exists_of_mem_list isList member
    exact AbiEntry.isProper_of_read read

end Acceptance

section Generation

/-- The fields of an input or output as a document. -/
def AbiParameter.fields (parameter : AbiParameter) : Fields :=
  [("name", .str parameter.name), ("type", .str parameter.type)] ++ parameter.others

/-- The fields of an entry as a document. -/
def AbiEntry.fields (entry : AbiEntry) : Fields :=
  [("type", .str entry.type), ("name", Json.ofText? entry.name),
    ("inputs", .arr (entry.inputs.map (·.toJson))),
    ("outputs", .arr (entry.outputs.map (·.toJson)))] ++ entry.others

/-- The method that an entry asks for. -/
def AbiEntry.method (language : Abi.Language) (entry : AbiEntry) : Abi.Method where
  name := language.spelled (entry.name.getD "")
  parameters := entry.inputs.zipIdx.map fun (input, position) =>
    ⟨language.spelled (input.nameAt position), language.typeName input.type⟩
  results := entry.outputs.map fun output => language.typeName output.type

/-- The signature of the method read for an entry is the one promised for it. -/
theorem AbiEntry.signature_method (language : Abi.Language) (entry : AbiEntry) :
    (entry.method language).signature language = entry.signature language := by
  simp only [Abi.Method.signature, method, signature, List.map_map, Function.comp_def]

variable {language : Abi.Language} {calls : Nat}

/-- A list in a field is taken item by item, also when it is empty. -/
theorem fieldItems_arr {fields : Fields} {name : String} {items : List Json}
    (found : fields.lookup name = some (.arr items)) : Abi.fieldItems fields name = .ok items := by
  rw [Abi.fieldItems, found]
  cases items <;> rfl

/-- The type of a shallow parameter is found in its fields. -/
theorem AbiParameter.typeOf_fields {parameter : AbiParameter}
    (shallow : Abi.arrayDepth parameter.type < Abi.depthLimit calls) :
    Abi.typeOf language calls parameter.fields = .ok (language.typeName parameter.type) := by
  have found : parameter.fields.lookup "type" = some (.str parameter.type) := rfl
  rw [Abi.typeOf, Abi.neededField, found]
  exact if_neg (Nat.not_le.mpr shallow)

theorem AbiParameter.parameterName_fields (parameter : AbiParameter) (position : Nat) :
    Abi.parameterName parameter.fields position = .str (parameter.nameAt position) := by
  have found : parameter.fields.lookup "name" = some (.str parameter.name) := rfl
  rw [Abi.parameterName, found, nameAt]
  by_cases unnamed : parameter.name = ""
  · rw [if_pos unnamed, unnamed]
    rfl
  · have given : (Json.str parameter.name).isTruthy = true := by
      simpa [Json.isTruthy] using unnamed
    rw [if_neg unnamed]
    exact if_pos given

/-- A shallow parameter is read back from what stands for it in a document. -/
theorem AbiParameter.ofJson_toJson {parameter : AbiParameter} (position : Nat)
    (shallow : Abi.arrayDepth parameter.type <
      Abi.depthLimit (calls + language.callsAround .input)) :
    Abi.Parameter.ofJson language calls position parameter.toJson =
      .ok ⟨language.spelled (parameter.nameAt position), language.typeName parameter.type⟩ := by
  have taken : Abi.fieldsOf parameter.toJson = .ok parameter.fields := rfl
  simp only [Abi.Parameter.ofJson, bind_eq_ok, taken]
  refine ⟨_, rfl, ?_⟩
  rw [parameter.parameterName_fields]
  exact ⟨_, language.identifier_str _, _, typeOf_fields shallow, rfl⟩

section Entries

variable {entry : AbiEntry}

/-- The inputs of an entry are those in its fields. -/
theorem AbiEntry.fieldItems_inputs (entry : AbiEntry) :
    Abi.fieldItems entry.fields "inputs" = .ok (entry.inputs.map (·.toJson)) :=
  fieldItems_arr rfl

theorem AbiEntry.fieldItems_outputs (entry : AbiEntry) :
    Abi.fieldItems entry.fields "outputs" = .ok (entry.outputs.map (·.toJson)) :=
  fieldItems_arr rfl

/-- A proper entry without too deep types becomes the method that it asks for. -/
theorem AbiEntry.ofEntry_fields (proper : entry.IsProper) (isFunction : entry.type = functionType)
    (shallow : entry.IsShallow language calls) :
    Abi.Method.ofEntry language calls entry.fields = .ok (entry.method language) := by
  obtain ⟨name, named, -⟩ := proper.name isFunction
  have given : Abi.neededField entry.fields "name" = .ok (.str name) := by
    have found : entry.fields.lookup "name" = some (Json.ofText? entry.name) := rfl
    rw [Abi.neededField, found, named]
    rfl
  have parameters : ((entry.inputs.map (·.toJson)).zipIdx.mapM fun place =>
      Abi.Parameter.ofJson language calls place.2 place.1) =
        .ok (entry.method language).parameters := by
    rw [List.zipIdx_map]
    apply mapM_map_eq_ok
    rintro ⟨input, position⟩ member
    apply AbiParameter.ofJson_toJson
    exact shallow.inputs input (List.fst_mem_of_mem_zipIdx member)
  have results : (entry.outputs.map (·.toJson)).mapM (Abi.resultType language calls) =
      .ok (entry.method language).results := by
    apply mapM_map_eq_ok
    intro output member
    exact AbiParameter.typeOf_fields (shallow.outputs output member)
  simp only [Abi.Method.ofEntry, bind_eq_ok]
  refine ⟨_, entry.fieldItems_inputs, _, parameters, _, entry.fieldItems_outputs, _, results, _,
    given, _, language.identifier_str name, ?_⟩
  rw [method, named]
  rfl

/-- A parameter whose type could be written is shallow. -/
theorem AbiParameter.shallow_of_typeOf {parameter : AbiParameter} {type : String}
    (typed : Abi.typeOf language calls parameter.fields = .ok type) :
    Abi.arrayDepth parameter.type < Abi.depthLimit calls := by
  obtain ⟨_, found, shallow⟩ := Abi.exists_typeOf_iff.mp ⟨type, typed⟩
  have told : parameter.fields.lookup "type" = some (.str parameter.type) := rfl
  rw [told] at found
  cases found
  exact shallow

/-- An entry that becomes a method has no type with too many suffixes. -/
theorem AbiEntry.isShallow_of_ofEntry {method : Abi.Method}
    (made : Abi.Method.ofEntry language calls entry.fields = .ok method) :
    entry.IsShallow language calls := by
  simp only [Abi.Method.ofEntry, bind_eq_ok] at made
  obtain ⟨inputs, given, parameters, read, outputs, listed, results, typed, -⟩ := made
  obtain rfl := Except.ok.inj (entry.fieldItems_inputs.symm.trans given)
  obtain rfl := Except.ok.inj (entry.fieldItems_outputs.symm.trans listed)
  constructor
  case inputs =>
    intro input member
    obtain ⟨position, place⟩ := Abi.exists_mem_zipIdx (List.mem_map_of_mem member)
    obtain ⟨found, made⟩ := exists_mapM_iff.mp ⟨parameters, read⟩ _ place
    simp only [Abi.Parameter.ofJson, bind_eq_ok] at made
    obtain ⟨_, taken, _, _, type, told, -⟩ := made
    cases taken
    exact AbiParameter.shallow_of_typeOf told
  case outputs =>
    intro output member
    obtain ⟨type, told⟩ :=
      exists_mapM_iff.mp ⟨results, typed⟩ _ (List.mem_map_of_mem member)
    exact AbiParameter.shallow_of_typeOf told

end Entries

/-- The functions of a request are those of the ABI in its document. -/
theorem TypesRequest.functions_toJson (types : TypesRequest) :
    Abi.functions (types.abi.map (·.toJson)) = .ok (types.functions.map (·.fields)) := by
  have taken : (types.abi.map (·.toJson)).mapM Abi.fieldsOf = .ok (types.abi.map (·.fields)) :=
    mapM_map_eq_ok fun entry _ => rfl
  have selected : (types.abi.map (·.fields)).filter Abi.isFunction =
      types.functions.map (·.fields) := List.filter_map
  rw [Abi.functions, taken, ← selected]
  rfl

/-- What is generated goes by the functions of the request. -/
theorem TypesRequest.generateInterface_eq_ok {types : TypesRequest} {source : String} :
    Abi.generateInterface calls types.contractName (.arr (types.abi.map (·.toJson)))
        (.str types.language.name) = .ok source ↔
      ∃ methods, (types.functions.map (·.fields)).mapM
          (Abi.Method.ofEntry types.language calls) = .ok methods ∧
        Abi.renderInterface types.language types.contractName methods = source := by
  have known : (Json.str types.language.name).text?.bind Abi.Language.ofName? =
      some types.language := by
    cases types.language <;> decide
  simp only [Abi.generateInterface, bind_eq_ok, known, Abi.methods]
  constructor
  · rintro ⟨_, taken, methods, ⟨_, selected, made⟩, rendered⟩
    cases taken
    obtain rfl := Except.ok.inj (types.functions_toJson.symm.trans selected)
    exact ⟨methods, made, Except.ok.inj rendered⟩
  · rintro ⟨methods, made, rfl⟩
    exact ⟨_, rfl, methods, ⟨_, types.functions_toJson, made⟩, rfl⟩

/-- An interface is generated only if all its functions are shallow. -/
theorem TypesRequest.isShallow_of_generated {types : TypesRequest} {source : String}
    (generated : Abi.generateInterface calls types.contractName
      (.arr (types.abi.map (·.toJson))) (.str types.language.name) = .ok source) :
    types.IsShallow calls := by
  obtain ⟨methods, made, -⟩ := generateInterface_eq_ok.mp generated
  intro entry member
  obtain ⟨method, one⟩ := exists_mapM_iff.mp ⟨methods, made⟩ _ (List.mem_map_of_mem member)
  exact AbiEntry.isShallow_of_ofEntry one

/-- The method of a proper entry consists of words. -/
theorem AbiEntry.isClean_method {entry : AbiEntry} (proper : entry.IsProper)
    (isFunction : entry.type = functionType) : (entry.method language).IsClean language := by
  obtain ⟨name, named, identifier⟩ := proper.name isFunction
  constructor
  case name =>
    rw [method, named]
    exact (Abi.isWord_of_isIdentifier identifier).spelled language
  case parameters =>
    intro parameter member
    obtain ⟨⟨input, position⟩, within, rfl⟩ := List.mem_map.mp member
    refine ⟨Abi.IsWord.spelled ?_ language, input.type, rfl⟩
    rw [AbiParameter.nameAt]
    by_cases unnamed : input.name = ""
    · rw [if_pos unnamed]
      exact Abi.isWord_positionName position
    · rw [if_neg unnamed]
      rcases proper.inputs input (List.fst_mem_of_mem_zipIdx within) with isEmpty | identifier
      · exact absurd isEmpty unnamed
      · exact Abi.isWord_of_isIdentifier identifier
  case results =>
    intro result member
    obtain ⟨output, -, rfl⟩ := List.mem_map.mp member
    exact ⟨output.type, rfl⟩

/-- **What is generated is the interface that the request asks for.** -/
theorem TypesRequest.exists_isInterface {types : TypesRequest} (proper : types.IsProper)
    (shallow : types.IsShallow calls) :
    ∃ source, Abi.generateInterface calls types.contractName (.arr (types.abi.map (·.toJson)))
        (.str types.language.name) = .ok source ∧
      Abi.IsInterface types.language types.contractName
        (types.functions.map (·.signature types.language)) source := by
  have made : (types.functions.map (·.fields)).mapM (Abi.Method.ofEntry types.language calls) =
      .ok (types.functions.map (·.method types.language)) := by
    apply mapM_map_eq_ok
    intro entry member
    obtain ⟨within, isFunction⟩ := List.mem_filter.mp member
    exact AbiEntry.ofEntry_fields (proper.abi entry within) (eq_of_beq isFunction)
      (shallow entry member)
  have clean : ∀ method ∈ types.functions.map (·.method types.language),
      method.IsClean types.language := by
    intro method member
    obtain ⟨entry, within, rfl⟩ := List.mem_map.mp member
    obtain ⟨ofAbi, isFunction⟩ := List.mem_filter.mp within
    exact AbiEntry.isClean_method (proper.abi entry ofAbi) (eq_of_beq isFunction)
  refine ⟨_, generateInterface_eq_ok.mpr ⟨_, made, rfl⟩, ?_⟩
  have read := Abi.isInterface_render (Abi.isWord_of_isIdentifier proper.contractName) clean
  simpa only [List.map_map, Function.comp_def, AbiEntry.signature_method] using read

end Generation

end Soliscope.Web
