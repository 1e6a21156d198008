import Mathlib.Data.List.Forall2
import Soliscope.Proofs.Abi.Words
import Soliscope.Proofs.Text.Splitting

/-! # Reading method lines

The line of a method tells a signature. It is read by dividing the line at its parentheses, its
parameters at commas and each parameter at its colon (`Signature.read?`); nothing is known of the
method while reading. A method whose names are words is read back from its line, with no parameter,
one or many, and with no result, one or many (`read?_render`).
-/

namespace Soliscope.Abi

/-- What the line of a method tells. A parameter that stands for the object itself has no type. -/
structure Signature where
  name : String
  parameters : List (String × Option String)
  results : List String
  deriving DecidableEq, Repr

/-- The words of a language around the parts of a method line. -/
structure LineForm where
  lead : String
  beforeResults : String
  afterResults : String
  nothing : String
  opening : String
  closing : String

/-- The form of method lines in a language. -/
def Language.lineForm : Language → LineForm
  | .typescript => ⟨"  ", ": Promise<", ">;", "void", "[", "]"⟩
  | .python => ⟨"    async def ", " -> ", ": ...", "None", "tuple[", "]"⟩

/-- A parenthesis. -/
def isParenthesis (c : Char) : Bool := c == '(' || c == ')'

/-- What stands between two texts. -/
def between? (before after : String) (text : List Char) : Option (List Char) :=
  (before.toList.isPrefixOf? text).bind after.toList.isSuffixOf?

/-- Read a parameter: a name, or a name and a type. -/
def readParameter? (piece : List Char) : Option (String × Option String) :=
  match Text.splitAtPair ':' ' ' piece with
  | [name] => some (.ofList name, none)
  | [name, type] => some (.ofList name, some (.ofList type))
  | _ => none

/-- Read what stands between the parentheses. -/
def readParameters? (inside : List Char) : Option (List (String × Option String)) :=
  if inside.isEmpty then some [] else (Text.splitAtPair ',' ' ' inside).mapM readParameter?

/-- Read the results: nothing, one type, or several in brackets. -/
def LineForm.readResults (form : LineForm) (text : List Char) : List String :=
  if text == form.nothing.toList then []
  else
    match between? form.opening form.closing text with
    | some several => (Text.splitAtPair ',' ' ' several).map String.ofList
    | none => [.ofList text]

/-- Read the line of a method. -/
def Signature.read? (language : Language) (line : String) : Option Signature :=
  match line.toList.splitOnP isParenthesis with
  | [before, inside, after] => do
    let name ← between? language.lineForm.lead "" before
    let parameters ← readParameters? inside
    let results ← between? language.lineForm.beforeResults language.lineForm.afterResults after
    some ⟨.ofList name, parameters, language.lineForm.readResults results⟩
  | _ => none

/-- The parameter for the object itself, which only Python names. -/
def Language.receiver : Language → List String
  | .typescript => []
  | .python => ["self"]

/-- The signature of a method. -/
def Method.signature (language : Language) (method : Method) : Signature where
  name := method.name
  parameters := language.receiver.map (fun name => (name, none)) ++
    method.parameters.map fun parameter => (parameter.name, some parameter.type)
  results := method.results

/-- The words of a method are kept in one piece, and its types are names of Solidity types. -/
structure Method.IsClean (language : Language) (method : Method) : Prop where
  name : IsWord method.name.toList
  parameters : ∀ parameter ∈ method.parameters, IsWord parameter.name.toList ∧
    ∃ solidityType, parameter.type = language.typeName solidityType
  results : ∀ result ∈ method.results, ∃ solidityType, result = language.typeName solidityType

/-- What stands between two texts is found there. -/
theorem between?_append (before after : String) (text : List Char) :
    between? before after (before.toList ++ (text ++ after.toList)) = some text := by
  have led : before.toList.isPrefixOf? (before.toList ++ (text ++ after.toList)) =
      some (text ++ after.toList) :=
    List.isPrefixOf?_eq_some_iff_append_eq.mpr rfl
  rw [between?, led]
  exact List.isSuffixOf?_eq_some_iff_append_eq.mpr rfl

/-- Nothing is found behind another beginning. -/
theorem between?_eq_none {before after : String} {front first : Char} {rest more : List Char}
    (starts : before.toList = front :: rest) (different : first ≠ front) :
    between? before after (first :: more) = none := by
  have unequal : (front == first) = false := beq_eq_false_iff_ne.mpr (Ne.symm different)
  simp only [between?, starts, List.isPrefixOf?, unequal, Bool.false_eq_true, ↓reduceIte,
    Option.bind_none]

/-- A text of two parts, with a separator, has the characters of both. -/
theorem forall_mem_intercalate {property : Char → Prop} {mark : List Char}
    {parts : List (List Char)} (ofMark : ∀ c ∈ mark, property c)
    (ofParts : ∀ part ∈ parts, ∀ c ∈ part, property c) :
    ∀ c ∈ mark.intercalate parts, property c := by
  induction parts with
  | nil =>
      intro c member
      cases member
  | cons part rest ih =>
      obtain ⟨ofPart, ofRest⟩ := List.forall_mem_cons.mp ofParts
      cases rest with
      | nil =>
          rw [List.intercalate_singleton]
          exact ofPart
      | cons next others =>
          rw [List.intercalate_cons_cons, List.forall_mem_append, List.forall_mem_append]
          exact ⟨⟨ofPart, ofMark⟩, ih ofRest⟩

/-- A parameter in writing. -/
def writeParameter (parameter : String × Option String) : List Char :=
  match parameter.2 with
  | none => parameter.1.toList
  | some type => parameter.1.toList ++ ':' :: ' ' :: type.toList

/-- The name and the type of a parameter are words, and one of them says something. -/
structure IsCleanParameter (parameter : String × Option String) : Prop where
  name : IsWord parameter.1.toList
  type : ∀ type, parameter.2 = some type → IsWord type.toList
  given : writeParameter parameter ≠ []

/-- A text has no parenthesis and stays on its line. -/
def IsInline (text : List Char) : Prop :=
  ∀ c ∈ text, isParenthesis c = false ∧ Text.isLineBoundary c = false

/-- A text stays on its line. -/
def IsUnbroken (text : List Char) : Prop := ∀ c ∈ text, Text.isLineBoundary c = false

theorem isInline_of_all {text : List Char}
    (all : text.all (fun c => !isParenthesis c && !Text.isLineBoundary c) = true) :
    IsInline text := by
  intro c member
  simpa using List.all_eq_true.mp all c member

/-- A word stays within its line and its parentheses. -/
theorem IsWord.isInline {text : List Char} (word : IsWord text) : IsInline text := by
  intro c member
  have unmarked := word c member
  simp only [isMark, Bool.or_eq_false_iff] at unmarked
  simp only [isParenthesis, unmarked, Bool.or_self, and_self]

theorem IsInline.append {first second : List Char} (one : IsInline first)
    (other : IsInline second) : IsInline (first ++ second) := by
  unfold IsInline
  rw [List.forall_mem_append]
  exact ⟨one, other⟩

section Parameters

variable {parameter : String × Option String} {parameters : List (String × Option String)}

/-- A clean parameter is made of the characters of words, colons and spaces. -/
theorem IsCleanParameter.forall_mem (property : Char → Prop) (clean : IsCleanParameter parameter)
    (ofWords : ∀ text, IsWord text → ∀ c ∈ text, property c) (colon : property ':')
    (space : property ' ') : ∀ c ∈ writeParameter parameter, property c := by
  obtain ⟨name, type⟩ := parameter
  cases type with
  | none => exact ofWords name.toList clean.name
  | some type =>
      change ∀ c ∈ name.toList ++ ':' :: ' ' :: type.toList, property c
      rw [List.forall_mem_append, List.forall_mem_cons, List.forall_mem_cons]
      exact ⟨ofWords _ clean.name, colon, space, ofWords _ (clean.type type rfl)⟩

/-- A clean parameter is read back. -/
theorem readParameter?_write (clean : IsCleanParameter parameter) :
    readParameter? (writeParameter parameter) = some parameter := by
  obtain ⟨name, type⟩ := parameter
  have whole : ':' ∉ name.toList := clean.name.notMem rfl
  cases type with
  | none =>
      simp only [readParameter?, writeParameter, Text.splitAtPair_of_notMem whole,
        String.ofList_toList]
  | some type =>
      have wholeType : ':' ∉ type.toList := (clean.type type rfl).notMem rfl
      simp only [readParameter?, writeParameter, Text.splitAtPair_append whole,
        Text.splitAtPair_of_notMem wholeType, String.ofList_toList]

/-- Clean parameters are read back one by one. -/
theorem mapM_readParameter? (clean : ∀ parameter ∈ parameters, IsCleanParameter parameter) :
    (parameters.map writeParameter).mapM readParameter? = some parameters := by
  induction parameters with
  | nil => rfl
  | cons parameter rest ih =>
      obtain ⟨first, others⟩ := List.forall_mem_cons.mp clean
      rw [List.map_cons, List.mapM_cons, readParameter?_write first, ih others]
      rfl

/-- Joined parameters stay within the parentheses around them. -/
theorem isInline_parameters (clean : ∀ parameter ∈ parameters, IsCleanParameter parameter) :
    IsInline ([',', ' '].intercalate (parameters.map writeParameter)) := by
  apply forall_mem_intercalate
  · exact isInline_of_all rfl
  · intro part member
    obtain ⟨parameter, within, rfl⟩ := List.mem_map.mp member
    apply (clean parameter within).forall_mem
    · exact fun text word => word.isInline
    · decide
    · decide

/-- The list of parameters is read back, also when it is empty. -/
theorem readParameters?_write (clean : ∀ parameter ∈ parameters, IsCleanParameter parameter) :
    readParameters? ([',', ' '].intercalate (parameters.map writeParameter)) =
      some parameters := by
  have noComma : ∀ part ∈ parameters.map writeParameter, ',' ∉ part := by
    intro part member inside
    obtain ⟨parameter, within, rfl⟩ := List.mem_map.mp member
    have different : ∀ c ∈ writeParameter parameter, c ≠ ',' := by
      apply (clean parameter within).forall_mem (· ≠ ',')
      · intro text word c inText comma
        exact word.notMem rfl (comma ▸ inText)
      · decide
      · decide
    exact different ',' inside rfl
  cases parameters with
  | nil => rfl
  | cons parameter rest =>
      have given : ([',', ' '].intercalate
          ((parameter :: rest).map writeParameter)).isEmpty = false := by
        have first := (clean parameter List.mem_cons_self).given
        rw [List.isEmpty_eq_false_iff]
        cases rest with
        | nil => simpa only [List.map_cons, List.map_nil, List.intercalate_singleton] using first
        | cons next others => simp [List.intercalate_cons_cons, first]
      rw [readParameters?, given, if_neg Bool.false_ne_true,
        Text.splitAtPair_intercalate (by simp) noComma]
      exact mapM_readParameter? clean

end Parameters

section Results

variable (language : Language)

/-- What is around the results of a method starts unlike any type, and unlike no result. -/
theorem Language.lineForm_fronts : ∃ silence rest bracket more,
    language.lineForm.nothing.toList = silence :: rest ∧
    language.lineForm.opening.toList = bracket :: more ∧
    silence ∉ typeFronts ∧ bracket ∉ typeFronts ∧ bracket ≠ silence := by
  cases language with
  | typescript => exact ⟨'v', _, '[', _, rfl, rfl, by decide, by decide, by decide⟩
  | python => exact ⟨'N', _, 't', _, rfl, rfl, by decide, by decide, by decide⟩

variable {language} {results : List String}

theorem renderResults_several (nothing opening closing first second : String)
    (others : List String) :
    renderResults nothing opening closing (first :: second :: others) =
      opening ++ ", ".intercalate (first :: second :: others) ++ closing := rfl

/-- The types of results are words. -/
theorem isWord_results
    (types : ∀ result ∈ results, ∃ solidityType, result = language.typeName solidityType) :
    ∀ part ∈ results.map String.toList, IsWord part := by
  intro part member
  obtain ⟨result, within, rfl⟩ := List.mem_map.mp member
  obtain ⟨solidityType, rfl⟩ := types result within
  exact typeName_isWord language solidityType

/-- The results in writing stay within their line. -/
theorem isInline_results
    (types : ∀ result ∈ results, ∃ solidityType, result = language.typeName solidityType) :
    IsInline (renderResults language.lineForm.nothing language.lineForm.opening
      language.lineForm.closing results).toList := by
  have words := isWord_results types
  have around : IsInline language.lineForm.nothing.toList ∧
      IsInline language.lineForm.opening.toList ∧ IsInline language.lineForm.closing.toList := by
    cases language <;> exact ⟨isInline_of_all rfl, isInline_of_all rfl, isInline_of_all rfl⟩
  cases results with
  | nil => exact around.1
  | cons result others =>
      cases others with
      | nil => exact (words result.toList List.mem_cons_self).isInline
      | cons next others =>
          rw [renderResults_several, String.toList_append, String.toList_append,
            String.toList_intercalate]
          apply IsInline.append _ around.2.2
          apply IsInline.append around.2.1
          apply forall_mem_intercalate
          · exact isInline_of_all rfl
          · exact fun part member => (words part member).isInline

/-- **The results are read back**: none, a single one, or several. -/
theorem readResults_render
    (types : ∀ result ∈ results, ∃ solidityType, result = language.typeName solidityType) :
    language.lineForm.readResults (renderResults language.lineForm.nothing
      language.lineForm.opening language.lineForm.closing results).toList = results := by
  obtain ⟨silence, rest, bracket, more, silent, opens, noFront, noBracket, different⟩ :=
    language.lineForm_fronts
  cases results with
  | nil => simp [renderResults, LineForm.readResults]
  | cons result others =>
      obtain ⟨solidityType, isType⟩ := types result List.mem_cons_self
      obtain ⟨front, tail, starts, isFront⟩ := typeName_front language solidityType
      cases others with
      | nil =>
          have isNotSilent : (result.toList == language.lineForm.nothing.toList) = false := by
            rw [isType, starts, silent, beq_eq_false_iff_ne]
            intro same
            exact noFront ((List.cons.inj same).1 ▸ isFront)
          have isNotOpened : between? language.lineForm.opening language.lineForm.closing
              result.toList = none := by
            rw [isType, starts]
            apply between?_eq_none opens
            intro same
            exact noBracket (same ▸ isFront)
          rw [renderResults, LineForm.readResults, isNotSilent, isNotOpened,
            if_neg Bool.false_ne_true, String.ofList_toList]
      | cons next others =>
          have noComma : ∀ part ∈ (result :: next :: others).map String.toList, ',' ∉ part :=
            fun part member => (isWord_results types part member).notMem rfl
          have isNotSilent (inner : List Char) : (language.lineForm.opening.toList ++ inner ==
              language.lineForm.nothing.toList) = false := by
            rw [opens, silent, List.cons_append, beq_eq_false_iff_ne]
            intro same
            exact different (List.cons.inj same).1
          have separator : ", ".toList = [',', ' '] := rfl
          rw [renderResults_several, String.toList_append, String.toList_append,
            String.toList_intercalate, List.append_assoc, LineForm.readResults, isNotSilent,
            between?_append, separator, if_neg Bool.false_ne_true]
          dsimp only
          rw [Text.splitAtPair_intercalate (by simp) noComma, List.map_map]
          simp

end Results

section Lines

variable {language : Language} {method : Method}

/-- A parameter is rendered as it is written. -/
theorem Parameter.toList_render (parameter : Parameter) :
    parameter.render.toList = writeParameter (parameter.name, some parameter.type) := by
  have separator : ": ".toList = [':', ' '] := rfl
  rw [render, String.toList_append, String.toList_append, separator, List.append_assoc]
  rfl

theorem map_toList_render (parameters : List Parameter) :
    (parameters.map (·.render)).map String.toList =
      (parameters.map fun parameter => (parameter.name, some parameter.type)).map
        writeParameter := by
  rw [List.map_map, List.map_map]
  exact List.map_congr_left fun parameter _ => parameter.toList_render

/-- The line of a method has one pair of parentheses, around its parameters. -/
theorem Method.toList_render (language : Language) (method : Method) :
    (method.render language).toList =
      language.lineForm.lead.toList ++ method.name.toList ++
        '(' :: ([',', ' '].intercalate
            ((method.signature language).parameters.map writeParameter) ++
          ')' :: (language.lineForm.beforeResults.toList ++
            ((renderResults language.lineForm.nothing language.lineForm.opening
              language.lineForm.closing method.results).toList ++
              language.lineForm.afterResults.toList))) := by
  have opening : "(".toList = ['('] := rfl
  have separator : ", ".toList = [',', ' '] := rfl
  cases language with
  | typescript =>
      have closing : "): Promise<".toList = ')' :: ": Promise<".toList := rfl
      have written : method.render .typescript =
          "  " ++ method.name ++ "(" ++ ", ".intercalate (method.parameters.map (·.render)) ++
            "): Promise<" ++ renderResults "void" "[" "]" method.results ++ ">;" := rfl
      rw [written]
      simp only [signature, Language.receiver, Language.lineForm, String.toList_append,
        String.toList_intercalate, map_toList_render, opening, separator, closing, List.map_nil,
        List.nil_append, List.cons_append, List.append_assoc]
  | python =>
      have closing : ") -> ".toList = ')' :: " -> ".toList := rfl
      have receiver : writeParameter ("self", none) = "self".toList := rfl
      have written : method.render .python =
          "    async def " ++ method.name ++ "(" ++
            ", ".intercalate ("self" :: method.parameters.map (·.render)) ++ ") -> " ++
            renderResults "None" "tuple[" "]" method.results ++ ": ..." := rfl
      rw [written]
      simp only [signature, Language.receiver, Language.lineForm, String.toList_append,
        String.toList_intercalate, map_toList_render, opening, separator, closing, receiver,
        List.map_cons, List.map_nil, List.nil_append, List.cons_append, List.append_assoc]

/-- All parameters of a clean method are clean, the receiver too. -/
theorem Method.IsClean.parameter (clean : method.IsClean language) :
    ∀ parameter ∈ (method.signature language).parameters, IsCleanParameter parameter := by
  intro parameter member
  rcases List.mem_append.mp member with isReceiver | isParameter
  · obtain ⟨name, within, rfl⟩ := List.mem_map.mp isReceiver
    cases language with
    | typescript => cases within
    | python =>
        obtain rfl := List.mem_singleton.mp within
        exact ⟨isWord_of_all rfl, fun type given => (by cases given), by decide⟩
  · obtain ⟨parameter, within, rfl⟩ := List.mem_map.mp isParameter
    obtain ⟨isName, solidityType, isType⟩ := clean.parameters parameter within
    refine ⟨isName, ?_, by simp [writeParameter]⟩
    intro type given
    cases given
    rw [isType]
    exact typeName_isWord language solidityType

/-- A method line consists of what is before, between and after its parentheses. -/
theorem Method.IsClean.isInline (clean : method.IsClean language) :
    IsInline (language.lineForm.lead.toList ++ method.name.toList) ∧
    IsInline ([',', ' '].intercalate
      ((method.signature language).parameters.map writeParameter)) ∧
    IsInline (language.lineForm.beforeResults.toList ++
      ((renderResults language.lineForm.nothing language.lineForm.opening
        language.lineForm.closing method.results).toList ++
        language.lineForm.afterResults.toList)) := by
  have around : IsInline language.lineForm.lead.toList ∧
      IsInline language.lineForm.beforeResults.toList ∧
      IsInline language.lineForm.afterResults.toList := by
    cases language <;> exact ⟨isInline_of_all rfl, isInline_of_all rfl, isInline_of_all rfl⟩
  refine ⟨?_, isInline_parameters clean.parameter, ?_⟩
  · exact around.1.append clean.name.isInline
  · exact around.2.1.append ((isInline_results clean.results).append around.2.2)

/-- A method line does not break off. -/
theorem Method.IsClean.isUnbroken (clean : method.IsClean language) :
    IsUnbroken (method.render language).toList := by
  obtain ⟨before, inside, after⟩ := clean.isInline
  intro c member
  rw [method.toList_render language] at member
  rcases List.mem_append.mp member with inBefore | member
  · exact (before c inBefore).2
  rcases List.mem_cons.mp member with rfl | member
  · decide
  rcases List.mem_append.mp member with within | member
  · exact (inside c within).2
  rcases List.mem_cons.mp member with rfl | inAfter
  · decide
  · exact (after c inAfter).2

/-- **The signature of a method is read back from its line.** -/
theorem Signature.read?_render (clean : method.IsClean language) :
    read? language (method.render language) = some (method.signature language) := by
  obtain ⟨before, inside, after⟩ := clean.isInline
  have name : between? language.lineForm.lead ""
      (language.lineForm.lead.toList ++ method.name.toList) = some method.name.toList := by
    have found := between?_append language.lineForm.lead "" method.name.toList
    rwa [String.toList_empty, List.append_nil] at found
  rw [read?, method.toList_render language,
    List.splitOnP_append_cons_of_forall_mem (fun c member => (before c member).1) '(' rfl,
    List.splitOnP_append_cons_of_forall_mem (fun c member => (inside c member).1) ')' rfl,
    List.splitOnP_eq_singleton (fun c member => (after c member).1)]
  simp only [name, readParameters?_write clean.parameter, between?_append,
    readResults_render clean.results, String.ofList_toList, Option.bind_eq_bind, Option.bind_some]
  rfl

end Lines

end Soliscope.Abi
