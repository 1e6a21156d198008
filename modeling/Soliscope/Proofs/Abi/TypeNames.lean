import Soliscope.Proofs.Abi.Arrays

/-! # The shape of type names

Any text taken for a Solidity type is, in one way only, a base that ends in no dynamic suffix and
some number of such suffixes. What is written for it in the two languages is a word for the base,
the same kind of values in both, with a pair of brackets for each suffix (`typeNames_areShaped`). So
nothing of the text itself gets into client code, and the names of two types are the same in one
language if they are in the other. A type with too many suffixes for the calls under way has no name
in either.
-/

namespace Soliscope.Abi

/-- A part written a number of times. -/
def copies (part : String) (count : Nat) : String :=
  .join (List.replicate count part)

/-- A base, and how many dynamic suffixes come after it. -/
@[ext]
structure Cut where
  base : String
  depth : Nat

/-- **How a type is cut**: all dynamic suffixes at its end are taken off. -/
structure IsCut (type : String) (cut : Cut) : Prop where
  whole : type = cut.base ++ copies "[]" cut.depth
  closed : ¬ "[]".toList <:+ cut.base.toList

/-- A base that tells of an integer. -/
def TellsInteger (base : String) : Prop :=
  "uint".toList <+: base.toList ∨ "int".toList <+: base.toList

/-- A base that tells of a text or bytes. -/
def TellsText (base : String) : Prop :=
  base = "address" ∨ base = "string" ∨ "bytes".toList <+: base.toList

/-- **The words for a base**, in TypeScript and in Python. -/
inductive BaseWords (base : String) : String → String → Prop
  | integer (tells : TellsInteger base) : BaseWords base "bigint" "int"
  | text (tells : TellsText base) : BaseWords base "string" "str"
  | truth (tells : base = "bool") : BaseWords base "boolean" "bool"
  | other (noInteger : ¬ TellsInteger base) (noText : ¬ TellsText base) (noTruth : base ≠ "bool") :
      BaseWords base "any" "Any"

/-- A word within brackets for each of a number of suffixes. -/
def Language.nested : Language → String → Nat → String
  | .typescript, word, depth => word ++ copies "[]" depth
  | .python, word, depth => copies "list[" depth ++ word ++ copies "]" depth

/-- The words that type names are made of. -/
def Language.typeWords : Language → List String
  | .typescript => ["bigint", "string", "boolean", "any"]
  | .python => ["int", "str", "bool", "Any", "list"]

/-- **A text of words and brackets**, in which each bracket that is opened is closed. -/
inductive IsBracketed (words : List String) : List Char → Prop
  | nothing : IsBracketed words []
  | word {word : String} (known : word ∈ words) : IsBracketed words word.toList
  | brackets {inner : List Char} (within : IsBracketed words inner) :
      IsBracketed words ('[' :: (inner ++ [']']))
  | append {front back : List Char} (one : IsBracketed words front)
      (other : IsBracketed words back) : IsBracketed words (front ++ back)

/-- **The names of a type have the shape that its cut says**, where a number of calls are under
way. -/
structure AreShaped (calls : Nat) (type : String) (cut : Cut) : Prop where
  /-- The words are those of the base, and there are as many brackets as suffixes. -/
  written : cut.depth < depthLimit calls → ∃ typescript python,
    BaseWords cut.base typescript python ∧
    typeNameOf .typescript calls (.str type) =
      .ok (Language.typescript.nested typescript cut.depth) ∧
    typeNameOf .python calls (.str type) = .ok (Language.python.nested python cut.depth)
  refused : depthLimit calls ≤ cut.depth →
    ∀ language : Language, typeNameOf language calls (.str type) = .error .typeTooDeep
  /-- Nothing else gets into a name. -/
  plain : ∀ (language : Language) (name : String),
    typeNameOf language calls (.str type) = .ok name → IsBracketed language.typeWords name.toList
  /-- The name in one language says what the name in the other one is. -/
  alike : ∀ other : String,
    typeNameOf .typescript calls (.str type) = typeNameOf .typescript calls (.str other) ↔
      typeNameOf .python calls (.str type) = typeNameOf .python calls (.str other)

section Copies

theorem copies_zero (part : String) : copies part 0 = "" := rfl

theorem copies_succ (part : String) (count : Nat) :
    copies part (count + 1) = part ++ copies part count :=
  String.join_cons

/-- The last copy may be split off as well as the first. -/
theorem copies_succ_back (part : String) (count : Nat) :
    copies part (count + 1) = copies part count ++ part := by
  rw [copies, List.replicate_succ', String.join_append, String.join_cons, String.join_nil,
    String.append_empty]
  rfl

end Copies

section Cuts

variable {type : String} {cut : Cut}

/-- A name that does not end in a suffix is closed. -/
theorem isClosed_of_not_suffix {name : List Char} (closed : ¬ "[]".toList <:+ name) :
    IsClosed name := by
  intro rest reversed
  apply closed
  refine ⟨rest.reverse, ?_⟩
  rw [← List.reverse_reverse name, reversed]
  simp

/-- The suffixes are taken off one by one, so that the induction is on the length of the text. -/
theorem exists_isCut (name : List Char) : ∃ cut, IsCut (.ofList name) cut := by
  induction length : name.length using Nat.strongRecOn generalizing name with
  | ind size ih =>
      by_cases opened : "[]".toList <:+ name
      · obtain ⟨rest, rfl⟩ := opened
        have shorter : rest.length < size := by
          rw [← length, List.length_append]
          exact Nat.lt_add_of_pos_right (by decide)
        obtain ⟨cut, whole, closed⟩ := ih rest.length shorter rest rfl
        refine ⟨⟨cut.base, cut.depth + 1⟩, ?_, closed⟩
        rw [String.ofList_append, whole, copies_succ_back, String.append_assoc]
        rfl
      · have closed : ¬ "[]".toList <:+ (String.ofList name).toList := by
          rwa [@String.toList_ofList name]
        exact ⟨⟨_, 0⟩, String.append_empty.symm, closed⟩

/-- One suffix more stands at the end of a type. -/
theorem toList_succ_copies (base : String) (depth : Nat) :
    (base ++ copies "[]" (depth + 1)).toList = (base ++ copies "[]" depth).toList ++ ['[', ']'] := by
  rw [copies_succ_back, ← String.append_assoc, String.toList_append]
  rfl

/-- All suffixes behind a closed base are counted. -/
theorem arrayDepth_copies {base : String} (closed : IsClosed base.toList) (depth : Nat) :
    arrayDepth (base ++ copies "[]" depth) = depth := by
  induction depth with
  | zero =>
      rw [copies_zero, String.append_empty]
      exact arrayDepthOfReverse_closed closed
  | succ depth ih =>
      rw [arrayDepth, toList_succ_copies, arrayDepthOfReverse_open]
      exact congrArg (· + 1) ih

/-- The depth of a cut is the number of suffixes. -/
theorem IsCut.arrayDepth_eq (isCut : IsCut type cut) : arrayDepth type = cut.depth := by
  rw [isCut.whole]
  exact arrayDepth_copies (isClosed_of_not_suffix isCut.closed) cut.depth

/-- The number of suffixes tells where the base ends, so that there is one cut only. -/
theorem IsCut.unique {other : Cut} (isCut : IsCut type cut) (isOther : IsCut type other) :
    other = cut := by
  have depth : other.depth = cut.depth := isOther.arrayDepth_eq.symm.trans isCut.arrayDepth_eq
  have base : other.base = cut.base := by
    have same := isOther.whole.symm.trans isCut.whole
    rw [depth] at same
    exact (String.append_left_inj _).mp same
  exact Cut.ext base depth

/-- Every type is cut in one way. -/
theorem existsUnique_isCut (type : String) : ∃! cut, IsCut type cut := by
  obtain ⟨cut, isCut⟩ := exists_isCut type.toList
  rw [String.ofList_toList] at isCut
  exact ⟨cut, isCut, fun _ isOther => isCut.unique isOther⟩

end Cuts

section Words

variable {base : String}

/-- The word for a kind of values. -/
def Language.word (language : Language) (scalar : Scalar) : String :=
  .ofList (language.scalarName scalar)

/-- The kind of values that a base tells of. -/
def baseScalar (base : String) : Scalar :=
  .ofTypeName base.toList

theorem baseScalar_of_integer (tells : TellsInteger base) : baseScalar base = .integer := by
  unfold baseScalar
  rcases tells with ⟨rest, written⟩ | ⟨rest, written⟩
  · rw [← written]
    rfl
  · rw [← written]
    rfl

theorem baseScalar_of_text (tells : TellsText base) : baseScalar base = .text := by
  rcases tells with rfl | rfl | ⟨rest, written⟩
  · rfl
  · rfl
  · rw [baseScalar, ← written]
    rfl

/-- A base that tells of nothing known is of the other kind. -/
theorem baseScalar_of_other (noInteger : ¬ TellsInteger base) (noText : ¬ TellsText base)
    (noTruth : base ≠ "bool") : baseScalar base = .other := by
  simp only [TellsInteger, TellsText, not_or, ← List.isPrefixOf_iff_prefix,
    Bool.not_eq_true] at noInteger noText
  have apart {word : String} (different : base ≠ word) : (base.toList == word.toList) = false :=
    beq_eq_false_iff_ne.mpr fun same => different (String.toList_injective same)
  unfold baseScalar Scalar.ofTypeName
  rw [noInteger.1, noInteger.2, noText.2.2, apart noText.1, apart noText.2.1, apart noTruth]
  rfl

/-- The words for a base are those of its kind in both languages. -/
theorem baseWords_word (base : String) :
    BaseWords base (Language.typescript.word (baseScalar base))
      (Language.python.word (baseScalar base)) := by
  by_cases integer : TellsInteger base
  · rw [baseScalar_of_integer integer]
    exact .integer integer
  · by_cases text : TellsText base
    · rw [baseScalar_of_text text]
      exact .text text
    · by_cases truth : base = "bool"
      · subst truth
        exact .truth rfl
      · rw [baseScalar_of_other integer text truth]
        exact .other integer text truth

theorem toList_word (language : Language) (scalar : Scalar) :
    (language.word scalar).toList = language.scalarName scalar :=
  String.toList_ofList

/-- The word for a kind of values is one of the language. -/
theorem word_mem_typeWords (language : Language) (scalar : Scalar) :
    language.word scalar ∈ language.typeWords := by
  cases language <;> cases scalar <;> decide

theorem word_injective (language : Language) : Function.Injective language.word :=
  fun _ _ same => scalarName_injective language (String.ofList_injective same)

end Words

section Nesting

variable {language : Language} {word : String}

/-- The elements of an array can be told from its name. -/
theorem arrayName_injective (language : Language) : Function.Injective language.arrayName := by
  intro first second same
  cases language with
  | typescript => exact List.append_cancel_right same
  | python => exact List.append_cancel_right (List.append_cancel_left same)

theorem nested_zero (language : Language) (word : String) : language.nested word 0 = word := by
  cases language with
  | typescript => exact String.append_empty
  | python =>
      rw [Language.nested, copies_zero, copies_zero, String.empty_append, String.append_empty]

/-- One level more is one name of arrays more. -/
theorem toList_nested_succ (language : Language) (word : String) (depth : Nat) :
    (language.nested word (depth + 1)).toList =
      language.arrayName (language.nested word depth).toList := by
  cases language with
  | typescript => exact toList_succ_copies word depth
  | python =>
      have outside : Language.python.nested word (depth + 1) =
          "list[" ++ (Language.python.nested word depth ++ "]") := by
        rw [Language.nested, copies_succ, copies_succ_back]
        simp only [Language.nested, String.append_assoc]
      rw [outside, String.toList_append, String.toList_append]
      rfl

/-- What is written for a type without suffixes is not written for one with some. -/
theorem nested_succ_ne_word (first second : Scalar) (depth : Nat) :
    language.nested (language.word first) (depth + 1) ≠ language.word second := by
  intro same
  have written := congrArg String.toList same
  rw [toList_nested_succ, toList_word] at written
  exact arrayName_ne_scalarName _ second written

/-- A nested name tells its word and its depth. The induction takes one level off both names. -/
theorem nested_eq_iff {first second : Scalar} {depth other : Nat} :
    language.nested (language.word first) depth = language.nested (language.word second) other ↔
      first = second ∧ depth = other := by
  refine ⟨fun same => ?_, fun ⟨scalar, level⟩ => by rw [scalar, level]⟩
  induction depth generalizing other with
  | zero =>
      rw [nested_zero] at same
      cases other with
      | zero =>
          rw [nested_zero] at same
          exact ⟨word_injective language same, rfl⟩
      | succ other => exact (nested_succ_ne_word second first other same.symm).elim
  | succ depth ih =>
      cases other with
      | zero =>
          rw [nested_zero] at same
          exact (nested_succ_ne_word first second depth same).elim
      | succ other =>
          have inner := congrArg String.toList same
          rw [toList_nested_succ, toList_nested_succ] at inner
          obtain ⟨scalar, level⟩ := ih (String.toList_injective (arrayName_injective language inner))
          exact ⟨scalar, congrArg (· + 1) level⟩

/-- A nested name is a word within brackets that are closed. -/
theorem isBracketed_nested (known : word ∈ language.typeWords) (depth : Nat) :
    IsBracketed language.typeWords (language.nested word depth).toList := by
  induction depth with
  | zero =>
      rw [nested_zero]
      exact .word known
  | succ depth ih =>
      rw [toList_nested_succ]
      cases language with
      | typescript => exact .append ih (.brackets .nothing)
      | python =>
          have listed : IsBracketed Language.python.typeWords "list".toList := .word (by decide)
          exact listed.append (.brackets ih)

end Nesting

section Names

variable {type other : String} {cut otherCut : Cut} {language : Language} {calls : Nat}

/-- A suffix is a level of nesting in what is written. -/
theorem IsCut.typeName_eq (isCut : IsCut type cut) :
    language.typeName type = language.nested (language.word (baseScalar cut.base)) cut.depth := by
  have closed := isClosed_of_not_suffix isCut.closed
  rw [isCut.whole]
  apply String.toList_injective
  rw [Language.typeName, String.toList_ofList]
  induction cut.depth with
  | zero =>
      rw [copies_zero, String.append_empty, nested_zero, typeNameOfReverse_closed closed,
        toList_word, baseScalar]
  | succ depth ih =>
      rw [toList_succ_copies, typeNameOfReverse_open, ih, toList_nested_succ]

/-- A type of few suffixes has the name that its cut says. -/
theorem IsCut.typeNameOf_shallow (isCut : IsCut type cut)
    (shallow : cut.depth < depthLimit calls) :
    typeNameOf language calls (.str type) =
      .ok (language.nested (language.word (baseScalar cut.base)) cut.depth) := by
  rw [typeNameOf, isCut.arrayDepth_eq, if_neg (Nat.not_le.mpr shallow), isCut.typeName_eq]

/-- A type of too many suffixes has none. -/
theorem IsCut.typeNameOf_deep (isCut : IsCut type cut) (deep : depthLimit calls ≤ cut.depth) :
    typeNameOf language calls (.str type) = .error .typeTooDeep := by
  rw [typeNameOf, isCut.arrayDepth_eq, if_pos deep]

/-- Types with the same kind of values, as deeply nested, or both too deeply. -/
def Cut.IsLike (calls : Nat) (cut other : Cut) : Prop :=
  baseScalar cut.base = baseScalar other.base ∧ cut.depth = other.depth ∨
    depthLimit calls ≤ cut.depth ∧ depthLimit calls ≤ other.depth

/-- When two names are the same is not a matter of the language. -/
theorem IsCut.typeNameOf_eq_iff (isCut : IsCut type cut) (isOther : IsCut other otherCut) :
    typeNameOf language calls (.str type) = typeNameOf language calls (.str other) ↔
      cut.IsLike calls otherCut := by
  unfold Cut.IsLike
  by_cases deep : depthLimit calls ≤ cut.depth
  · by_cases otherDeep : depthLimit calls ≤ otherCut.depth
    · rw [isCut.typeNameOf_deep deep, isOther.typeNameOf_deep otherDeep]
      exact iff_of_true rfl (Or.inr ⟨deep, otherDeep⟩)
    · rw [isCut.typeNameOf_deep deep, isOther.typeNameOf_shallow (Nat.not_le.mp otherDeep)]
      refine iff_of_false (fun same => by cases same) fun like => ?_
      rcases like with ⟨-, level⟩ | ⟨-, both⟩
      · exact otherDeep (level ▸ deep)
      · exact otherDeep both
  · rw [isCut.typeNameOf_shallow (Nat.not_le.mp deep)]
    by_cases otherDeep : depthLimit calls ≤ otherCut.depth
    · rw [isOther.typeNameOf_deep otherDeep]
      refine iff_of_false (fun same => by cases same) fun like => ?_
      rcases like with ⟨-, level⟩ | ⟨both, -⟩
      · exact deep (level ▸ otherDeep)
      · exact deep both
    · rw [isOther.typeNameOf_shallow (Nat.not_le.mp otherDeep), Except.ok.injEq, nested_eq_iff]
      exact ⟨Or.inl, fun like => like.resolve_right fun both => deep both.1⟩

end Names

/-- **The shape of type names.** Every text is cut in one way, and its cut says what is written for
it in the two languages. -/
theorem typeNames_areShaped (calls : Nat) (type : String) :
    (∃! cut, IsCut type cut) ∧ ∀ cut, IsCut type cut → AreShaped calls type cut := by
  refine ⟨existsUnique_isCut type, fun cut isCut => ?_⟩
  constructor
  case written =>
    intro shallow
    exact ⟨_, _, baseWords_word cut.base, isCut.typeNameOf_shallow shallow,
      isCut.typeNameOf_shallow shallow⟩
  case refused =>
    intro deep language
    exact isCut.typeNameOf_deep deep
  case plain =>
    intro language name returned
    rcases Nat.lt_or_ge cut.depth (depthLimit calls) with shallow | deep
    · rw [isCut.typeNameOf_shallow shallow] at returned
      cases returned
      exact isBracketed_nested (word_mem_typeWords language _) cut.depth
    · rw [isCut.typeNameOf_deep deep] at returned
      cases returned
  case alike =>
    intro other
    obtain ⟨otherCut, isOther, -⟩ := existsUnique_isCut other
    rw [isCut.typeNameOf_eq_iff isOther, isCut.typeNameOf_eq_iff isOther]

/-- The theorem at a type with brackets in its base. -/
theorem integerPairs_areShaped :
    IsCut "uint8[2][][]" ⟨"uint8[2]", 2⟩ ∧
    typeNameOf .typescript 0 (.str "uint8[2][][]") = .ok "bigint[][]" ∧
    typeNameOf .python 0 (.str "uint8[2][][]") = .ok "list[list[int]]" ∧
    AreShaped 0 "uint8[2][][]" ⟨"uint8[2]", 2⟩ := by
  have isCut : IsCut "uint8[2][][]" ⟨"uint8[2]", 2⟩ := ⟨by decide, by decide⟩
  exact ⟨isCut, rfl, rfl, (typeNames_areShaped 0 "uint8[2][][]").2 _ isCut⟩

/-- A text of suffixes alone, too many of them even if no other call is under way: the words for its
base are known, and still it has no name. -/
theorem noName_of_suffixes :
    IsCut (copies "[]" 3000) ⟨"", 3000⟩ ∧ BaseWords "" "any" "Any" ∧
    typeNameOf .typescript 0 (.str (copies "[]" 3000)) = .error .typeTooDeep ∧
    typeNameOf .python 0 (.str (copies "[]" 3000)) = .error .typeTooDeep := by
  have isCut : IsCut (copies "[]" 3000) ⟨"", 3000⟩ := ⟨String.empty_append.symm, by decide⟩
  have deep : depthLimit 0 ≤ 3000 := by decide
  exact ⟨isCut, baseWords_word "", isCut.typeNameOf_deep deep, isCut.typeNameOf_deep deep⟩

end Soliscope.Abi
