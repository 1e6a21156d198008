import Soliscope.Proofs.Abi.Writable

/-! # What array types are given as

A Solidity type is an elementary type with any number of array suffixes, dynamic ones and such of a
fixed size. Dynamic suffixes are taken off one by one, so that a type ending in one is given as an
array. A type ending in a fixed size is looked at as a whole, by how its name begins: it passes for
an integer or a text if its elements are integers or bytes, and nothing is known of it otherwise
(`array_isGiven`).
-/

namespace Soliscope.Abi

/-- A decimal number as it is written. -/
structure Numeral where
  digits : List Char
  given : digits ≠ []
  decimal : ∀ c ∈ digits, c.isDigit = true

/-- The elementary types; integers may go without their number of bits. -/
inductive Elementary where
  | unsigned (bits : Option Numeral)
  | signed (bits : Option Numeral)
  | address
  | string
  | bytes
  | fixedBytes (size : Numeral)
  | truth

/-- A type as it is written: an elementary type and array suffixes. -/
inductive WrittenType where
  | elementary (type : Elementary)
  | dynamic (element : WrittenType)
  | fixed (element : WrittenType) (size : Numeral)

namespace Elementary

/-- The text of a type. -/
def text : Elementary → List Char
  | unsigned bits => "uint".toList ++ (bits.map Numeral.digits).getD []
  | signed bits => "int".toList ++ (bits.map Numeral.digits).getD []
  | address => "address".toList
  | string => "string".toList
  | bytes => "bytes".toList
  | fixedBytes size => "bytes".toList ++ size.digits
  | truth => "bool".toList

/-- The kind of values of a type. -/
def scalar : Elementary → Scalar
  | unsigned _ => .integer
  | signed _ => .integer
  | truth => .truth
  | _ => .text

/-- A type that is told by how its name begins. -/
def isToldByStart : Elementary → Bool
  | unsigned _ => true
  | signed _ => true
  | bytes => true
  | fixedBytes _ => true
  | _ => false

/-- An elementary type is told to be of its kind. -/
theorem ofTypeName_text (type : Elementary) : Scalar.ofTypeName type.text = type.scalar := by
  cases type <;> rfl

/-- Every elementary type is of a known kind. -/
theorem scalar_ne_other (type : Elementary) : type.scalar ≠ .other := by
  intro same
  cases type <;> cases same

/-- More characters behind a type are not seen if it is told by how its name begins. -/
theorem ofTypeName_append (type : Elementary) {more : List Char} (given : more ≠ []) :
    Scalar.ofTypeName (type.text ++ more) =
      if type.isToldByStart then type.scalar else .other := by
  cases more with
  | nil => exact (given rfl).elim
  | cons c more => cases type <;> rfl

/-- There is no bracket in an elementary type. -/
theorem bracket_notMem_text (type : Elementary) : ']' ∉ type.text := by
  have noDigit {size : Numeral} : ']' ∉ size.digits := fun member => by
    cases size.decimal ']' member
  have noBits {bits : Option Numeral} : ']' ∉ (bits.map Numeral.digits).getD [] := by
    cases bits with
    | none => exact List.not_mem_nil
    | some size => exact noDigit
  cases type with
  | unsigned bits => exact fun member => (List.mem_append.mp member).elim (by decide) noBits
  | signed bits => exact fun member => (List.mem_append.mp member).elim (by decide) noBits
  | fixedBytes size => exact fun member => (List.mem_append.mp member).elim (by decide) noDigit
  | address => decide
  | string => decide
  | bytes => decide
  | truth => decide

end Elementary

namespace WrittenType

/-- The text of a type. -/
def text : WrittenType → List Char
  | elementary type => type.text
  | dynamic element => element.text ++ ['[', ']']
  | fixed element size => element.text ++ ('[' :: (size.digits ++ [']']))

/-- The type without its suffixes. -/
def base : WrittenType → Elementary
  | elementary type => type
  | dynamic element => element.base
  | fixed element _ => element.base

/-- How many dynamic suffixes a type ends in. -/
def openDepth : WrittenType → Nat
  | dynamic element => element.openDepth + 1
  | _ => 0

/-- A type with suffixes. -/
def isArray : WrittenType → Bool
  | elementary _ => false
  | _ => true

/-- A type that ends in a fixed size. -/
def endsFixed : WrittenType → Bool
  | fixed _ _ => true
  | _ => false

/-- A type begins with the elementary type at its bottom. -/
theorem text_eq_append (type : WrittenType) : ∃ suffixes, type.text = type.base.text ++ suffixes := by
  induction type with
  | elementary type => exact ⟨[], (List.append_nil _).symm⟩
  | dynamic element ih =>
      obtain ⟨suffixes, written⟩ := ih
      refine ⟨suffixes ++ ['[', ']'], ?_⟩
      rw [text, base, written, List.append_assoc]
  | fixed element size ih =>
      obtain ⟨suffixes, written⟩ := ih
      refine ⟨suffixes ++ '[' :: (size.digits ++ [']']), ?_⟩
      rw [text, base, written, List.append_assoc]

end WrittenType

section Suffixes

variable {language : Language} {name : List Char}

/-- A name without a dynamic suffix. -/
def IsClosed (name : List Char) : Prop :=
  ∀ rest, name.reverse ≠ ']' :: '[' :: rest

/-- A dynamic suffix makes a name of arrays. -/
theorem typeNameOfReverse_open (language : Language) (name : List Char) :
    language.typeNameOfReverse (name ++ ['[', ']']).reverse =
      language.arrayName (language.typeNameOfReverse name.reverse) := by
  rw [List.reverse_append]
  rfl

/-- A dynamic suffix is counted once. -/
theorem arrayDepthOfReverse_open (name : List Char) :
    arrayDepthOfReverse (name ++ ['[', ']']).reverse = arrayDepthOfReverse name.reverse + 1 := by
  rw [List.reverse_append]
  rfl

/-- Without a dynamic suffix, the beginning of a name decides. -/
theorem typeNameOfReverse_closed (closed : IsClosed name) :
    language.typeNameOfReverse name.reverse = language.scalarName (.ofTypeName name) := by
  rw [Language.typeNameOfReverse.eq_2 language name.reverse closed, List.reverse_reverse]

theorem arrayDepthOfReverse_closed (closed : IsClosed name) :
    arrayDepthOfReverse name.reverse = 0 :=
  arrayDepthOfReverse.eq_2 name.reverse closed

theorem Elementary.isClosed_text (type : Elementary) : IsClosed type.text := by
  intro rest same
  apply type.bracket_notMem_text
  rw [← List.mem_reverse, same]
  exact List.mem_cons_self

/-- In a suffix of a fixed size, a digit stands in front of the bracket at the end. -/
theorem isClosed_fixed (element : List Char) (size : Numeral) :
    IsClosed (element ++ '[' :: (size.digits ++ [']'])) := by
  intro rest same
  have written := List.dropLast_concat_getLast size.given
  have digit := size.decimal (size.digits.getLast size.given) (List.getLast_mem size.given)
  generalize size.digits.getLast size.given = last at written digit
  rw [← written] at same
  simp only [List.reverse_append, List.reverse_cons, List.reverse_nil, List.nil_append,
    List.cons_append, List.cons.injEq, true_and, List.append_assoc] at same
  rw [same.1] at digit
  cases digit

end Suffixes

namespace WrittenType

/-- What a type is given as. -/
def givenName (language : Language) : WrittenType → List Char
  | elementary type => language.scalarName type.scalar
  | dynamic element => language.arrayName (element.givenName language)
  | fixed element _ =>
    language.scalarName (if element.base.isToldByStart then element.base.scalar else .other)

/-- What is written for a type is what it is given as. -/
theorem typeNameOfReverse_text (language : Language) (type : WrittenType) :
    language.typeNameOfReverse type.text.reverse = type.givenName language := by
  induction type with
  | elementary type =>
      rw [text, typeNameOfReverse_closed type.isClosed_text, type.ofTypeName_text]
      rfl
  | dynamic element ih =>
      rw [text, typeNameOfReverse_open, ih]
      rfl
  | fixed element size ih =>
      obtain ⟨suffixes, written⟩ := element.text_eq_append
      rw [text, typeNameOfReverse_closed (isClosed_fixed element.text size), written,
        List.append_assoc, Elementary.ofTypeName_append _ (by simp)]
      rfl

/-- The suffixes that are counted are those that the type ends in. -/
theorem arrayDepth_text (type : WrittenType) :
    arrayDepth (.ofList type.text) = type.openDepth := by
  rw [arrayDepth, String.toList_ofList]
  induction type with
  | elementary type => exact arrayDepthOfReverse_closed type.isClosed_text
  | dynamic element ih =>
      rw [text, arrayDepthOfReverse_open, ih]
      rfl
  | fixed element size ih => exact arrayDepthOfReverse_closed (isClosed_fixed element.text size)

end WrittenType

section Names

variable {language : Language}

/-- A name of values of a known kind. -/
def Language.IsScalar (language : Language) (name : String) : Prop :=
  ∃ scalar, scalar ≠ .other ∧ name = .ofList (language.scalarName scalar)

/-- A name of arrays, of values of any kind or of arrays again. -/
inductive Language.IsArray (language : Language) : List Char → Prop
  | values (scalar : Scalar) : language.IsArray (language.arrayName (language.scalarName scalar))
  | arrays {element : List Char} (elements : language.IsArray element) :
      language.IsArray (language.arrayName element)

/-- The name of values of which nothing is known. -/
def Language.unknown (language : Language) : String :=
  .ofList (language.scalarName .other)

/-- Different kinds of values have different names. -/
theorem scalarName_injective (language : Language) : Function.Injective language.scalarName := by
  intro first second same
  cases language <;> cases first <;> cases second <;> first | rfl | exact absurd same (by decide)

/-- Names of arrays end in a bracket; those of other values do not. -/
theorem arrayName_ne_scalarName (element : List Char) (scalar : Scalar) :
    language.arrayName element ≠ language.scalarName scalar := by
  intro same
  have ended : (language.arrayName element).getLast? = some ']' := by
    cases language with
    | typescript =>
        rw [Language.arrayName, List.getLast?_append]
        rfl
    | python =>
        rw [Language.arrayName, List.getLast?_append, List.getLast?_append]
        rfl
  rw [same] at ended
  cases language <;> cases scalar <;> cases ended

/-- The name of a kind is the name of values of a known kind, unless it is the one for all others.
-/
theorem isScalar_scalarName_iff {scalar : Scalar} :
    language.IsScalar (.ofList (language.scalarName scalar)) ↔ scalar ≠ .other := by
  constructor
  · rintro ⟨known, isKnown, same⟩
    rw [scalarName_injective language (String.ofList_injective same)]
    exact isKnown
  · exact fun known => ⟨scalar, known, rfl⟩

theorem scalarName_eq_unknown_iff {scalar : Scalar} :
    String.ofList (language.scalarName scalar) = language.unknown ↔ scalar = .other := by
  constructor
  · exact fun same => scalarName_injective language (String.ofList_injective same)
  · rintro rfl
    rfl

/-- A name of values is no name of arrays. -/
theorem not_isArray_scalarName (scalar : Scalar) :
    ¬ language.IsArray (language.scalarName scalar) := by
  intro isArray
  generalize isName : language.scalarName scalar = name at isArray
  cases isArray with
  | values kind => exact arrayName_ne_scalarName _ scalar isName.symm
  | arrays elements => exact arrayName_ne_scalarName _ scalar isName.symm

/-- A name of arrays is no name of values. -/
theorem not_isScalar_arrayName (element : List Char) :
    ¬ language.IsScalar (.ofList (language.arrayName element)) := by
  rintro ⟨scalar, -, same⟩
  exact arrayName_ne_scalarName element scalar (String.ofList_injective same)

theorem arrayName_ne_unknown (element : List Char) :
    String.ofList (language.arrayName element) ≠ language.unknown :=
  fun same => arrayName_ne_scalarName element .other (String.ofList_injective same)

end Names

namespace WrittenType

/-- The outcome of giving an array type is what its last suffix says. -/
structure IsGiven (type : WrittenType) (language : Language) (calls : Nat)
    (outcome : Except Fault String) : Prop where
  /-- There is a name unless the type ends in too many dynamic suffixes for the calls under way. -/
  returns : (∃ name, outcome = .ok name) ↔ type.openDepth < depthLimit calls
  array : ∀ name, outcome = .ok name → (language.IsArray name.toList ↔ type.endsFixed = false)
  scalar : ∀ name, outcome = .ok name →
    (language.IsScalar name ↔ type.endsFixed = true ∧ type.base.isToldByStart = true)
  unknown : ∀ name, outcome = .ok name →
    (name = language.unknown ↔ type.endsFixed = true ∧ type.base.isToldByStart = false)

section GivenNames

/-- Arrays of whatever a type is given as are arrays. -/
theorem isArray_arrayName (language : Language) (element : WrittenType) :
    language.IsArray (language.arrayName (element.givenName language)) := by
  induction element with
  | elementary type => exact .values type.scalar
  | dynamic element ih => exact .arrays ih
  | fixed element size ih => exact .values _

variable {language : Language} {type : WrittenType} (isArray : type.isArray = true)

include isArray

/-- An array type is given as an array exactly if its last suffix is dynamic. -/
theorem isArray_givenName_iff :
    language.IsArray (type.givenName language) ↔ type.endsFixed = false := by
  cases type with
  | elementary type => cases isArray
  | dynamic element => exact iff_of_true (isArray_arrayName language element) rfl
  | fixed element size =>
      exact iff_of_false (not_isArray_scalarName _) fun same => (by cases same)

/-- A type is given as a scalar exactly if its last suffix is of a fixed size and its base is told
by its start. -/
theorem isScalar_givenName_iff :
    language.IsScalar (.ofList (type.givenName language)) ↔
      type.endsFixed = true ∧ type.base.isToldByStart = true := by
  cases type with
  | elementary type => cases isArray
  | dynamic element =>
      exact iff_of_false (not_isScalar_arrayName _) fun ⟨same, _⟩ => (by cases same)
  | fixed element size =>
      rw [givenName, isScalar_scalarName_iff, endsFixed, base, and_iff_right rfl]
      cases element.base.isToldByStart with
      | true => exact iff_of_true element.base.scalar_ne_other rfl
      | false => exact iff_of_false (fun known => known rfl) fun same => (by cases same)

/-- Nothing is known of a type exactly if its last suffix is of a fixed size and its base is not. -/
theorem givenName_eq_unknown_iff :
    String.ofList (type.givenName language) = language.unknown ↔
      type.endsFixed = true ∧ type.base.isToldByStart = false := by
  cases type with
  | elementary type => cases isArray
  | dynamic element =>
      exact iff_of_false (arrayName_ne_unknown _) fun ⟨same, _⟩ => (by cases same)
  | fixed element size =>
      rw [givenName, scalarName_eq_unknown_iff, endsFixed, base, and_iff_right rfl]
      cases element.base.isToldByStart with
      | true => exact iff_of_false element.base.scalar_ne_other fun same => (by cases same)
      | false => exact iff_of_true rfl rfl

end GivenNames

end WrittenType

/-- **What array types are given as**: an array if the last suffix is dynamic, and otherwise
something unknown, unless the elements are integers or bytes. -/
theorem array_isGiven (language : Language) (calls : Nat) (type : WrittenType)
    (isArray : type.isArray = true) :
    type.IsGiven language calls (typeNameOf language calls (.str (.ofList type.text))) := by
  have only (name : String)
      (returned : typeNameOf language calls (.str (.ofList type.text)) = .ok name) :
      name = .ofList (type.givenName language) := by
    unfold typeNameOf at returned
    dsimp only at returned
    split at returned
    · cases returned
    · cases returned
      rw [Language.typeName, String.toList_ofList, type.typeNameOfReverse_text]
  refine ⟨?_, fun name returned => ?_, fun name returned => ?_, fun name returned => ?_⟩
  · rw [exists_typeNameOf_iff, ← type.arrayDepth_text]
    constructor
    · rintro ⟨_, same, shallow⟩
      cases same
      exact shallow
    · exact fun shallow => ⟨_, rfl, shallow⟩
  · rw [only name returned, String.toList_ofList]
    exact WrittenType.isArray_givenName_iff isArray
  · rw [only name returned]
    exact WrittenType.isScalar_givenName_iff isArray
  · rw [only name returned]
    exact WrittenType.givenName_eq_unknown_iff isArray

/-- Three elements. -/
def Numeral.three : Numeral := ⟨['3'], by decide, List.all_eq_true.mp (by decide)⟩

/-- The number of bits in a word. -/
def Numeral.wordSize : Numeral := ⟨"256".toList, by decide, List.all_eq_true.mp (by decide)⟩

/-- A list of triples of lists of addresses. -/
def addressTriples : WrittenType :=
  .dynamic (.fixed (.dynamic (.elementary .address)) .three)

/-- The theorem at a type with suffixes of both kinds. -/
theorem addressTriples_isGiven :
    addressTriples.isArray = true ∧
    typeNameOf .typescript 0 (.str "address[][3][]") = .ok "any[]" ∧
    addressTriples.IsGiven .typescript 0 (typeNameOf .typescript 0 (.str "address[][3][]")) :=
  ⟨rfl, rfl, array_isGiven .typescript 0 addressTriples rfl⟩

/-- Three integers. -/
def integerTriple : WrittenType :=
  .fixed (.elementary (.unsigned (some .wordSize))) .three

/-- An array that is given as a scalar, although the same number of addresses is not. -/
theorem integerTriple_isScalar :
    integerTriple.isArray = true ∧ integerTriple.text = "uint256[3]".toList ∧
    typeNameOf .typescript 0 (.str "uint256[3]") = .ok "bigint" ∧
    Language.typescript.IsScalar "bigint" ∧
    typeNameOf .typescript 0 (.str "address[3]") = .ok Language.typescript.unknown :=
  ⟨rfl, rfl, rfl, ⟨.integer, by decide, rfl⟩, rfl⟩

end Soliscope.Abi
