import Soliscope.Proofs.Text.Runs
import Soliscope.Proofs.Text.Search
import Soliscope.Solidity.Declaration

/-! # How declared names compose

A declaration is read off the front of a text exactly if the text begins with one in writing whose
name ends there (`declaration?_eq_some_iff`). A declaration in writing is made of word characters
and blanks, so that any other character is a barrier: no declaration reaches across it, and the
names declared on both sides of it are found independently (`declaredNamesFrom_barrier`). A text
without the words that introduce a name is passed over, even if one of these words follows it at
once, for no end of such a word is the start of one (`declaredNamesFrom_free`). So the names
declared in a source made of declarations, barriers and such texts are the names in it, in order
(`declaredNames_compose`).
-/

namespace Soliscope.Solidity

open Soliscope.Text

/-- A declaration in writing: one of the words that introduce a name, blanks, and the name. -/
structure Declaration where
  keyword : List Char
  blanks : List Char
  name : List Char
  isKeyword : keyword ∈ declarationKeywords
  spaced : blanks ≠ []
  blank : ∀ c ∈ blanks, isBlank c = true
  given : name ≠ []
  word : ∀ c ∈ name, isWord c = true

/-- A declaration as it stands in a source. -/
def Declaration.text (declaration : Declaration) : List Char :=
  declaration.keyword ++ (declaration.blanks ++ declaration.name)

/-- A text that does not go on with a word. -/
def EndsWord : List Char → Prop
  | [] => True
  | c :: _ => isWord c = false

/-- A character that is neither blank nor part of a word. -/
structure IsBarrier (c : Char) : Prop where
  notBlank : isBlank c = false
  notWord : isWord c = false

/-- A text without any of the words that introduce a name. -/
def IsFree (text : List Char) : Prop :=
  ∀ keyword ∈ declarationKeywords, ¬ keyword <:+: text

section Characters

/-- The code points of blanks. -/
def blankCodes : List Nat :=
  ((0x1C, 0x1F) :: whiteSpaceRanges).flatMap fun range =>
    List.range' range.1 (range.2 + 1 - range.1)

/-- The blank characters are listed. -/
theorem mem_blankCodes {c : Char} (blank : isBlank c = true) : c.toNat ∈ blankCodes := by
  obtain ⟨range, member, least, most⟩ :
      ∃ range ∈ (0x1C, 0x1F) :: whiteSpaceRanges, range.1 ≤ c.toNat ∧ c.toNat ≤ range.2 := by
    rcases Bool.or_eq_true_iff.mp blank with white | separator
    · obtain ⟨range, member, within⟩ := CodeRanges.has_iff.mp white
      exact ⟨range, List.mem_cons_of_mem _ member, within⟩
    · simp only [Bool.and_eq_true, decide_eq_true_eq] at separator
      exact ⟨_, List.mem_cons_self, separator⟩
  refine List.mem_flatMap.mpr ⟨range, member, List.mem_range'_1.mpr ⟨least, ?_⟩⟩
  omega

/-- No blank is part of a word. -/
theorem not_isWord_of_isBlank {c : Char} (blank : isBlank c = true) : isWord c = false := by
  have all : ∀ code ∈ blankCodes, isWord (Char.ofNat code) = false := by decide +kernel
  have found := all c.toNat (mem_blankCodes blank)
  rwa [Char.ofNat_toNat] at found

/-- No character is both blank and part of a word. -/
theorem not_isBlank_of_isWord {c : Char} (word : isWord c = true) : isBlank c = false := by
  cases blank : isBlank c with
  | false => rfl
  | true =>
      rw [not_isWord_of_isBlank blank] at word
      cases word

/-- Keywords are words. -/
theorem isWord_of_mem_keyword {keyword : List Char} (isKeyword : keyword ∈ declarationKeywords)
    {c : Char} (member : c ∈ keyword) : isWord c = true := by
  have all : ∀ keyword ∈ declarationKeywords, keyword.all isWord = true := by decide +kernel
  exact List.all_eq_true.mp (all keyword isKeyword) c member

/-- A declaration has no barrier in it. -/
theorem Declaration.notMem_text (declaration : Declaration) {c : Char} (barrier : IsBarrier c) :
    c ∉ declaration.text := by
  intro member
  have isPart : isBlank c = true ∨ isWord c = true := by
    rcases List.mem_append.mp member with inKeyword | member
    · exact Or.inr (isWord_of_mem_keyword declaration.isKeyword inKeyword)
    · rcases List.mem_append.mp member with inBlanks | inName
      · exact Or.inl (declaration.blank c inBlanks)
      · exact Or.inr (declaration.word c inName)
  simp [barrier.notBlank, barrier.notWord] at isPart

end Characters

section Front

/-- No word goes on behind its end. -/
theorem takeWhile_isWord {rest : List Char} (ends : EndsWord rest) :
    rest.takeWhile isWord = [] := by
  cases rest with
  | nil => rfl
  | cons c rest => exact List.takeWhile_cons_of_neg (Bool.eq_false_iff.mp ends)

/-- What is left over behind a word begins with its end. -/
theorem endsWord_dropWhile (text : List Char) : EndsWord (text.dropWhile isWord) := by
  cases left : text.dropWhile isWord with
  | nil => trivial
  | cons c rest =>
      have stopped := @List.head_dropWhile_not _ isWord text (by simp [left])
      simp only [left, List.head_cons] at stopped
      exact stopped

/-- A name is found behind blanks, and it is as long as it can be. -/
theorem nameAfterBlanks?_eq_some_iff {text name : List Char} {size : Nat} :
    nameAfterBlanks? text = some (name, size) ↔
      ∃ blanks rest, text = blanks ++ (name ++ rest) ∧ blanks ≠ [] ∧
        (∀ c ∈ blanks, isBlank c = true) ∧ name ≠ [] ∧ (∀ c ∈ name, isWord c = true) ∧
        EndsWord rest ∧ blanks.length + name.length = size := by
  unfold nameAfterBlanks?
  dsimp only
  constructor
  · intro read
    split at read
    · cases read
    next spaced =>
      split at read
      · cases read
      next given =>
        rw [List.isEmpty_iff] at spaced given
        cases read
        refine ⟨text.takeWhile isBlank, (text.dropWhile isBlank).dropWhile isWord, ?_, spaced,
          fun c member => List.mem_takeWhile_imp member, given,
          fun c member => List.mem_takeWhile_imp member, endsWord_dropWhile _, rfl⟩
        rw [List.takeWhile_append_dropWhile, List.takeWhile_append_dropWhile]
  · rintro ⟨blanks, rest, rfl, spaced, blank, given, word, ends, rfl⟩
    obtain ⟨first, others, rfl⟩ := List.exists_cons_of_ne_nil given
    have stops : isBlank first = false := not_isBlank_of_isWord (word first List.mem_cons_self)
    have read : ((first :: others) ++ rest).takeWhile isWord = first :: others := by
      rw [List.takeWhile_append_of_pos word, takeWhile_isWord ends, List.append_nil]
    rw [List.cons_append, takeWhile_run blank stops, dropWhile_run blank stops, ← List.cons_append,
      read]
    simp [spaced]

/-- None of the words that introduce a name begins with another one. -/
theorem eq_of_keyword_prefix {keyword other : List Char}
    (isKeyword : keyword ∈ declarationKeywords) (isOther : other ∈ declarationKeywords)
    {rest : List Char} (starts : other <+: keyword ++ rest) : other = keyword := by
  have apart : ∀ keyword ∈ declarationKeywords, ∀ other ∈ declarationKeywords,
      other <+: keyword → other = keyword := by decide
  rcases List.prefix_or_prefix_of_prefix starts (List.prefix_append keyword rest) with
    shorter | longer
  · exact apart keyword isKeyword other isOther shorter
  · exact (apart other isOther keyword isKeyword longer).symm

/-- **A declaration is read off a text that begins with one in writing whose name ends there.** -/
theorem declaration?_eq_some_iff {text name : List Char} {size : Nat} :
    declaration? text = some (name, size) ↔
      ∃ (declaration : Declaration) (rest : List Char), text = declaration.text ++ rest ∧
        EndsWord rest ∧ declaration.name = name ∧ declaration.text.length = size := by
  constructor
  · intro read
    obtain ⟨keyword, isKeyword, found⟩ := List.exists_of_findSome?_eq_some read
    obtain ⟨afterKeyword, starts, found⟩ := Option.bind_eq_some_iff.mp found
    obtain ⟨⟨other, part⟩, named, same⟩ := Option.map_eq_some_iff.mp found
    cases same
    obtain ⟨blanks, rest, rfl, spaced, blank, given, word, ends, rfl⟩ :=
      nameAfterBlanks?_eq_some_iff.mp named
    refine ⟨⟨keyword, blanks, other, isKeyword, spaced, blank, given, word⟩, rest, ?_, ends, rfl, ?_⟩
    · rw [← List.isPrefixOf?_eq_some_iff_append_eq.mp starts]
      simp only [Declaration.text, List.append_assoc]
    · simp only [Declaration.text, List.length_append]
  · rintro ⟨declaration, rest, rfl, ends, rfl, rfl⟩
    have whole : declaration.text ++ rest =
        declaration.keyword ++ (declaration.blanks ++ (declaration.name ++ rest)) := by
      simp only [Declaration.text, List.append_assoc]
    have named := nameAfterBlanks?_eq_some_iff.mpr ⟨declaration.blanks, rest, rfl,
      declaration.spaced, declaration.blank, declaration.given, declaration.word, ends, rfl⟩
    obtain ⟨earlier, later, split, first⟩ := List.eq_append_cons_of_mem declaration.isKeyword
    rw [whole]
    refine List.findSome?_eq_some_iff.mpr ⟨earlier, declaration.keyword, later, split, ?_, ?_⟩
    · rw [List.isPrefixOf?_eq_some_iff_append_eq.mpr rfl, Option.bind_some, named]
      simp only [Option.map_some, Declaration.text, List.length_append]
    · intro other member
      have isOther : other ∈ declarationKeywords := by
        rw [split]
        exact List.mem_append_left _ member
      cases starts : other.isPrefixOf? (declaration.keyword ++
          (declaration.blanks ++ (declaration.name ++ rest))) with
      | none => rfl
      | some left =>
          have same := eq_of_keyword_prefix declaration.isKeyword isOther
            ⟨left, List.isPrefixOf?_eq_some_iff_append_eq.mp starts⟩
          exact (first (same ▸ member)).elim

/-- A declaration is found where it is written, if its name ends there. -/
theorem declaration?_written (declaration : Declaration) {rest : List Char}
    (ends : EndsWord rest) :
    declaration? (declaration.text ++ rest) =
      some (declaration.name, declaration.text.length) :=
  declaration?_eq_some_iff.mpr ⟨declaration, rest, rfl, ends, rfl, rfl⟩

/-- Without one of the words in front there is no declaration. -/
theorem declaration?_eq_none {text : List Char}
    (unintroduced : ∀ keyword ∈ declarationKeywords, ¬ keyword <+: text) :
    declaration? text = none := by
  apply Option.eq_none_iff_forall_ne_some.mpr
  intro found read
  obtain ⟨declaration, rest, rfl, -⟩ := declaration?_eq_some_iff.mp read
  apply unintroduced declaration.keyword declaration.isKeyword
  rw [Declaration.text, List.append_assoc]
  exact List.prefix_append _ _

/-- A barrier ends words as well. -/
theorem EndsWord.append {rest : List Char} (ends : EndsWord rest) {c : Char}
    (barrier : IsBarrier c) (back : List Char) : EndsWord (rest ++ c :: back) := by
  cases rest with
  | nil => exact barrier.notWord
  | cons first rest => exact ends

/-- What stands behind a barrier makes no difference to a declaration in front of it. -/
theorem declaration?_barrier {c : Char} (barrier : IsBarrier c) (front back : List Char) :
    declaration? (front ++ c :: back) = declaration? front := by
  apply Option.ext
  rintro ⟨name, size⟩
  rw [declaration?_eq_some_iff, declaration?_eq_some_iff]
  constructor
  · rintro ⟨declaration, rest, cut, ends, named, sized⟩
    obtain ⟨left, rfl⟩ : declaration.text <+: front :=
      prefix_append_break (declaration.notMem_text barrier) ⟨rest, cut.symm⟩
    refine ⟨declaration, left, rfl, ?_, named, sized⟩
    rw [List.append_assoc] at cut
    rw [← List.append_cancel_left cut] at ends
    cases left with
    | nil => trivial
    | cons first left => exact ends
  · rintro ⟨declaration, rest, rfl, ends, named, sized⟩
    exact ⟨declaration, rest ++ c :: back, List.append_assoc _ _ _, ends.append barrier back, named,
      sized⟩

end Front

section Scan

/-- Characters that belong to a declaration are passed over. -/
theorem declaredNamesFrom_skip (skip : Nat) (text : List Char) :
    declaredNamesFrom skip text = declaredNamesFrom 0 (text.drop skip) := by
  induction text generalizing skip with
  | nil => rw [List.drop_nil, declaredNamesFrom, declaredNamesFrom]
  | cons c rest ih =>
      cases skip with
      | zero => rfl
      | succ skip =>
          rw [declaredNamesFrom, List.drop_succ_cons]
          exact ih skip

/-- Where no declaration begins, the search goes on behind the first character. -/
theorem declaredNamesFrom_pass {c : Char} {rest : List Char}
    (nothing : declaration? (c :: rest) = none) :
    declaredNamesFrom 0 (c :: rest) = declaredNamesFrom 0 rest := by
  rw [declaredNamesFrom, nothing]

/-- A declaration is not empty. -/
theorem Declaration.text_eq_cons (declaration : Declaration) :
    ∃ first others, declaration.text = first :: others := by
  apply List.exists_cons_of_ne_nil
  intro empty
  apply declaration.given
  exact (List.append_eq_nil_iff.mp (List.append_eq_nil_iff.mp empty).2).2

/-- A declaration gives its name, and the search goes on behind it. -/
theorem declaredNamesFrom_declaration (declaration : Declaration) {rest : List Char}
    (ends : EndsWord rest) :
    declaredNamesFrom 0 (declaration.text ++ rest) =
      declaration.name :: declaredNamesFrom 0 rest := by
  have read := declaration?_written declaration ends
  obtain ⟨first, others, starts⟩ := declaration.text_eq_cons
  rw [starts, List.cons_append] at read ⊢
  rw [declaredNamesFrom, read]
  dsimp only
  rw [List.length_cons, Nat.add_sub_cancel, declaredNamesFrom_skip, List.drop_left]

/-- A declaration alone gives its name alone. -/
theorem declaredNamesFrom_alone (declaration : Declaration) :
    declaredNamesFrom 0 declaration.text = [declaration.name] := by
  have ended : EndsWord [] := trivial
  rw [← List.append_nil declaration.text, declaredNamesFrom_declaration declaration ended]
  rfl

/-- A text is empty, or has a character in front with which no declaration starts, or has a
declaration in front. -/
theorem declaration_induction {motive : List Char → Prop} (nil : motive [])
    (pass : ∀ c rest, declaration? (c :: rest) = none → motive rest → motive (c :: rest))
    (declaration : ∀ (declaration : Declaration) (rest : List Char), EndsWord rest →
      motive rest → motive (declaration.text ++ rest)) (text : List Char) : motive text := by
  induction length : text.length using Nat.strong_induction_on generalizing text with
  | h size ih =>
      cases text with
      | nil => exact nil
      | cons c rest =>
          cases read : declaration? (c :: rest) with
          | none =>
              apply pass c rest read
              exact ih rest.length (by rw [← length]; exact Nat.lt_succ_self _) rest rfl
          | some found =>
              obtain ⟨written, left, whole, ends, -, -⟩ := declaration?_eq_some_iff.mp read
              obtain ⟨first, others, starts⟩ := written.text_eq_cons
              rw [whole]
              apply declaration written left ends
              refine ih left.length ?_ left rfl
              rw [← length, whole, starts, List.length_append, List.length_cons]
              omega

/-- **A barrier parts a source**: the names declared on both sides are found independently. -/
theorem declaredNamesFrom_barrier {c : Char} (barrier : IsBarrier c) (front back : List Char) :
    declaredNamesFrom 0 (front ++ c :: back) =
      declaredNamesFrom 0 front ++ declaredNamesFrom 0 back := by
  induction front using declaration_induction with
  | nil =>
      have nothing : declaration? (c :: back) = none := declaration?_barrier barrier [] back
      exact declaredNamesFrom_pass nothing
  | pass first rest nothing ih =>
      have still := declaration?_barrier barrier (first :: rest) back
      rw [nothing] at still
      rw [declaredNamesFrom_pass nothing, ← ih]
      exact declaredNamesFrom_pass still
  | declaration declaration rest ends ih =>
      rw [List.append_assoc, declaredNamesFrom_declaration declaration (ends.append barrier back),
        declaredNamesFrom_declaration declaration ends, ih, List.cons_append]

/-- A text in which none of the words starts is passed over. -/
theorem declaredNamesFrom_passOver {front back : List Char}
    (clear : ∀ before after, front = before ++ after → after ≠ [] →
      ∀ keyword ∈ declarationKeywords, ¬ keyword <+: after ++ back) :
    declaredNamesFrom 0 (front ++ back) = declaredNamesFrom 0 back := by
  induction front with
  | nil => rfl
  | cons c front ih =>
      have nothing : declaration? (c :: (front ++ back)) = none :=
        declaration?_eq_none (clear [] (c :: front) rfl (List.cons_ne_nil _ _))
      rw [List.cons_append, declaredNamesFrom_pass nothing]
      apply ih
      intro before after cut given
      exact clear (c :: before) after (by rw [cut, List.cons_append]) given

/-- No proper end of one of the words is the start of one, nor starts with one. -/
theorem keywords_apart : ∀ other ∈ declarationKeywords, ∀ keyword ∈ declarationKeywords,
    ∀ size < other.length, 0 < size →
      ¬ other.drop size <+: keyword ∧ ¬ keyword <+: other.drop size := by
  decide

/-- Not even one of the words right behind it lets a free text start one. -/
theorem IsFree.not_prefix {text after : List Char} (free : IsFree text) (ending : after <:+ text)
    (some : after ≠ []) {keyword other : List Char} (isKeyword : keyword ∈ declarationKeywords)
    (isOther : other ∈ declarationKeywords) (more : List Char) :
    ¬ other <+: after ++ (keyword ++ more) := by
  rintro ⟨rest, cut⟩
  rcases List.append_eq_append_iff.mp cut with ⟨left, within, -⟩ | ⟨left, reaches, continues⟩
  · exact free other isOther (List.IsInfix.trans ⟨[], left, by rw [within]; rfl⟩ ending.isInfix)
  · by_cases nothing : left = []
    · apply free other isOther
      rw [reaches, nothing, List.append_nil]
      exact ending.isInfix
    · have isEnd : other.drop after.length = left := by rw [reaches, List.drop_left]
      have sizes : after.length < other.length := by
        rw [reaches, List.length_append]
        exact Nat.lt_add_of_pos_right (List.length_pos_of_ne_nil nothing)
      have apart := keywords_apart other isOther keyword isKeyword after.length sizes
        (List.length_pos_of_ne_nil some)
      rw [isEnd] at apart
      rcases List.prefix_or_prefix_of_prefix ⟨rest, continues.symm⟩ (List.prefix_append keyword more)
        with short | long
      · exact apart.1 short
      · exact apart.2 long

/-- Text without declarations gives no names in front of one. -/
theorem declaredNamesFrom_free {text : List Char} (free : IsFree text) (declaration : Declaration)
    (more : List Char) :
    declaredNamesFrom 0 (text ++ (declaration.text ++ more)) =
      declaredNamesFrom 0 (declaration.text ++ more) := by
  apply declaredNamesFrom_passOver
  intro before after cut given other isOther
  rw [Declaration.text, List.append_assoc]
  exact free.not_prefix ⟨before, cut.symm⟩ given declaration.isKeyword isOther _

theorem declaredNamesFrom_of_free {text : List Char} (free : IsFree text) :
    declaredNamesFrom 0 text = [] := by
  have passed := @declaredNamesFrom_passOver text [] fun before after cut _ keyword isKeyword =>
    fun starts => by
      rw [List.append_nil] at starts
      exact free keyword isKeyword (starts.isInfix.trans ⟨before, [], by rw [cut, List.append_nil]⟩)
  rw [List.append_nil] at passed
  exact passed

end Scan

/-- A declaration and what stands between it and the next one: a barrier and a free text. -/
structure Passage where
  declaration : Declaration
  barrier : Char
  isBarrier : IsBarrier barrier
  rest : List Char
  free : IsFree rest

/-- A passage as it stands in a source. -/
def Passage.text (passage : Passage) : List Char :=
  passage.declaration.text ++ passage.barrier :: passage.rest

/-- **The names in a source made of passages**, behind a free text. -/
theorem declaredNamesFrom_passages {opening : List Char} (free : IsFree opening)
    (passages : List Passage) :
    declaredNamesFrom 0 (opening ++ passages.flatMap Passage.text) =
      passages.map (·.declaration.name) := by
  induction passages generalizing opening with
  | nil => rw [List.flatMap_nil, List.append_nil, declaredNamesFrom_of_free free, List.map_nil]
  | cons passage passages ih =>
      calc
        declaredNamesFrom 0 (opening ++ (passage :: passages).flatMap Passage.text)
            = declaredNamesFrom 0 (passage.declaration.text ++ passage.barrier ::
                (passage.rest ++ passages.flatMap Passage.text)) := by
              rw [List.flatMap_cons, Passage.text, List.append_assoc, List.cons_append,
                declaredNamesFrom_free free]
        _ = declaredNamesFrom 0 passage.declaration.text ++
              declaredNamesFrom 0 (passage.rest ++ passages.flatMap Passage.text) :=
            declaredNamesFrom_barrier passage.isBarrier _ _
        _ = (passage :: passages).map (·.declaration.name) := by
            rw [declaredNamesFrom_alone, ih passage.free]
            rfl

/-- **Declared names compose.** A barrier parts a source into two that are searched independently; a
declaration by itself gives its name; and a source made of declarations, each followed by a barrier
and a text without the words, gives exactly their names, in order. -/
theorem declaredNames_compose :
    (∀ (front back : String) (c : Char), IsBarrier c →
      declaredNames (front ++ String.singleton c ++ back) =
        declaredNames front ++ declaredNames back) ∧
    (∀ declaration : Declaration,
      declaredNames (.ofList declaration.text) = [.ofList declaration.name]) ∧
    ∀ (opening : List Char) (passages : List Passage), IsFree opening →
      declaredNames (.ofList (opening ++ passages.flatMap Passage.text)) =
        passages.map (.ofList ·.declaration.name) := by
  refine ⟨fun front back c barrier => ?_, fun declaration => ?_, fun opening passages free => ?_⟩
  · have joined : (front ++ String.singleton c ++ back).toList =
        front.toList ++ c :: back.toList := by
      rw [String.toList_append, String.toList_append, String.toList_singleton, List.append_assoc]
      rfl
    rw [declaredNames, joined, declaredNamesFrom_barrier barrier, List.map_append]
    rfl
  · rw [declaredNames, String.toList_ofList, declaredNamesFrom_alone]
    rfl
  · rw [declaredNames, String.toList_ofList, declaredNamesFrom_passages free, List.map_map]
    rfl

/-- Two declarations: the first one introduced by the end of a longer word, the second one of a name
that introduces names itself. -/
def nestedPassages : List Passage := [
  { declaration := {
      keyword := "contract".toList
      blanks := [' ']
      name := "Zähler".toList
      isKeyword := by decide
      spaced := by decide
      blank := List.all_eq_true.mp (by decide)
      given := by decide
      word := List.all_eq_true.mp (by decide +kernel) }
    barrier := '{'
    isBarrier := ⟨by decide, by decide⟩
    rest := " uint x; ".toList
    free := by
      unfold IsFree
      decide },
  { declaration := {
      keyword := "interface".toList
      blanks := ['\t', '\n']
      name := "contract".toList
      isKeyword := by decide
      spaced := by decide
      blank := List.all_eq_true.mp (by decide)
      given := by decide
      word := List.all_eq_true.mp (by decide) }
    barrier := ';'
    isBarrier := ⟨by decide, by decide⟩
    rest := []
    free := by
      unfold IsFree
      decide }]

/-- The theorem at a source made of these. -/
theorem declaredNames_compose_nested :
    IsFree "// sub".toList ∧
    declaredNames "// subcontract Zähler\x7b uint x; interface\t\ncontract;" =
      ["Zähler", "contract"] := by
  have free : IsFree "// sub".toList := by
    unfold IsFree
    decide
  exact ⟨free, declaredNames_compose.2.2 "// sub".toList nestedPassages free⟩

end Soliscope.Solidity
