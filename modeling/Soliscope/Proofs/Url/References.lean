import Soliscope.Proofs.Url.Reading
import Soliscope.Url.Join

/-! # References and the query of their base

A reference that is joined to a base keeps the query of the base or drops it. Which of both, and all
the rest, is up to the reference and the rest of the base (`joinParts_query`). Two bases that differ
in their query therefore lead to the same place but for the query, as long as neither of the joined
texts is too long (`Address.join_sameButQuery`).
-/

namespace Soliscope.Url

/-- Path and parameter are taken from the path. -/
theorem splitParameter_subset (path : List Char) :
    (splitParameter path).1 ⊆ path ∧ (splitParameter path).2 ⊆ path := by
  have last : (path.reverse.takeWhile (· != '/')).reverse ⊆ path := fun c member =>
    List.mem_reverse.mp ((List.takeWhile_subset _) (List.mem_reverse.mp member))
  refine ⟨fun c member => ?_, fun c member => ?_⟩
  · rcases List.mem_append.mp member with before | inLast
    · exact List.mem_of_mem_take before
    · exact last ((List.takeWhile_subset _) inLast)
  · exact last ((List.dropWhile_subset _) (List.mem_of_mem_drop member))

/-- Parts joined from plain ones are clean. -/
theorem joinedParts_isClean {scheme authority path parameter : List Char}
    {fragment : Option (List Char)} (schemePlain : IsPlain scheme)
    (authorityPlain : IsPlain authority) (pathPlain : IsPlain path)
    (parameterPlain : IsPlain parameter) (free : ∀ text ∈ fragment, HasNoControl text) :
    (joinedParts scheme authority path parameter none fragment).IsClean := by
  have whole : IsPlain (if parameter.isEmpty then path else path ++ ';' :: parameter) := by
    split
    · exact pathPlain
    · exact pathPlain.append ((isPlain_singleton (c := ';') (by decide)).append parameterPlain)
  refine ⟨schemePlain, authorityPlain, ?_, fun query same => (by cases same), ?_⟩
  · unfold joinedParts
    dsimp only
    generalize (if parameter.isEmpty then path else path ++ ';' :: parameter) = joined at whole ⊢
    split
    · exact (isPlain_singleton (c := '/') (by decide)).append whole
    · exact whole
  · intro text found
    obtain ⟨other, inside, given⟩ := Option.bind_eq_some_iff.mp found
    unfold given? at given
    split at given
    · cases given
    · cases given
      exact free text inside

/-- A query only takes the place of the missing one. -/
theorem joinedParts_query (scheme authority path parameter : List Char) {query : List Char}
    (given : query ≠ []) (fragment : Option (List Char)) :
    joinedParts scheme authority path parameter (some query) fragment =
      { joinedParts scheme authority path parameter none fragment with query := some query } := by
  have isGiven : given? query = some query := by
    rw [given?, if_neg]
    rwa [List.isEmpty_iff]
  simp only [joinedParts, Option.bind_some, isGiven]

/-- The scheme of a reference to a base. -/
def referenceScheme (base reference : Parts) : List Char :=
  if reference.scheme.isEmpty then base.scheme else reference.scheme.map Char.toLower

/-- The parts of a path of a scheme: what is before its parameter, and the parameter. -/
def splitFor (scheme path : List Char) : List Char × List Char :=
  if plainSchemes.contains (String.ofList scheme) then (path, []) else splitParameter path

theorem splitFor_subset (scheme path : List Char) :
    (splitFor scheme path).1 ⊆ path ∧ (splitFor scheme path).2 ⊆ path := by
  unfold splitFor
  split
  · exact ⟨List.Subset.refl path, fun c member => (by cases member)⟩
  · exact splitParameter_subset path

/-- A reference is relative to a base. -/
structure IsRelative (base reference : Parts) : Prop where
  given : reference.render.isEmpty = false
  sameScheme : referenceScheme base reference = base.scheme
  relativeScheme : relativeSchemes.contains (String.ofList base.scheme) = true

/-- What joining a relative reference gives, by cases on its first part that is given. -/
theorem joinParts_of_relative (base reference : Parts) (relative : IsRelative base reference) :
    joinParts base reference =
      if !reference.authority.isEmpty then
        joinedParts base.scheme reference.authority (splitFor base.scheme reference.path).1
          (splitFor base.scheme reference.path).2 reference.query reference.fragment
      else if (splitFor base.scheme reference.path).1.isEmpty &&
          (splitFor base.scheme reference.path).2.isEmpty then
        joinedParts base.scheme base.authority (splitFor base.scheme base.path).1
          (splitFor base.scheme base.path).2 (reference.query.bind given? <|> base.query)
          reference.fragment
      else
        joinedParts base.scheme base.authority
          (joinPath (splitFor base.scheme base.path).1 (splitFor base.scheme reference.path).1)
          (splitFor base.scheme reference.path).2 reference.query reference.fragment := by
  have sameScheme := relative.sameScheme
  unfold referenceScheme at sameScheme
  unfold joinParts
  rw [relative.given, sameScheme]
  dsimp only
  rw [relative.relativeScheme, bne_self_eq_false]
  rfl

/-- A reference that is not relative to a base does not depend on the query of the base, unless it
is empty and stands for the base itself. -/
theorem joinParts_of_not_relative (base reference : Parts)
    (absolute : ¬ IsRelative base reference) :
    joinParts base reference = if reference.render.isEmpty then base else reference := by
  by_cases empty : reference.render.isEmpty = true
  · rw [joinParts, if_pos empty, if_pos empty]
  · have foreign : (referenceScheme base reference != base.scheme ||
        !relativeSchemes.contains (String.ofList (referenceScheme base reference))) = true := by
      by_contra known
      simp only [Bool.or_eq_true, not_or, bne_iff_ne, ne_eq, not_not, Bool.not_eq_true',
        Bool.not_eq_false] at known
      exact absolute ⟨Bool.eq_false_iff.mpr empty, known.1, known.1 ▸ known.2⟩
    rw [joinParts, if_neg empty, if_neg empty]
    exact if_pos foreign

/-- **What becomes of the query of a base.** A reference drops it or keeps it, whatever it is. -/
theorem joinParts_query {base : Parts} (clean : base.IsClean) {reference : Parts}
    (free : ∀ text ∈ reference.fragment, HasNoControl text) :
    (∃ joined, ∀ query, query ≠ [] →
      joinParts { base with query := some query } reference = joined) ∨
    ∃ joined : Parts, joined.IsClean ∧ ∀ query, query ≠ [] →
      joinParts { base with query := some query } reference =
        { joined with query := some query } := by
  by_cases relative : IsRelative base reference
  · have joins (query : List Char) := joinParts_of_relative
      { base with query := some query } reference
      ⟨relative.given, relative.sameScheme, relative.relativeScheme⟩
    dsimp only at joins
    by_cases hasAuthority : (!reference.authority.isEmpty) = true
    · simp only [hasAuthority, ↓reduceIte] at joins
      exact Or.inl ⟨_, fun query _ => joins query⟩
    by_cases noPath : ((splitFor base.scheme reference.path).1.isEmpty &&
        (splitFor base.scheme reference.path).2.isEmpty) = true
    · simp only [hasAuthority, noPath, Bool.false_eq_true, ↓reduceIte] at joins
      cases own : reference.query.bind given? with
      | some query' =>
          refine Or.inl ⟨joinedParts base.scheme base.authority (splitFor base.scheme base.path).1
            (splitFor base.scheme base.path).2 (some query') reference.fragment, fun query _ => ?_⟩
          rw [joins query, own]
          rfl
      | none =>
          obtain ⟨pathWithin, parameterWithin⟩ := splitFor_subset base.scheme base.path
          refine Or.inr ⟨_, joinedParts_isClean clean.scheme clean.authority
            (clean.path.of_subset pathWithin) (clean.path.of_subset parameterWithin) free,
            fun query isGiven => ?_⟩
          rw [joins query, own]
          exact joinedParts_query _ _ _ _ isGiven _
    · simp only [hasAuthority, noPath, Bool.false_eq_true, ↓reduceIte] at joins
      exact Or.inl ⟨_, fun query _ => joins query⟩
  · have joins (query : List Char) := joinParts_of_not_relative
      { base with query := some query } reference
      fun related => relative ⟨related.given, related.sameScheme, related.relativeScheme⟩
    by_cases empty : reference.render.isEmpty = true
    · simp only [empty, ↓reduceIte] at joins
      exact Or.inr ⟨base, clean, fun query _ => joins query⟩
    · simp only [empty, Bool.false_eq_true, ↓reduceIte] at joins
      exact Or.inl ⟨reference, fun query _ => joins query⟩

/-- The text that a reference joined to a base is read from. -/
def Address.joinedText (base reference : Address) : List Char :=
  (joinParts (Parts.ofText base.render.toList) (Parts.ofText reference.render.toList)).render

/-- An address is joined through its text. -/
theorem Address.join_eq (base reference : Address) :
    base.join reference = parse (String.ofList (base.joinedText reference)) := rfl

/-- An address with the query of a form is read back with the same query. -/
theorem Parts.ofText_render_putQuery {address : Address} (clean : address.IsClean)
    {query : List Char} (isQuery : IsFormQuery query) :
    Parts.ofText (address.putQuery query).render.toList =
      { Parts.ofText address.parts.front with
        query := some query, fragment := address.fragment } := by
  have written : (address.putQuery query).render.toList =
      address.parts.front ++ '?' :: (query ++ address.fragment.elim [] ('#' :: ·)) := by
    rw [Address.render, String.toList_ofList]
    rw [Address.parts_putQuery, isQuery.escape_eq, Parts.render_query]
    rfl
  rw [written, Parts.ofText_query clean.parts.isPlain_front isQuery.noHash]

/-- The outcomes for two queries are the same but for the query. -/
def SameButQuery (first second : List Char) (one other : Except Flaw Address) : Prop :=
  one = other ∨ ∃ outcome : Except Flaw Address,
    one = outcome.map (·.putQuery first) ∧ other = outcome.map (·.putQuery second)

/-- **Joining to a base goes its way whatever the query**, as long as no text is too long. -/
theorem Address.join_sameButQuery {base reference : Address} (clean : base.IsClean)
    (referenceClean : reference.IsClean) {first second : List Char} (isFirst : IsFormQuery first)
    (isSecond : IsFormQuery second)
    (firstFits : ((base.putQuery first).joinedText reference).length ≤ lengthLimit)
    (secondFits : ((base.putQuery second).joinedText reference).length ≤ lengthLimit) :
    SameButQuery first second ((base.putQuery first).join reference)
      ((base.putQuery second).join reference) := by
  have frontClean := Parts.ofText_isClean clean.parts.isPlain_front.hasNoControl
  have baseClean : Parts.IsClean
      { Parts.ofText base.parts.front with fragment := base.fragment } :=
    ⟨frontClean.scheme, frontClean.authority, frontClean.path, frontClean.query, clean.fragment⟩
  have free := (Parts.ofText_isClean referenceClean.render).fragment
  have text {query : List Char} (isQuery : IsFormQuery query) :
      (base.putQuery query).joinedText reference =
        (joinParts { Parts.ofText base.parts.front with
          query := some query, fragment := base.fragment }
          (Parts.ofText reference.render.toList)).render := by
    rw [Address.joinedText, Parts.ofText_render_putQuery clean isQuery]
  rw [Address.join_eq, Address.join_eq]
  rcases joinParts_query baseClean free with ⟨joined, same⟩ | ⟨joined, joinedClean, keeps⟩
  · refine Or.inl ?_
    rw [text isFirst, text isSecond, same first isFirst.given, same second isSecond.given]
  · obtain ⟨outcome, parsed⟩ := parse_query joinedClean
    refine Or.inr ⟨outcome, ?_, ?_⟩
    · have isText := text isFirst
      rw [keeps first isFirst.given] at isText
      rw [isText] at firstFits ⊢
      exact parsed first isFirst firstFits
    · have isText := text isSecond
      rw [keeps second isSecond.given] at isText
      rw [isText] at secondFits ⊢
      exact parsed second isSecond secondFits

end Soliscope.Url
