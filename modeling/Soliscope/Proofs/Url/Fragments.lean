import Soliscope.Proofs.Url.References

/-! # References to a fragment

A reference that is a fragment alone leads to a place in the base itself: joined, the base keeps its
query and gets the fragment (`joinParts_fragment`). The joined text is longer than the base by the
fragment and its mark.
-/

namespace Soliscope.Url

/-- A reference that begins with a hash is a fragment alone. -/
theorem Parts.ofText_fragment (text : List Char) :
    Parts.ofText ('#' :: text) = ⟨[], [], [], none, some text⟩ := rfl

/-- A fragment alone is an address. -/
theorem parse_fragment {text : List Char} (safe : ∀ c ∈ text, isFragmentSafe c = true)
    (short : text.length < lengthLimit) :
    parse (String.ofList ('#' :: text)) = .ok ⟨[], [], [], none, [], none, some text⟩ := by
  have free : HasNoControl ('#' :: text) := by
    intro c member
    rcases List.mem_cons.mp member with rfl | inText
    · decide
    · exact not_control_of_isFragmentSafe (safe c inText)
  have fits : ('#' :: text).length ≤ lengthLimit := by
    rw [List.length_cons]
    omega
  have kept : escape isFragmentSafe text = text :=
    escape_eq_self fun c member => Or.inr (safe c member)
  rw [parse_of_hasNoControl free fits, Parts.ofText_fragment]
  change Except.ok (Address.mk [] [] [] none [] none (some (escape isFragmentSafe text))) = _
  rw [kept]

/-- An address of a scheme with relative references, with a path from its root and without a
parameter. -/
structure Parts.IsRooted (base : Parts) : Prop where
  relativeScheme : relativeSchemes.contains (String.ofList base.scheme) = true
  path : splitFor base.scheme base.path = (base.path, [])
  root : base.path.head? = some '/'

/-- A part that is not empty counts as given. -/
theorem given?_of_ne_nil {part : List Char} (given : part ≠ []) : given? part = some part := by
  rw [given?, if_neg]
  rwa [List.isEmpty_iff]

/-- A fragment joined to a base leaves the rest of it as it is. -/
theorem joinParts_fragment (base : Parts) (rooted : base.IsRooted) {query text : List Char}
    (isQuery : query ≠ []) (isText : text ≠ []) :
    joinParts { base with query := some query } ⟨[], [], [], none, some text⟩ =
      { base with query := some query, fragment := some text } := by
  have relative : IsRelative { base with query := some query } ⟨[], [], [], none, some text⟩ :=
    ⟨rfl, rfl, rooted.relativeScheme⟩
  have noPath : splitFor base.scheme [] = ([], []) := by
    unfold splitFor
    split
    · rfl
    · rfl
  rw [joinParts_of_relative _ _ relative]
  simp [noPath, rooted.path, joinedParts, rooted.root, given?_of_ne_nil isQuery,
    given?_of_ne_nil isText]

/-- A fragment adds its length and its mark. -/
theorem Parts.length_render_fragment (base : Parts) (query text : List Char) :
    (Parts.render { base with query := some query, fragment := some text }).length =
      base.front.length + query.length + text.length + 2 := by
  have front : ({ base with fragment := some text } : Parts).front = base.front := rfl
  rw [Parts.render_query { base with fragment := some text } query, front]
  simp only [List.length_append, List.length_cons, Option.elim]
  omega

/-- The text of a fragment joined to an address with a form as its query. -/
theorem Address.joinedText_fragment {base : Address} (clean : base.IsClean)
    (rooted : (Parts.ofText base.parts.front).IsRooted) (unmarked : base.fragment = none)
    {query text : List Char} (isQuery : IsFormQuery query) (isText : text ≠ []) :
    (base.putQuery query).joinedText ⟨[], [], [], none, [], none, some text⟩ =
      Parts.render { Parts.ofText base.parts.front with
        query := some query, fragment := some text } := by
  have reference : (Address.mk [] [] [] none [] none (some text)).render.toList = '#' :: text := by
    rw [Address.render, String.toList_ofList]
    rfl
  have joins := joinParts_fragment
    { Parts.ofText base.parts.front with fragment := none }
    ⟨rooted.relativeScheme, rooted.path, rooted.root⟩ isQuery.given isText
  rw [Address.joinedText, Parts.ofText_render_putQuery clean isQuery, unmarked, reference,
    Parts.ofText_fragment]
  exact congrArg Parts.render joins

end Soliscope.Url
