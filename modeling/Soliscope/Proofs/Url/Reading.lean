import Soliscope.Proofs.Text.Runs
import Soliscope.Proofs.Url.Addresses
import Soliscope.Proofs.Url.Query

/-! # Taking apart what was put together

A clean address in writing is taken apart at the question mark before its query, so that another
query in its place changes nothing but the query (`Parts.ofText_query`). What a text with a query
stands for is therefore told by the rest of the text, as long as the whole is not too long
(`parse_query`).
-/

namespace Soliscope.Url

open Soliscope.Text

/-- The part of an address in writing before its query. -/
def Parts.front (parts : Parts) : List Char :=
  (if parts.scheme.isEmpty then [] else parts.scheme ++ [':']) ++
    (if parts.authority.isEmpty then [] else '/' :: '/' :: parts.authority) ++ parts.path

/-- The part of an address in front of its query is plain. -/
theorem Parts.IsClean.isPlain_front {parts : Parts} (clean : parts.IsClean) :
    IsPlain parts.front := by
  have nothing : IsPlain [] := fun c member => (by cases member)
  refine IsPlain.append (IsPlain.append ?_ ?_) clean.path
  · split
    · exact nothing
    · exact clean.scheme.append (isPlain_singleton (by decide))
  · split
    · exact nothing
    · exact (isPlain_singleton (c := '/') (by decide)).append
        ((isPlain_singleton (c := '/') (by decide)).append clean.authority)

/-- A query is written behind that part and its mark. -/
theorem Parts.render_query (parts : Parts) (query : List Char) :
    Parts.render { parts with query := some query } =
      parts.front ++ '?' :: (query ++ parts.fragment.elim [] ('#' :: ·)) := by
  simp only [Parts.render, Parts.front, Option.elim_some, List.append_assoc, List.cons_append]

/-- A mark that no scheme holds, and that ends an authority, is left with what comes after it. -/
structure IsStop (stop : Char) : Prop where
  noScheme : isSchemeChar stop = false
  endsAuthority : endsAuthority stop = true
  noColon : stop ≠ ':'
  noSlash : stop ≠ '/'

/-- The mark of a query stops the parts before it. -/
theorem question_isStop : IsStop '?' := ⟨by decide, by decide, by decide, by decide⟩

theorem hash_isStop : IsStop '#' := ⟨by decide, by decide, by decide, by decide⟩

/-- The scheme is found in front of a stop. -/
theorem splitScheme_stop {stop : Char} (isStop : IsStop stop) (front rest : List Char) :
    splitScheme (front ++ stop :: rest) =
      ((splitScheme front).1, (splitScheme front).2 ++ stop :: rest) := by
  unfold splitScheme
  rw [takeWhile_append_stop isStop.noScheme, dropWhile_append_stop isStop.noScheme]
  dsimp only
  cases front.dropWhile isSchemeChar with
  | nil =>
      rw [List.nil_append]
      split
      · rename_i same
        cases same
        exact (isStop.noColon rfl).elim
      · rfl
  | cons c others =>
      by_cases colon : c = ':'
      · subst colon
        simp only [List.cons_append]
        split <;> rfl
      · simp only [List.cons_append]
        split
        · rename_i same
          cases same
          exact (colon rfl).elim
        · split
          · rename_i same
            cases same
            exact (colon rfl).elim
          · rfl

/-- Without two slashes there is no authority. -/
theorem splitAuthority_of_unmarked {text : List Char}
    (unmarked : ∀ others, text ≠ '/' :: '/' :: others) : splitAuthority text = ([], text) := by
  unfold splitAuthority
  split
  · exact (unmarked _ rfl).elim
  · rfl

/-- The authority is found in front of a stop. -/
theorem splitAuthority_stop {stop : Char} (isStop : IsStop stop) (front rest : List Char) :
    splitAuthority (front ++ stop :: rest) =
      ((splitAuthority front).1, (splitAuthority front).2 ++ stop :: rest) := by
  have stops : (!endsAuthority stop) = false := by
    rw [isStop.endsAuthority]
    rfl
  by_cases marked : ∃ others, front = '/' :: '/' :: others
  · obtain ⟨others, rfl⟩ := marked
    rw [List.cons_append, List.cons_append, splitAuthority, splitAuthority,
      @takeWhile_append_stop Char (!endsAuthority ·) stop stops,
      @dropWhile_append_stop Char (!endsAuthority ·) stop stops]
  · have unmarked : ∀ others, front ≠ '/' :: '/' :: others := not_exists.mp marked
    rw [splitAuthority_of_unmarked unmarked]
    refine splitAuthority_of_unmarked fun others same => ?_
    cases front with
    | nil =>
        cases same
        exact isStop.noSlash rfl
    | cons first front =>
        cases front with
        | nil =>
            cases same
            exact isStop.noSlash rfl
        | cons second front =>
            cases same
            exact unmarked front rfl

section Query

variable {front query : List Char}

/-- The path of a plain text holds no stop. -/
theorem isPlain_path (plain : IsPlain front) :
    ∀ c ∈ (splitAuthority (splitScheme front).2).2, (c != '?' && c != '#') = true := by
  intro c member
  have within : c ∈ front :=
    (splitScheme_spec front).2 (splitAuthority_subset (splitScheme front).2 member)
  have found := plain c within
  simp only [isPlain, Bool.and_eq_true] at found
  simp [found.1.2, found.2]

/-- The mark of a fragment is not met in a query without one. -/
theorem ne_hash_of_mem (noHash : '#' ∉ query) : ∀ c ∈ query, (c != '#') = true := by
  intro c member
  rw [bne_iff_ne]
  rintro rfl
  exact noHash member

/-- What stands between a question mark and the fragment. -/
theorem afterMark?_query (noHash : '#' ∉ query) (fragment : Option (List Char)) :
    (afterMark? '?' ('?' :: (query ++ fragment.elim [] ('#' :: ·)))).map
      (·.takeWhile (· != '#')) = some query := by
  have goesOn := ne_hash_of_mem noHash
  rw [afterMark?]
  cases fragment with
  | none =>
      simp only [Option.elim_none, List.append_nil]
      exact congrArg some (List.takeWhile_eq_self_iff.mpr goesOn)
  | some fragment =>
      have stops : (fun c => c != '#') '#' = false := by decide
      have run := @takeWhile_append_stop Char (· != '#') '#' stops query fragment
      rw [List.takeWhile_eq_self_iff.mpr goesOn] at run
      exact congrArg some run

/-- What stands behind the query. -/
theorem afterMark?_fragment (noHash : '#' ∉ query) (fragment : Option (List Char)) :
    afterMark? '#' (('?' :: (query ++ fragment.elim [] ('#' :: ·))).dropWhile (· != '#')) =
      fragment := by
  have goesOn := ne_hash_of_mem noHash
  have question : ('?' != '#') = true := by decide
  rw [List.dropWhile_cons, question]
  cases fragment with
  | none =>
      simp only [Option.elim_none, List.append_nil, ↓reduceIte]
      rw [List.dropWhile_eq_nil_iff.mpr goesOn]
      rfl
  | some fragment =>
      have stops : (fun c => c != '#') '#' = false := by decide
      have run := @dropWhile_append_stop Char (· != '#') '#' stops query fragment
      rw [List.dropWhile_eq_nil_iff.mpr goesOn, List.nil_append] at run
      simp only [Option.elim_some, ↓reduceIte]
      rw [run]
      rfl

/-- **The query of a text is found again**, and the rest is that of the text without it. -/
theorem Parts.ofText_query (plain : IsPlain front) (noHash : '#' ∉ query)
    (fragment : Option (List Char)) :
    Parts.ofText (front ++ '?' :: (query ++ fragment.elim [] ('#' :: ·))) =
      { Parts.ofText front with query := some query, fragment := fragment } := by
  have stops : (fun c => c != '?' && c != '#') '?' = false := by decide
  have path (rest : List Char) :
      ((splitAuthority (splitScheme front).2).2 ++ '?' :: rest).takeWhile
          (fun c => c != '?' && c != '#') =
        (splitAuthority (splitScheme front).2).2.takeWhile (fun c => c != '?' && c != '#') :=
    @takeWhile_append_stop Char (fun c => c != '?' && c != '#') '?' stops _ _
  have afterPath (rest : List Char) :
      ((splitAuthority (splitScheme front).2).2 ++ '?' :: rest).dropWhile
          (fun c => c != '?' && c != '#') = '?' :: rest := by
    rw [@dropWhile_append_stop Char (fun c => c != '?' && c != '#') '?' stops,
      List.dropWhile_eq_nil_iff.mpr (isPlain_path plain), List.nil_append]
  unfold Parts.ofText
  rw [splitScheme_stop question_isStop]
  dsimp only
  rw [splitAuthority_stop question_isStop]
  dsimp only
  rw [path, afterPath, afterMark?_query noHash, afterMark?_fragment noHash]

/-- A text with a fragment alone has no query. -/
theorem Parts.query_ofText_fragment (plain : IsPlain front) (fragment : Option (List Char)) :
    (Parts.ofText (front ++ fragment.elim [] ('#' :: ·))).query = none := by
  have path := List.dropWhile_eq_nil_iff.mpr (isPlain_path plain)
  cases fragment with
  | none =>
      simp only [Parts.ofText, Option.elim_none, List.append_nil, path]
      rfl
  | some fragment =>
      have stops : (fun c => c != '?' && c != '#') '#' = false := by decide
      simp only [Parts.ofText, Option.elim_some, splitScheme_stop hash_isStop,
        splitAuthority_stop hash_isStop]
      rw [@dropWhile_append_stop Char (fun c => c != '?' && c != '#') '#' stops, path]
      rfl

end Query

/-- A query that is a form, and fits. -/
structure IsFormQuery (query : List Char) : Prop where
  given : query ≠ []
  chars : ∀ c ∈ query, isFormChar c = true
  fits : query.length ≤ lengthLimit

namespace IsFormQuery

variable {query : List Char}

/-- A form has no control characters. -/
theorem hasNoControl (isQuery : IsFormQuery query) : HasNoControl query :=
  fun c member => not_control_of_isQuerySafe (isQuerySafe_of_isFormChar (isQuery.chars c member))

theorem noHash (isQuery : IsFormQuery query) : '#' ∉ query :=
  fun member => absurd (isQuery.chars '#' member) (by decide)

theorem escape_eq (isQuery : IsFormQuery query) : escape isQuerySafe query = query :=
  escape_eq_self fun c member => Or.inr (isQuerySafe_of_isFormChar (isQuery.chars c member))

theorem sound (isQuery : IsFormQuery query) : partFlaw? .query query = none := by
  rw [partFlaw?, if_neg (Nat.not_lt.mpr isQuery.fits),
    control?_eq_none_iff.mpr isQuery.hasNoControl]
  rfl

end IsFormQuery

/-- Clean parts stay clean with it. -/
theorem Parts.IsClean.withQuery {parts : Parts} (clean : parts.IsClean) {query : List Char}
    (isQuery : IsFormQuery query) : Parts.IsClean { parts with query := some query } where
  scheme := clean.scheme
  authority := clean.authority
  path := clean.path
  query := by
    intro other same
    cases same
    exact ⟨isQuery.hasNoControl, isQuery.noHash⟩
  fragment := clean.fragment

/-- A form in the query of an address is kept when the address gets another fragment. -/
theorem Address.withFragment_putQuery (address : Address) {query : List Char}
    (isQuery : IsFormQuery query) (fragment : List Char) :
    (address.putQuery query).withFragment fragment =
      ((address.putQuery []).withFragment fragment).map (·.putQuery query) := by
  have parts : (address.putQuery query).parts = { address.parts with query := some query } := by
    rw [Address.parts_putQuery, isQuery.escape_eq]
  have bare : (address.putQuery []).parts = { address.parts with query := some [] } := rfl
  change Parts.address { (address.putQuery query).parts with fragment := some fragment } =
    (Parts.address { (address.putQuery []).parts with fragment := some fragment }).map _
  rw [parts, bare]
  exact Parts.address_query { address.parts with fragment := some fragment } isQuery.sound

/-- A short text without control characters is parsed part by part. -/
theorem parse_of_hasNoControl {text : List Char} (free : HasNoControl text)
    (fits : text.length ≤ lengthLimit) :
    parse (String.ofList text) =
      Address.ofParts (Parts.ofText text) (Authority.ofText (Parts.ofText text).authority) := by
  have short : ¬ lengthLimit < text.length := Nat.not_lt.mpr fits
  simp only [parse, String.toList_ofList, short, ↓reduceIte, control?_eq_none_iff.mpr free]

theorem parse_of_long {text : List Char} (long : lengthLimit < text.length) :
    parse (String.ofList text) = .error .tooLong := by
  simp only [parse, String.toList_ofList, long, ↓reduceIte]
  rfl

/-- **A text with another query stands for the same address but for the query**, unless it is too
long. -/
theorem parse_query {parts : Parts} (clean : parts.IsClean) :
    ∃ outcome : Except Flaw Address, ∀ query, IsFormQuery query →
      (Parts.render { parts with query := some query }).length ≤ lengthLimit →
        parse (String.ofList (Parts.render { parts with query := some query })) =
          outcome.map (·.putQuery query) := by
  refine ⟨Address.ofParts
    { Parts.ofText parts.front with query := some [], fragment := parts.fragment }
    (Authority.ofText (Parts.ofText parts.front).authority), ?_⟩
  intro query isQuery fits
  rw [parse_of_hasNoControl (clean.withQuery isQuery).render fits, Parts.render_query,
    Parts.ofText_query clean.isPlain_front isQuery.noHash]
  exact Address.ofParts_query { Parts.ofText parts.front with fragment := parts.fragment } _ query

section Length

/-- A part can be too long, but that is another flaw than an address that is. -/
theorem partFlaw?_ne_tooLong (part : Part) (text : List Char) :
    partFlaw? part text ≠ some .tooLong := by
  unfold partFlaw?
  split
  · simp
  · cases control? text <;> simp

theorem Parts.flaw?_ne_tooLong (parts : Parts) : parts.flaw? ≠ some .tooLong := by
  intro found
  obtain ⟨flaw, member, isTooLong⟩ := List.exists_of_findSome?_eq_some found
  rw [id_eq] at isTooLong
  subst isTooLong
  simp only [List.mem_cons, List.not_mem_nil, or_false] at member
  rcases member with scheme | authority | path | query | fragment
  · exact partFlaw?_ne_tooLong _ _ scheme.symm
  · exact partFlaw?_ne_tooLong _ _ authority.symm
  · exact partFlaw?_ne_tooLong _ _ path.symm
  · obtain ⟨text, -, flawed⟩ := Option.bind_eq_some_iff.mp query.symm
    exact partFlaw?_ne_tooLong _ _ flawed
  · obtain ⟨text, -, flawed⟩ := Option.bind_eq_some_iff.mp fragment.symm
    exact partFlaw?_ne_tooLong _ _ flawed

/-- Nothing that is wrong with parts is that they are too long. -/
theorem Address.ofParts_ne_tooLong (parts : Parts) (authority : Authority) :
    Address.ofParts parts authority ≠ .error .tooLong := by
  unfold Address.ofParts
  cases keptHost authority.host with
  | error flaw =>
      intro same
      cases same
  | ok host =>
      cases port : keptPort parts.scheme authority.port with
      | error flaw =>
          intro same
          cases same
          unfold keptPort at port
          split at port
          · cases port
          · split at port
            · cases port
            · cases port
      | ok port =>
          simp only [mapError_ok, bind, Except.bind]
          split
          · rename_i flaw found
            intro same
            cases same
            unfold pathFlaw? at found
            split at found
            · split at found <;> cases found
            · split at found
              · cases found
              · split at found
                · cases found
                · split at found <;> cases found
          · intro same
            cases same

/-- Only the whole text is measured, so that parts make an address of any length. -/
theorem Parts.address_ne_tooLong (parts : Parts) : parts.address ≠ .error .tooLong := by
  unfold Parts.address
  split
  · rename_i flaw found
    intro same
    cases same
    exact parts.flaw?_ne_tooLong found
  · exact Address.ofParts_ne_tooLong _ _

theorem Address.withHost_ne_tooLong (address : Address) (host : List Char) :
    address.withHost host ≠ .error .tooLong := by
  unfold Address.withHost
  dsimp only
  split
  · rename_i flaw found
    intro same
    cases same
    cases whole : address.parts.flaw? with
    | some flaw =>
        rw [whole] at found
        cases found
        exact Parts.flaw?_ne_tooLong _ whole
    | none =>
        rw [whole] at found
        exact partFlaw?_ne_tooLong _ _ found
  · exact Address.ofParts_ne_tooLong _ _

/-- **Only the length of a text makes it too long.** -/
theorem parse_eq_tooLong_iff {text : List Char} :
    parse (String.ofList text) = .error .tooLong ↔ lengthLimit < text.length := by
  constructor
  · intro parsed
    by_contra short
    simp only [parse, String.toList_ofList, short, ↓reduceIte] at parsed
    split at parsed
    · cases parsed
    · exact Address.ofParts_ne_tooLong _ _ parsed
  · exact parse_of_long

end Length

end Soliscope.Url
