import Mathlib.Data.List.TakeWhile
import Soliscope.Proofs.Number.DoubleText
import Soliscope.Proofs.Url.Hosts
import Soliscope.Url.Basic

/-! # Addresses are clean

An address that was made from a text or from another address holds no control characters, and no
mark that would end one of its parts too early (`Address.IsClean`). Written down and taken apart
again, it therefore shows the same parts. Every way to make an address keeps this.
-/

namespace Soliscope.Url

open Soliscope.Text

/-- No character of a text is a control character. -/
def HasNoControl (text : List Char) : Prop :=
  ∀ c ∈ text, isControl c = false

/-- A plain text has no control characters. -/
theorem IsPlain.hasNoControl {text : List Char} (plain : IsPlain text) : HasNoControl text :=
  fun c member => isControl_of_isPlain (plain c member)

/-- Texts without control characters are joined to such a text. -/
theorem HasNoControl.append {first second : List Char} (one : HasNoControl first)
    (two : HasNoControl second) : HasNoControl (first ++ second) := by
  intro c member
  rcases List.mem_append.mp member with within | within
  · exact one c within
  · exact two c within

theorem HasNoControl.of_subset {part text : List Char} (free : HasNoControl text)
    (within : part ⊆ text) : HasNoControl part :=
  fun c member => free c (within member)

/-- The search for a control character finds none exactly if there is none. -/
theorem control?_eq_none_iff {text : List Char} : control? text = none ↔ HasNoControl text := by
  unfold control? HasNoControl
  rw [List.find?_eq_none]
  constructor
  · intro none c member
    rw [← List.zipIdx_map_fst 0 text] at member
    obtain ⟨entry, within, rfl⟩ := List.mem_map.mp member
    simpa using none entry within
  · intro free entry within
    have member : entry.1 ∈ text := by
      rw [← List.zipIdx_map_fst 0 text]
      exact List.mem_map_of_mem within
    simp [free entry.1 member]

/-- The parts of an address hold nothing that belongs to another part, and no control characters. -/
structure Parts.IsClean (parts : Parts) : Prop where
  scheme : IsPlain parts.scheme
  authority : IsPlain parts.authority
  path : IsPlain parts.path
  query : ∀ query ∈ parts.query, HasNoControl query ∧ '#' ∉ query
  fragment : ∀ fragment ∈ parts.fragment, HasNoControl fragment

/-- An address holds nothing that belongs to another part, and no control characters. -/
structure Address.IsClean (address : Address) : Prop where
  scheme : IsPlain address.scheme
  userinfo : IsPlain address.userinfo
  host : IsPlain address.host
  path : IsPlain address.path
  query : ∀ query ∈ address.query, HasNoControl query ∧ '#' ∉ query
  fragment : ∀ fragment ∈ address.fragment, HasNoControl fragment

/-- Parts in writing have no control characters. -/
theorem Parts.IsClean.render {parts : Parts} (clean : parts.IsClean) :
    HasNoControl parts.render := by
  have mark {c : Char} (fine : isControl c = false) {text : List Char}
      (free : HasNoControl text) : HasNoControl (c :: text) := by
    intro other member
    rcases List.mem_cons.mp member with rfl | within
    · exact fine
    · exact free other within
  have nothing : HasNoControl [] := fun c member => (by cases member)
  have scheme : HasNoControl (if parts.scheme.isEmpty then [] else parts.scheme ++ [':']) := by
    split
    · exact nothing
    · exact clean.scheme.hasNoControl.append (mark (by decide) nothing)
  have authority :
      HasNoControl (if parts.authority.isEmpty then [] else '/' :: '/' :: parts.authority) := by
    split
    · exact nothing
    · exact mark (by decide) (mark (by decide) clean.authority.hasNoControl)
  have query : HasNoControl (parts.query.elim [] ('?' :: ·)) := by
    cases found : parts.query with
    | none => exact nothing
    | some query => exact mark (by decide) (clean.query query found).1
  have fragment : HasNoControl (parts.fragment.elim [] ('#' :: ·)) := by
    cases found : parts.fragment with
    | none => exact nothing
    | some fragment => exact mark (by decide) (clean.fragment fragment found)
  exact (((scheme.append authority).append clean.path.hasNoControl).append query).append fragment

section Taking

/-- Characters of a scheme are plain. -/
theorem isPlain_of_isSchemeChar {c : Char} (isScheme : isSchemeChar c = true) :
    isPlain c = true := by
  simp only [isSchemeChar, Bool.or_eq_true, beq_iff_eq] at isScheme
  rcases isScheme with ((letter | rfl) | rfl) | rfl
  · exact isPlain_of_isUnreserved (by simp [isUnreserved, letter])
  all_goals decide

/-- The scheme is plain, and the rest is taken from the text. -/
theorem splitScheme_spec (text : List Char) :
    IsPlain (splitScheme text).1 ∧ (splitScheme text).2 ⊆ text := by
  have nothing : IsPlain [] := fun c member => (by cases member)
  have name : IsPlain (text.takeWhile isSchemeChar) :=
    fun c member => isPlain_of_isSchemeChar (List.mem_takeWhile_imp member)
  unfold splitScheme
  split
  · rename_i rest found
    dsimp only
    split
    · refine ⟨name, fun c member => ?_⟩
      have within : c ∈ text.dropWhile isSchemeChar := by
        rw [found]
        exact List.mem_cons_of_mem _ member
      exact (List.dropWhile_subset _) within
    · exact ⟨nothing, List.Subset.refl text⟩
  · exact ⟨nothing, List.Subset.refl text⟩

/-- A character that does not end an authority is plain unless it is a control. -/
theorem isPlain_of_not_endsAuthority {c : Char} (free : isControl c = false)
    (goesOn : endsAuthority c = false) : isPlain c = true := by
  simp only [endsAuthority, Bool.or_eq_false_iff, beq_eq_false_iff_ne] at goesOn
  simp [isPlain, free, goesOn.1.2, goesOn.2]

/-- What follows the authority is taken from the text. -/
theorem splitAuthority_subset (text : List Char) : (splitAuthority text).2 ⊆ text := by
  unfold splitAuthority
  split
  · rename_i rest
    intro c member
    exact List.mem_cons_of_mem _ (List.mem_cons_of_mem _ ((List.dropWhile_subset _) member))
  · exact List.Subset.refl text

/-- The authority of a text without control characters is plain. -/
theorem isPlain_splitAuthority {text : List Char} (free : HasNoControl text) :
    IsPlain (splitAuthority text).1 := by
  unfold splitAuthority
  split
  · rename_i rest
    intro c member
    have inRest : c ∈ rest := (List.takeWhile_subset _) member
    refine isPlain_of_not_endsAuthority
      (free c (List.mem_cons_of_mem _ (List.mem_cons_of_mem _ inRest))) ?_
    simpa using List.mem_takeWhile_imp member
  · exact fun c member => (by cases member)

/-- What stands behind a mark is taken from the text. -/
theorem mem_of_afterMark? {mark : Char} {text rest : List Char}
    (found : afterMark? mark text = some rest) : rest ⊆ text := by
  unfold afterMark? at found
  split at found
  · cases found
    exact List.drop_subset 1 text
  · cases found

/-- **What is taken apart is clean.** -/
theorem Parts.ofText_isClean {text : List Char} (free : HasNoControl text) :
    (Parts.ofText text).IsClean := by
  obtain ⟨scheme, restOfScheme⟩ := splitScheme_spec text
  have freeRest := free.of_subset restOfScheme
  have freeEnd := freeRest.of_subset (splitAuthority_subset (splitScheme text).2)
  refine ⟨scheme, isPlain_splitAuthority freeRest, ?_, ?_, ?_⟩
  · intro c member
    have kept := List.mem_takeWhile_imp member
    have noControl := freeEnd c ((List.takeWhile_subset _) member)
    simp only [Bool.and_eq_true] at kept
    simp [isPlain, noControl, kept.1, kept.2]
  · intro query found
    obtain ⟨rest, marked, rfl⟩ := Option.map_eq_some_iff.mp found
    have within := mem_of_afterMark? marked
    refine ⟨fun c member => ?_, fun member => ?_⟩
    · exact freeEnd c ((List.dropWhile_subset _) (within ((List.takeWhile_subset _) member)))
    · simpa using List.mem_takeWhile_imp member
  · intro fragment found
    have within := mem_of_afterMark? found
    intro c member
    exact freeEnd c ((List.dropWhile_subset _) ((List.dropWhile_subset _) (within member)))

/-- Both sides of a mark are taken from the text. -/
theorem splitAtLast?_spec {mark : Char} {text before after : List Char}
    (found : splitAtLast? mark text = some (before, after)) :
    mark ∈ text ∧ before ⊆ text ∧ after ⊆ text := by
  unfold splitAtLast? at found
  split at found
  · rename_i marked
    cases found
    refine ⟨List.contains_iff_mem.mp marked, List.take_subset _ text, fun c member => ?_⟩
    exact List.mem_reverse.mp ((List.takeWhile_subset _) (List.mem_reverse.mp member))
  · cases found

/-- The host is taken from the authority. -/
theorem Authority.host_ofText_subset (text : List Char) : (Authority.ofText text).host ⊆ text := by
  have inner : ((splitAtLast? '@' text).getD ([], text)).2 ⊆ text := by
    cases found : splitAtLast? '@' text with
    | none => exact List.Subset.refl text
    | some split => exact (splitAtLast?_spec found).2.2
  unfold Authority.ofText
  refine List.Subset.trans ?_ inner
  rcases (splitAtLast? '@' text).getD ([], text) with ⟨userinfo, rest⟩
  dsimp only
  split
  · rename_i before after found
    split at found
    · obtain ⟨marked, within, -⟩ := splitAtLast?_spec found
      intro c member
      rcases List.mem_append.mp member with inBefore | last
      · exact within inBefore
      · rw [List.mem_singleton.mp last]
        exact marked
    · cases found
  · rw [List.span_eq_takeWhile_dropWhile]
    exact List.takeWhile_subset _

end Taking

section Making

/-- **What is made of clean parts is clean.** -/
theorem Address.ofParts_isClean (parts : Parts) {authority : Authority} {made : Address}
    (scheme : IsPlain parts.scheme) (host : IsPlain authority.host)
    (isMade : Address.ofParts parts authority = .ok made) : made.IsClean := by
  simp only [Address.ofParts, bind_eq_ok] at isMade
  obtain ⟨kept, isKept, port, -, isMade⟩ := isMade
  have keptPlain : IsPlain kept := by
    cases found : keptHost authority.host with
    | error flaw =>
        rw [found] at isKept
        cases isKept
    | ok other =>
        rw [found] at isKept
        cases isKept
        exact isPlain_of_keptHost host found
  split at isMade
  · cases isMade
  · cases isMade
    refine ⟨?_, ?_, keptPlain, ?_, ?_, ?_⟩
    · intro c member
      obtain ⟨other, within, rfl⟩ := List.mem_map.mp member
      exact isPlain_toLower (scheme other within)
    · exact fun c member => isPlain_of_mem_escape (fun _ => isPlain_of_isUserinfoSafe) member
    · exact fun c member => isPlain_of_mem_escape (fun _ => isPlain_of_isPathSafe) member
    · intro query found
      obtain ⟨written, -, rfl⟩ := Option.map_eq_some_iff.mp found
      refine ⟨fun c => not_control_of_mem_escape fun _ => not_control_of_isQuerySafe, ?_⟩
      intro member
      rcases mem_escape member with free | percent | safe
      · exact absurd free (by decide)
      · cases percent
      · exact absurd safe (by decide)
    · intro fragment found
      obtain ⟨written, -, rfl⟩ := Option.map_eq_some_iff.mp found
      exact fun c => not_control_of_mem_escape fun _ => not_control_of_isFragmentSafe

/-- A port in writing is plain. -/
theorem isPlain_toString (number : Int) : IsPlain (toString number).toList := by
  intro c member
  have native := Number.not_foreign_of_mem_toString member
  by_cases sign : c = '-'
  · rw [sign]
    decide
  · refine isPlain_of_isUnreserved ?_
    have digit : c.isDigit = true := by
      by_contra other
      exact native ⟨sign, Bool.eq_false_iff.mpr other⟩
    simp [isUnreserved, Char.isAlphanum, digit]

/-- A plain character is a plain text. -/
theorem isPlain_singleton {c : Char} (plain : isPlain c = true) : IsPlain [c] := by
  intro other member
  rw [List.mem_singleton.mp member]
  exact plain

/-- Brackets around a host keep it plain. -/
theorem isPlain_bracketed {host : List Char} (plain : IsPlain host) :
    IsPlain (Address.bracketed host) := by
  unfold Address.bracketed
  split
  · exact (isPlain_singleton (c := '[') (by decide)).append
      (plain.append (isPlain_singleton (by decide)))
  · exact plain

/-- A clean address has a plain authority. -/
theorem Address.IsClean.isPlain_authority {address : Address} (clean : address.IsClean) :
    IsPlain address.authority := by
  have nothing : IsPlain [] := fun c member => (by cases member)
  refine IsPlain.append ?_ ((isPlain_bracketed clean.host).append ?_)
  · split
    · exact nothing
    · exact clean.userinfo.append (isPlain_singleton (by decide))
  · cases address.port with
    | none => exact nothing
    | some number =>
        exact (isPlain_singleton (c := ':') (by decide)).append (isPlain_toString number)

theorem Address.IsClean.parts {address : Address} (clean : address.IsClean) :
    address.parts.IsClean :=
  ⟨clean.scheme, clean.isPlain_authority, clean.path, clean.query, clean.fragment⟩

theorem Address.IsClean.render {address : Address} (clean : address.IsClean) :
    HasNoControl address.render.toList := by
  rw [Address.render, String.toList_ofList]
  exact clean.parts.render

/-- An address made from a plain scheme and a plain authority is clean. -/
theorem Parts.address_isClean (parts : Parts) {made : Address} (scheme : IsPlain parts.scheme)
    (authority : IsPlain parts.authority) (isMade : parts.address = .ok made) :
    made.IsClean := by
  unfold Parts.address at isMade
  split at isMade
  · cases isMade
  · exact Address.ofParts_isClean parts scheme
      (authority.of_subset (Authority.host_ofText_subset _)) isMade

/-- **Every text stands for a clean address**, if for any. -/
theorem parse_isClean {text : String} {made : Address} (isMade : parse text = .ok made) :
    made.IsClean := by
  simp only [parse, check_eq_ok] at isMade
  obtain ⟨-, isMade⟩ := isMade
  split at isMade
  · cases isMade
  · rename_i noControl
    have clean := Parts.ofText_isClean (control?_eq_none_iff.mp noControl)
    exact Address.ofParts_isClean _ clean.scheme
      (clean.authority.of_subset (Authority.host_ofText_subset _)) isMade

variable {address made : Address}

/-- Another query keeps an address clean. -/
theorem Address.IsClean.withQuery (clean : address.IsClean) {query : Option (List Char)}
    (isMade : address.withQuery query = .ok made) : made.IsClean :=
  Parts.address_isClean { address.parts with query := query } clean.scheme
    clean.isPlain_authority isMade

theorem Address.onServer_isClean {scheme authority : List Char} (schemePlain : IsPlain scheme)
    (authorityPlain : IsPlain authority)
    (isMade : address.onServer scheme authority = .ok made) : made.IsClean :=
  Parts.address_isClean {
    scheme := scheme, authority := authority,
    path := '/' :: address.path.dropWhile (· == '/'), query := address.query, fragment := none }
    schemePlain authorityPlain isMade

theorem Address.IsClean.withHost (clean : address.IsClean) {host : List Char}
    (plain : IsPlain host) (isMade : address.withHost host = .ok made) : made.IsClean := by
  unfold Address.withHost at isMade
  dsimp only at isMade
  split at isMade
  · cases isMade
  · exact Address.ofParts_isClean address.parts clean.scheme (isPlain_bracketed plain)
      isMade

end Making

end Soliscope.Url
