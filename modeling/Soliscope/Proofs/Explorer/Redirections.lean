import Soliscope.Explorer.Redirection
import Soliscope.Proofs.Url.References

/-! # Redirections and the query of a request

Whether a redirection leads to an address does not depend on the query of the address asked for
(`redirectionTarget_alike`). There is one exception: a place that is told in relation to the address
asked for may be written down with its query, and then be too long (`Overruns`).
-/

namespace Soliscope.Explorer

open Soliscope.Url

/-- The place that a redirection names, before it is related to the address asked for. -/
def namedTarget (asked : Address) (location : String) : Except Setback Address := do
  let target ← (Url.parse location).mapError fun flaw => Setback.failed (.badLocation flaw)
  withHostOf asked target

/-- The named place in relation to the address asked for. -/
def relatedTarget (asked target : Address) : Except Setback Address :=
  if target.isAbsolute then pure target else madeAddress (asked.join target)

/-- The related place with a fragment, if it has a host that can be shown. -/
def shownTarget (asked target : Address) : Except Setback Address := do
  let target ← withFragmentOf asked target
  let _ ← shownHostOf target
  pure target

/-- Where a redirection leads, in three steps. -/
theorem redirectionTarget_eq (asked : Address) (location : String) :
    redirectionTarget asked location =
      namedTarget asked location >>= fun target =>
        relatedTarget asked target >>= shownTarget asked := by
  unfold redirectionTarget namedTarget
  cases (Url.parse location).mapError fun flaw => Setback.failed (.badLocation flaw) with
  | error setback => rfl
  | ok target =>
      simp only [bind, Except.bind]
      cases withHostOf asked target with
      | error setback => rfl
      | ok target =>
          dsimp only
          unfold relatedTarget shownTarget
          generalize madeAddress (asked.join target) = joined
          by_cases absolute : target.isAbsolute = true
          · rw [if_pos absolute, if_pos absolute]
            rfl
          · rw [if_neg absolute, if_neg absolute]
            cases joined <;> rfl

/-- The place that a redirection leads to is too long to be read, written in relation to the address
asked for. -/
def Overruns (asked : Address) (location : String) : Prop :=
  ∃ target, namedTarget asked location = .ok target ∧ target.isAbsolute = false ∧
    lengthLimit < (asked.joinedText target).length

/-- An address that was made is taken. -/
theorem madeAddress_eq_ok {made : Except Flaw Address} {whole : Address} :
    madeAddress made = .ok whole ↔ made = .ok whole := by
  cases made with
  | ok address => simp [madeAddress, mapError_ok]
  | error flaw => simp [madeAddress, mapError_error]

theorem madeAddress_eq_badUrl {made : Except Flaw Address} {flaw : Flaw} :
    madeAddress made = .error (.brokeDown (.badUrl flaw)) ↔ made = .error flaw := by
  cases made with
  | ok address => simp [madeAddress, mapError_ok]
  | error other => simp [madeAddress, mapError_error]

section Overrun

variable {asked : Address} {location : String}

/-- A place keeps its host or gets that of the address asked for, if both can be shown. -/
theorem withHostOf_cases (asked target : Address) :
    withHostOf asked target = .ok target ∨
    (∃ failure, withHostOf asked target = .error (.failed failure)) ∨
    ∃ host, asked.hostName = .ok host ∧
      withHostOf asked target = madeAddress (target.withHost host) := by
  unfold withHostOf shownHostOf
  split
  · exact Or.inl rfl
  · cases target.hostName with
    | error flaw => exact Or.inr (Or.inl ⟨.badHost flaw, rfl⟩)
    | ok own =>
        simp only [mapError_ok, bind, Except.bind]
        split
        · cases asked.hostName with
          | error flaw => exact Or.inr (Or.inl ⟨.badHost flaw, rfl⟩)
          | ok host => exact Or.inr (Or.inr ⟨host, rfl, rfl⟩)
        · exact Or.inl rfl

/-- Taking over a host makes no address too long. -/
theorem withHostOf_ne_tooLong (asked target : Address) :
    withHostOf asked target ≠ .error (.brokeDown (.badUrl .tooLong)) := by
  intro broke
  rcases withHostOf_cases asked target with same | ⟨failure, failed⟩ | ⟨host, -, made⟩
  · rw [same] at broke
    cases broke
  · rw [failed] at broke
    cases broke
  · rw [made] at broke
    exact target.withHost_ne_tooLong host (madeAddress_eq_badUrl.mp broke)

theorem namedTarget_ne_tooLong :
    namedTarget asked location ≠ .error (.brokeDown (.badUrl .tooLong)) := by
  intro broke
  unfold namedTarget at broke
  cases parsed : Url.parse location with
  | error flaw =>
      rw [parsed] at broke
      cases broke
  | ok target =>
      rw [parsed] at broke
      exact withHostOf_ne_tooLong asked target broke

theorem shownTarget_ne_tooLong (target : Address) :
    shownTarget asked target ≠ .error (.brokeDown (.badUrl .tooLong)) := by
  intro broke
  rcases bind_eq_error.mp broke with fragment | ⟨whole, -, shown⟩
  · unfold withFragmentOf at fragment
    split at fragment
    · exact Parts.address_ne_tooLong _ (madeAddress_eq_badUrl.mp fragment)
    · cases fragment
  · rcases bind_eq_error.mp shown with host | ⟨name, -, done⟩
    · unfold shownHostOf at host
      cases found : whole.hostName with
      | error flaw =>
          rw [found] at host
          cases host
      | ok name =>
          rw [found] at host
          cases host
    · cases done

/-- A place in relation to the address asked for is too long when it is so in writing. -/
theorem relatedTarget_eq_tooLong_iff {target : Address} :
    relatedTarget asked target = .error (.brokeDown (.badUrl .tooLong)) ↔
      target.isAbsolute = false ∧ lengthLimit < (asked.joinedText target).length := by
  have joined : madeAddress (asked.join target) = .error (.brokeDown (.badUrl .tooLong)) ↔
      lengthLimit < (asked.joinedText target).length := by
    rw [madeAddress_eq_badUrl, Address.join_eq, parse_eq_tooLong_iff]
  unfold relatedTarget
  cases absolute : target.isAbsolute with
  | true =>
      rw [if_pos rfl]
      constructor
      · intro broke
        cases broke
      · rintro ⟨notAbsolute, -⟩
        cases notAbsolute
  | false => rw [if_neg Bool.false_ne_true, joined, and_iff_right rfl]

/-- **Only a place that is told in relation to the address asked for can be too long.** -/
theorem redirectionTarget_eq_tooLong_iff :
    redirectionTarget asked location = .error (.brokeDown (.badUrl .tooLong)) ↔
      Overruns asked location := by
  rw [redirectionTarget_eq, bind_eq_error]
  unfold Overruns
  constructor
  · rintro (broke | ⟨target, named, broke⟩)
    · exact (namedTarget_ne_tooLong broke).elim
    · rcases bind_eq_error.mp broke with related | ⟨place, -, shown⟩
      · exact ⟨target, named, relatedTarget_eq_tooLong_iff.mp related⟩
      · exact (shownTarget_ne_tooLong place shown).elim
  · rintro ⟨target, named, long⟩
    exact Or.inr ⟨target, named,
      bind_eq_error.mpr (Or.inl (relatedTarget_eq_tooLong_iff.mpr long))⟩

end Overrun

section Query

variable {asked : Address} {location : String} {query : List Char}

/-- The place that is named does not depend on the query that was asked. -/
theorem namedTarget_putQuery (asked : Address) (query : List Char) (location : String) :
    namedTarget (asked.putQuery query) location = namedTarget asked location := by
  unfold namedTarget withHostOf shownHostOf
  rw [Address.hostName_putQuery]

theorem shownTarget_asked_putQuery (asked : Address) (query : List Char) (target : Address) :
    shownTarget (asked.putQuery query) target = shownTarget asked target := by
  unfold shownTarget withFragmentOf
  rw [Address.fragmentText_putQuery]

/-- The place that a redirection names is a clean address. -/
theorem namedTarget_isClean (clean : asked.IsClean) {target : Address}
    (named : namedTarget asked location = .ok target) : target.IsClean := by
  unfold namedTarget at named
  cases parsed : Url.parse location with
  | error flaw =>
      rw [parsed] at named
      cases named
  | ok written =>
      have writtenClean := parse_isClean parsed
      rw [parsed] at named
      change withHostOf asked written = .ok target at named
      rcases withHostOf_cases asked written with same | ⟨failure, failed⟩ | ⟨host, shown, made⟩
      · rw [same] at named
        cases named
        exact writtenClean
      · rw [failed] at named
        cases named
      · rw [made] at named
        exact writtenClean.withHost (isPlain_of_shownHost clean.host shown)
          (madeAddress_eq_ok.mp named)

/-- A form in the query of a place makes no difference to what is shown of it. -/
theorem shownTarget_putQuery (isQuery : IsFormQuery query) (target : Address) :
    shownTarget asked (target.putQuery query) =
      (shownTarget asked (target.putQuery [])).map (·.putQuery query) := by
  have fragment : withFragmentOf asked (target.putQuery query) =
      (withFragmentOf asked (target.putQuery [])).map (·.putQuery query) := by
    unfold withFragmentOf madeAddress
    rw [Address.fragmentText_putQuery, Address.fragmentText_putQuery]
    split
    · rw [Address.withFragment_putQuery target isQuery]
      cases (target.putQuery []).withFragment asked.fragmentText <;> rfl
    · rfl
  unfold shownTarget
  rw [fragment]
  cases withFragmentOf asked (target.putQuery []) with
  | error setback => rfl
  | ok whole =>
      simp only [Except.map, bind, Except.bind, shownHostOf, Address.hostName_putQuery]
      cases whole.hostName <;> rfl

/-- **Whether a redirection leads to an address does not depend on the query** of the address asked
for, unless the place is too long. -/
theorem redirectionTarget_alike (clean : asked.IsClean) {first second : List Char}
    (isFirst : IsFormQuery first) (isSecond : IsFormQuery second)
    (firstFits : ¬ Overruns (asked.putQuery first) location)
    (secondFits : ¬ Overruns (asked.putQuery second) location) :
    (redirectionTarget (asked.putQuery first) location).map (fun _ => ()) =
      (redirectionTarget (asked.putQuery second) location).map (fun _ => ()) := by
  rw [redirectionTarget_eq, redirectionTarget_eq, namedTarget_putQuery, namedTarget_putQuery]
  refine map_bind_congr fun target named => ?_
  unfold relatedTarget
  cases absolute : target.isAbsolute with
  | true =>
      rw [if_pos rfl, if_pos rfl]
      refine map_bind_congr fun whole _ => ?_
      rw [shownTarget_asked_putQuery, shownTarget_asked_putQuery]
  | false =>
      have fits {query : List Char} (fine : ¬ Overruns (asked.putQuery query) location) :
          ((asked.putQuery query).joinedText target).length ≤ lengthLimit := by
        rw [← Nat.not_lt]
        intro long
        exact fine ⟨target, by rw [namedTarget_putQuery, named], absolute, long⟩
      rw [if_neg Bool.false_ne_true, if_neg Bool.false_ne_true]
      rcases Address.join_sameButQuery clean (namedTarget_isClean clean named) isFirst isSecond
        (fits firstFits) (fits secondFits) with same | ⟨outcome, one, other⟩
      · rw [same]
        refine map_bind_congr fun whole _ => ?_
        rw [shownTarget_asked_putQuery, shownTarget_asked_putQuery]
      · rw [one, other]
        cases outcome with
        | error flaw => rfl
        | ok whole =>
            have shown {query : List Char} (isQuery : IsFormQuery query) :
                (shownTarget (asked.putQuery query) (whole.putQuery query)).map (fun _ => ()) =
                  (shownTarget asked (whole.putQuery [])).map (fun _ => ()) := by
              rw [shownTarget_asked_putQuery, shownTarget_putQuery isQuery]
              cases shownTarget asked (whole.putQuery []) <;> rfl
            exact (shown isFirst).trans (shown isSecond).symm

end Query

end Soliscope.Explorer
