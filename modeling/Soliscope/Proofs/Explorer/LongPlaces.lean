import Soliscope.Proofs.Explorer.KeySecrecy
import Soliscope.Proofs.Url.Fragments

/-! # Keys that are told apart

A redirection to a fragment leads to a place in the address asked for, which is written with its key
then. By the size of the fragment an explorer can have the place too long with one key and not with
a shorter one, so that keys of different length in writing can be told apart
(`exists_reply_telling_apart`).
-/

namespace Soliscope.Explorer

open Soliscope.Url

/-- With a fragment alone, only the room that the query leaves decides. -/
theorem overruns_fragment_iff {bare : Address} (clean : bare.IsClean)
    (rooted : (Parts.ofText bare.parts.front).IsRooted) (unmarked : bare.fragment = none)
    {query text : List Char} (isQuery : IsFormQuery query)
    (safe : ∀ c ∈ text, isFragmentSafe c = true) (isText : text ≠ [])
    (short : text.length < lengthLimit) :
    Overruns (bare.putQuery query) (String.ofList ('#' :: text)) ↔
      lengthLimit <
        (Parts.ofText bare.parts.front).front.length + query.length + text.length + 2 := by
  have named : namedTarget (bare.putQuery query) (String.ofList ('#' :: text)) =
      .ok ⟨[], [], [], none, [], none, some text⟩ := by
    unfold namedTarget
    rw [parse_fragment safe short]
    rfl
  unfold Overruns
  rw [named, ← Parts.length_render_fragment,
    ← Address.joinedText_fragment clean rooted unmarked isQuery isText]
  constructor
  · rintro ⟨target, same, -, long⟩
    cases same
    exact long
  · exact fun long => ⟨_, rfl, rfl, long⟩

/-- A redirection to a fragment of a size. -/
def fragmentReply (size : Nat) : Reply :=
  .answered ⟨302, [("location", String.ofList ('#' :: List.replicate size 'f'))], []⟩

/-- A redirection to a fragment overruns an address that cannot take the fragment. -/
theorem fragmentReply_overruns_iff {url : Address} {size : Nat} (absolute : url.isAbsolute = true) :
    (fragmentReply size).Overruns url ↔
      Overruns url (String.ofList ('#' :: List.replicate size 'f')) := by
  have redirects : redirection? 302
      [("location", String.ofList ('#' :: List.replicate size 'f'))] =
        some (String.ofList ('#' :: List.replicate size 'f')) := by
    have named : ("location".toLower == "location") = true := by decide +kernel
    simp only [redirection?, Headers.value?, Headers.values, List.filter_cons, named, ↓reduceIte,
      List.filter_nil, List.map_cons, List.map_nil, String.intercalate_singleton]
    rfl
  constructor
  · rintro ⟨response, content, location, same, -, -, redirectsTo, overruns⟩
    cases same
    rw [redirects] at redirectsTo
    cases redirectsTo
    exact overruns
  · exact fun overruns => ⟨_, [], _, rfl, rfl, absolute, redirects, overruns⟩

/-- Where requests to the first endpoint go. -/
def firstBare : Address :=
  ⟨"https".toList, [], "api.etherscan.io".toList, none, "/api".toList, some [], none⟩

theorem bareAddress_first : bareAddress "https://api.etherscan.io/api" = .ok firstBare := by
  have same : (bareAddress "https://api.etherscan.io/api").toOption = some firstBare := by
    decide +kernel
  cases found : bareAddress "https://api.etherscan.io/api" with
  | error flaw =>
      rw [found] at same
      cases same
  | ok bare =>
      rw [found] at same
      rw [Option.some.inj same]

/-- The address of the first endpoint has a path. -/
theorem firstBare_isRooted : (Parts.ofText firstBare.parts.front).IsRooted := by
  have isText : Parts.ofText firstBare.parts.front =
      ⟨"https".toList, "api.etherscan.io".toList, "/api".toList, none, none⟩ := by
    decide +kernel
  rw [isText]
  exact ⟨by decide +kernel, by decide +kernel, by decide +kernel⟩

/-- Which fragments overrun a request to the first endpoint. -/
theorem fragmentReply_overrunsRequest_iff {before after : List (String × String)} {key : String}
    {timeout : Float} {size : Nat} (fits : Fits (keyEntries before after key)) (some : 0 < size)
    (short : size < lengthLimit) :
    (fragmentReply size).OverrunsRequest "https://api.etherscan.io/api"
        (keyEntries before after key) timeout ↔
      lengthLimit < 28 + (Form.render (keyEntries before after key)).length + size + 2 := by
  have free : obstacle? firstBare = none := by decide +kernel
  have front : (Parts.ofText firstBare.parts.front).front.length = 28 := by decide +kernel
  have safe : ∀ c ∈ List.replicate size 'f', isFragmentSafe c = true := by
    intro c member
    rw [List.eq_of_mem_replicate member]
    decide +kernel
  have isText : List.replicate size 'f' ≠ [] := by
    rw [ne_eq, List.replicate_eq_nil_iff]
    omega
  rw [overrunsRequest_iff fits bareAddress_first, fragmentReply_overruns_iff rfl, keyUrl,
    overruns_fragment_iff (bareAddress_isClean bareAddress_first) firstBare_isRooted rfl
      (isFormQuery_keyEntries fits) safe isText (by rwa [List.length_replicate]),
    front, List.length_replicate]
  exact and_iff_right free

/-- **Keys of different length can be told apart** by an explorer that redirects, if only their
requests leave some room. -/
theorem exists_reply_telling_apart (settings : Settings) (job : Argument) {first second : String}
    (firstGiven : first ≠ "") (secondGiven : second ≠ "")
    (longer : (Form.render (pollForm (.ofText first) job)).length <
      (Form.render (pollForm (.ofText second) job)).length)
    (room : (Form.render (pollForm (.ofText second) job)).length + 30 ≤ lengthLimit) :
    ∃ reply, ¬ SameShown
      (pollStatus .builtin settings (fun _ => reply) (.number 1) job (.ofText first))
      (pollStatus .builtin settings (fun _ => reply) (.number 1) job (.ofText second)) := by
  have secondFits : Fits (pollForm (.ofText second) job) := by
    unfold Fits
    omega
  have firstFits : Fits (pollForm (.ofText first) job) := by
    unfold Fits
    omega
  -- The fragment takes all the room that the first key leaves.
  let size := lengthLimit - ((Form.render (pollForm (.ofText first) job)).length + 30)
  have atMost : size < lengthLimit := Nat.sub_lt (by decide) (by omega)
  refine ⟨fragmentReply size, fun shown => ?_⟩
  rw [pollStatus_sameShown_iff firstGiven secondGiven firstFits secondFits] at shown
  have alike := shown ⟨.number 1, "https://api.etherscan.io/api", "https://etherscan.io",
    "Ethereum Mainnet"⟩ rfl
  have overruns_iff {key : String} (fits : Fits (pollForm (.ofText key) job)) :
      (fragmentReply size).OverrunsRequest "https://api.etherscan.io/api"
          (pollForm (.ofText key) job) settings.statusTimeout ↔
        lengthLimit < 28 + (Form.render (pollForm (.ofText key) job)).length + size + 2 := by
    rw [pollForm_key] at fits ⊢
    exact fragmentReply_overrunsRequest_iff fits (by omega) atMost
  rw [overruns_iff firstFits, overruns_iff secondFits] at alike
  have long := alike.mpr (by omega)
  omega

/-- Two keys that are told apart. -/
theorem short_key_told_apart : ∃ reply, ¬ SameShown
    (pollStatus .builtin .standard (fun _ => reply) (.number 1) (.ofText "j") (.ofText "a"))
    (pollStatus .builtin .standard (fun _ => reply) (.number 1) (.ofText "j") (.ofText "abc")) :=
  exists_reply_telling_apart .standard (.ofText "j") (by decide) (by decide) (by decide +kernel)
    (by decide +kernel)

end Soliscope.Explorer
