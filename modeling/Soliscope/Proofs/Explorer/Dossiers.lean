import Soliscope.Explorer.Verification
import Soliscope.Proofs.Url.Characters

/-! # Dossiers and their checks

A dossier is a submission in values of the kinds that are meant. It is sent if it passes four checks
(`Dossier.Passes`), and otherwise rejected for the first one that it fails (`Dossier.FailsFirst`).
Checking it breaks down only if an integer has to be shown that has too many digits
(`Dossier.IsUnshowable`). What is sent is the form of the dossier (`Dossier.entries`).
-/

namespace Soliscope

/-- A text as an argument, or nothing. -/
def Argument.ofText? (text : Option String) : Argument where
  value := Json.ofText? text
  showable := by cases text <;> rfl

/-- A text that may be missing is given if it is there and not empty. -/
theorem Argument.isGiven_ofText? (text : Option String) :
    (Argument.ofText? text).isGiven = true ↔ text.getD "" ≠ "" := by
  cases text with
  | none => simp [Argument.ofText?, Argument.isGiven, Json.ofText?, Json.isTruthy]
  | some text => simp [Argument.ofText?, Argument.isGiven, Json.ofText?, Json.isTruthy]

namespace Explorer

/-- What is handed in to have a contract verified: texts, and an integer as the number of runs. -/
structure Dossier where
  chain : ChainId
  contractAddress : String
  sourceCode : String
  contractName : String
  compilerVersion : String
  optimizationUsed : Bool
  runs : Int
  constructorArguments : Option String
  apiKey : Option String

/-- The digits of an address. -/
def addressDigits : List Char := "0123456789abcdefABCDEF".toList

/-- A text is `0x` and forty hexadecimal digits. -/
def IsAddress (written : String) : Prop :=
  ∃ digits, written.toList = '0' :: 'x' :: digits ∧ digits.length = 40 ∧
    ∀ c ∈ digits, c ∈ addressDigits

theorem toNat_lt_of_isHexDigit {c : Char} (digit : isHexDigit c = true) : c.toNat < 128 := by
  delta isHexDigit Char.isDigit at digit
  simp only [Bool.or_eq_true, Bool.and_eq_true, decide_eq_true_eq, Char.le_def,
    UInt32.le_iff_toNat_le, ge_iff_le] at digit
  change ((48 ≤ c.toNat ∧ c.toNat ≤ 57) ∨ (97 ≤ c.toNat ∧ c.toNat ≤ 102)) ∨
    (65 ≤ c.toNat ∧ c.toNat ≤ 70) at digit
  omega

/-- The hexadecimal digits are listed. -/
theorem isHexDigit_iff {c : Char} : isHexDigit c = true ↔ c ∈ addressDigits := by
  constructor
  · intro digit
    have found := Url.ascii_all (fun c => !isHexDigit c || addressDigits.contains c)
      (by decide +kernel) (toNat_lt_of_isHexDigit digit)
    simpa [digit] using found
  · intro member
    have all : addressDigits.all isHexDigit = true := by decide +kernel
    exact List.all_eq_true.mp all c member

/-- The check of an address is what an address should be. -/
theorem isAddress_iff {written : String} : isAddress written = true ↔ IsAddress written := by
  unfold isAddress IsAddress
  split
  case h_1 digits isText =>
    simp only [isText, List.cons.injEq, true_and, exists_eq_left', Bool.and_eq_true, beq_iff_eq,
      List.all_eq_true, isHexDigit_iff]
  case h_2 other =>
    simp only [Bool.false_eq_true, false_iff]
    rintro ⟨digits, isText, -⟩
    exact other digits isText

namespace Dossier

/-- A dossier as a submission. -/
def submission (dossier : Dossier) : Submission where
  chain := dossier.chain
  contractAddress := .ofText dossier.contractAddress
  sourceCode := .ofText dossier.sourceCode
  contractName := .ofText dossier.contractName
  compilerVersion := .ofText dossier.compilerVersion
  optimizationUsed := dossier.optimizationUsed
  runs := .int dossier.runs
  constructorArguments := .ofText? dossier.constructorArguments
  apiKey := .ofText? dossier.apiKey

/-- What the explorer is told about a dossier. -/
def entries (dossier : Dossier) : List (String × String) := [
  ("apikey", dossier.apiKey.getD ""),
  ("module", "contract"),
  ("action", "verifysourcecode"),
  ("contractaddress", dossier.contractAddress),
  ("sourceCode", dossier.sourceCode),
  ("codeformat", "solidity-single-file"),
  ("contractname", dossier.contractName),
  ("compilerversion", dossier.compilerVersion),
  ("optimizationUsed", if dossier.optimizationUsed then "1" else "0"),
  ("runs", toString dossier.runs),
  ("constructorArguements", dossier.constructorArguments.getD "")]

/-- The form of a submission has the entries of the dossier. -/
theorem form_submission (dossier : Dossier) : dossier.submission.form = dossier.entries := by
  have key : dossier.submission.apiKey.entries "apikey" =
      [("apikey", dossier.apiKey.getD "")] := by
    change (Argument.ofText? dossier.apiKey).entries "apikey" = _
    cases dossier.apiKey with
    | none => rfl
    | some key => rfl
  have arguments : dossier.submission.givenArguments.entries "constructorArguements" =
      [("constructorArguements", dossier.constructorArguments.getD "")] := by
    have given := Argument.isGiven_ofText? dossier.constructorArguments
    change (if (Argument.ofText? dossier.constructorArguments).isGiven then
      Argument.ofText? dossier.constructorArguments else .ofText "").entries _ = _
    by_cases missing : dossier.constructorArguments.getD "" = ""
    · rw [if_neg fun isGiven => given.mp isGiven missing, missing]
      rfl
    · rw [if_pos (given.mpr missing)]
      cases dossier.constructorArguments with
      | none => rfl
      | some arguments => rfl
  unfold Submission.form
  rw [key, arguments]
  rfl

/-- A dossier passes all checks, and is sent to an endpoint. -/
structure Passes (dossier : Dossier) (registry : Registry) (endpoint : Endpoint) : Prop where
  registered : registry.find? dossier.chain = some endpoint
  key : dossier.apiKey.getD "" ≠ ""
  runs : 0 < dossier.runs
  address : IsAddress dossier.contractAddress

/-- The first check that a dossier fails, by the rejection for it. -/
inductive FailsFirst (dossier : Dossier) (registry : Registry) : Rejection → Prop
  | chain (unknown : registry.find? dossier.chain = none) :
      FailsFirst dossier registry (.unsupportedChain dossier.chain.shown)
  | key {endpoint : Endpoint} (registered : registry.find? dossier.chain = some endpoint)
      (missing : dossier.apiKey.getD "" = "") : FailsFirst dossier registry .noKey
  | runs {endpoint : Endpoint} (registered : registry.find? dossier.chain = some endpoint)
      (key : dossier.apiKey.getD "" ≠ "") (few : dossier.runs ≤ 0) :
      FailsFirst dossier registry (.badRuns (toString dossier.runs))
  | address {endpoint : Endpoint} (registered : registry.find? dossier.chain = some endpoint)
      (key : dossier.apiKey.getD "" ≠ "") (runs : 0 < dossier.runs)
      (other : ¬ IsAddress dossier.contractAddress) :
      FailsFirst dossier registry (.badAddress dossier.contractAddress)

/-- An integer has to be shown that has too many digits: the chain id in the rejection of a chain
without an endpoint, or the runs, which are shown if they are too few and if all checks are
passed. -/
inductive IsUnshowable (dossier : Dossier) (registry : Registry) : Prop
  | chain (unknown : registry.find? dossier.chain = none)
      (long : dossier.chain.isShowable = false)
  | runs {endpoint : Endpoint} (registered : registry.find? dossier.chain = some endpoint)
      (key : dossier.apiKey.getD "" ≠ "")
      (reached : dossier.runs ≤ 0 ∨ IsAddress dossier.contractAddress)
      (long : (Json.int dossier.runs).isShowable = false)

/-- Runs are checked against zero. -/
theorem checkRuns_int (runs : Int) :
    checkRuns (.int runs) =
      if 0 < runs then .ok () else .error (rejectShowing (.int runs) .badRuns) := by
  by_cases positive : 0 < runs <;> simp [checkRuns, positive]

/-- An address is rejected with its own text. -/
theorem checkAddress_ofText (written : String) :
    checkAddress (.ofText written) =
      if isAddress written then .ok () else .error (.rejected (.badAddress written)) := by
  unfold checkAddress
  rw [Argument.isGiven_ofText, Bool.not_not, Argument.shown_ofText]
  cases empty : written.isEmpty with
  | true =>
      have none : isAddress written = false := by
        rw [String.isEmpty_iff.mp empty]
        rfl
      rw [none]
      rfl
  | false => rfl

section Checks

variable {dossier : Dossier} {registry : Registry}

/-- The checks of a dossier, one after the other. -/
theorem endpoint_submission (dossier : Dossier) (registry : Registry) :
    dossier.submission.endpoint registry =
      match registry.find? dossier.chain with
      | none => .error (rejectShowing dossier.chain.toJson .unsupportedChain)
      | some endpoint =>
        if dossier.apiKey.getD "" = "" then .error (.rejected .noKey)
        else if dossier.runs ≤ 0 then .error (rejectShowing (.int dossier.runs) .badRuns)
        else if isAddress dossier.contractAddress then
          if (Json.int dossier.runs).isShowable then .ok endpoint
          else .error (.brokeDown .longInteger)
        else .error (.rejected (.badAddress dossier.contractAddress)) := by
  have given := Argument.isGiven_ofText? dossier.apiKey
  unfold Submission.endpoint submission
  dsimp only
  cases registry.find? dossier.chain with
  | none => rfl
  | some endpoint =>
      dsimp only
      by_cases missing : dossier.apiKey.getD "" = ""
      · have notGiven : (Argument.ofText? dossier.apiKey).isGiven = false :=
          Bool.eq_false_iff.mpr fun isGiven => given.mp isGiven missing
        rw [notGiven, if_pos missing]
        rfl
      · rw [given.mpr missing, if_neg missing, checkRuns_int, checkAddress_ofText, checkShowable]
        by_cases few : dossier.runs ≤ 0
        · rw [if_pos few, if_neg (Int.not_lt.mpr few)]
          rfl
        · rw [if_neg few, if_pos (Int.not_le.mp few)]
          cases isAddress dossier.contractAddress with
          | false => rfl
          | true => cases (Json.int dossier.runs).isShowable <;> rfl

/-- What becomes of the checks of a dossier. -/
inductive Checked (dossier : Dossier) (registry : Registry) : Except Unsent Endpoint → Prop
  | sent {endpoint : Endpoint} (passes : dossier.Passes registry endpoint)
      (showable : ¬ dossier.IsUnshowable registry) : Checked dossier registry (.ok endpoint)
  | rejected {rejection : Rejection} (fails : dossier.FailsFirst registry rejection)
      (showable : ¬ dossier.IsUnshowable registry) :
      Checked dossier registry (.error (.rejected rejection))
  | unshowable (long : dossier.IsUnshowable registry) :
      Checked dossier registry (.error (.brokeDown .longInteger))

/-- Integers are unshowable only where they are reached. -/
theorem not_isUnshowable {endpoint : Endpoint}
    (registered : registry.find? dossier.chain = some endpoint)
    (fine : dossier.apiKey.getD "" ≠ "" → dossier.runs ≤ 0 ∨ IsAddress dossier.contractAddress →
      (Json.int dossier.runs).isShowable = true) : ¬ dossier.IsUnshowable registry := by
  rintro (⟨unknown, -⟩ | ⟨-, key, reached, long⟩)
  · rw [registered] at unknown
    cases unknown
  · rw [fine key reached] at long
    cases long

/-- **What becomes of the checks**: all are passed, or the first failure is told, unless an integer
cannot be shown. -/
theorem endpoint_checked (dossier : Dossier) (registry : Registry) :
    dossier.Checked registry (dossier.submission.endpoint registry) := by
  rw [endpoint_submission]
  cases registered : registry.find? dossier.chain with
  | none =>
      dsimp only [rejectShowing]
      cases showable : dossier.chain.toJson.isShowable with
      | true =>
          refine .rejected (.chain registered) ?_
          rintro (⟨-, long⟩ | ⟨found, -⟩)
          · cases long.symm.trans showable
          · cases found.symm.trans registered
      | false => exact .unshowable (.chain registered showable)
  | some endpoint =>
      dsimp only [rejectShowing]
      by_cases missing : dossier.apiKey.getD "" = ""
      · rw [if_pos missing]
        exact .rejected (.key registered missing)
          (not_isUnshowable registered fun key => (key missing).elim)
      rw [if_neg missing]
      by_cases few : dossier.runs ≤ 0
      · rw [if_pos few]
        cases showable : (Json.int dossier.runs).isShowable with
        | true =>
            exact .rejected (.runs registered missing few)
              (not_isUnshowable registered fun _ _ => showable)
        | false => exact .unshowable (.runs registered missing (Or.inl few) showable)
      have positive := Int.not_le.mp few
      rw [if_neg few]
      by_cases isOne : isAddress dossier.contractAddress = true
      · have address := isAddress_iff.mp isOne
        rw [if_pos isOne]
        cases showable : (Json.int dossier.runs).isShowable with
        | true =>
            exact .sent ⟨registered, missing, positive, address⟩
              (not_isUnshowable registered fun _ _ => showable)
        | false => exact .unshowable (.runs registered missing (Or.inr address) showable)
      · rw [if_neg isOne]
        have other : ¬ IsAddress dossier.contractAddress := fun address =>
          isOne (isAddress_iff.mpr address)
        refine .rejected (.address registered missing positive other)
          (not_isUnshowable registered ?_)
        rintro - (few | address)
        · exact absurd positive (Int.not_lt.mpr few)
        · exact (other address).elim

/-- A dossier that fails a check does not pass all. -/
theorem FailsFirst.not_passes {rejection : Rejection}
    (fails : dossier.FailsFirst registry rejection) (endpoint : Endpoint) :
    ¬ dossier.Passes registry endpoint := by
  intro passes
  cases fails with
  | chain unknown =>
      rw [passes.registered] at unknown
      cases unknown
  | key registered missing => exact passes.key missing
  | runs registered key few => exact absurd passes.runs (Int.not_lt.mpr few)
  | address registered key runs other => exact other passes.address

/-- **An endpoint is found exactly for a dossier that passes all checks**, and whose numbers can be
shown. -/
theorem endpoint_eq_ok_iff {endpoint : Endpoint} :
    dossier.submission.endpoint registry = .ok endpoint ↔
      dossier.Passes registry endpoint ∧ ¬ dossier.IsUnshowable registry := by
  have checked := dossier.endpoint_checked registry
  constructor
  · intro found
    rw [found] at checked
    obtain ⟨passes, showable⟩ := checked
    exact ⟨passes, showable⟩
  · rintro ⟨passes, showable⟩
    generalize dossier.submission.endpoint registry = outcome at checked
    cases checked with
    | sent again =>
        cases passes.registered.symm.trans again.registered
        rfl
    | rejected fails => exact (fails.not_passes endpoint passes).elim
    | unshowable long => exact (showable long).elim

end Checks

end Dossier

end Explorer

end Soliscope
