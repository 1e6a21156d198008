import Soliscope.Explorer.Call
import Soliscope.Proofs.Explorer.Redaction
import Soliscope.Proofs.Url.Reading

/-! # Messages that carry a key

A form with a key in it carries the key in writing right behind a mark, and so does everything that
quotes the address of a request for the form (`CarriesKey`). Redacted, such a text is the same for
all keys (`CarriesKey.redact_eq`).
-/

namespace Soliscope.Explorer

open Soliscope.Url

/-- Texts that differ in a key, which stands behind a mark. -/
def CarriesKey (text : String → String) : Prop :=
  ∃ before more, ∀ key, (text key).toList = before ++ (keyMark ++ (Form.encode key ++ more))

/-- The characters of values in a form do not end a key. -/
theorem endsKey_of_isValueChar {c : Char} (isValue : isValueChar c = true) : endsKey c = false := by
  simp only [isValueChar, Bool.or_eq_true, beq_iff_eq] at isValue
  rcases isValue with (free | rfl) | rfl
  · have goesOn := of_isUnreserved (fun c => !endsKey c) (by decide +kernel) free
    simpa using goesOn
  · decide
  · decide

/-- A key in writing ends where it ends, and only there. -/
theorem encode_isKey {key : String} (given : key ≠ "") : IsKey (Form.encode key) :=
  ⟨encode_ne_nil given,
    fun _ member => endsKey_of_isValueChar (isValueChar_of_mem_encode member)⟩

namespace CarriesKey

variable {text : String → String}

/-- **Redacted, texts that differ in a key are the same.** -/
theorem redact_eq (carries : CarriesKey text) {first second : String} (firstGiven : first ≠ "")
    (secondGiven : second ≠ "") : redact (text first) = redact (text second) := by
  obtain ⟨before, more, isText⟩ := carries
  exact redact_eq_of_keys (encode_isKey firstGiven) (encode_isKey secondGiven) (isText first)
    (isText second)

/-- Other text around it leaves the key where it is. -/
theorem around (carries : CarriesKey text) (lead trail : String) :
    CarriesKey fun key => lead ++ (text key ++ trail) := by
  obtain ⟨before, more, isText⟩ := carries
  refine ⟨lead.toList ++ before, more ++ trail.toList, fun key => ?_⟩
  rw [String.toList_append, String.toList_append, isText]
  simp only [List.append_assoc]

theorem quoteChar_of_isValueChar {c mark : Char} (isValue : isValueChar c = true)
    (isMark : mark = '"' ∨ mark = '\'') : Text.quoteChar mark c = [c] := by
  have both : (Text.quoteChar '"' c == [c] && Text.quoteChar '\'' c == [c]) = true := by
    simp only [isValueChar, Bool.or_eq_true, beq_iff_eq] at isValue
    rcases isValue with (free | rfl) | rfl
    · exact of_isUnreserved (fun c =>
        Text.quoteChar '"' c == [c] && Text.quoteChar '\'' c == [c]) (by decide +kernel) free
    · decide +kernel
    · decide +kernel
  rw [Bool.and_eq_true, beq_iff_eq, beq_iff_eq] at both
  rcases isMark with rfl | rfl
  · exact both.1
  · exact both.2

/-- A text is put in marks of one of two kinds. -/
theorem quotationMark_cases (written : List Char) :
    Text.quotationMark written = '"' ∨ Text.quotationMark written = '\'' := by
  unfold Text.quotationMark
  split
  · exact Or.inl rfl
  · exact Or.inr rfl

/-- A key makes no difference to the quotation marks that a text is put in. -/
theorem quotationMark_key (before more : List Char) (key : String) :
    Text.quotationMark (before ++ (keyMark ++ (Form.encode key ++ more))) =
      Text.quotationMark (before ++ more) := by
  have without {c : Char} (ends : endsKey c = true) : c ∉ keyMark ++ Form.encode key := by
    intro member
    rcases List.mem_append.mp member with inMark | inKey
    · rw [keyMark_runs c inMark] at ends
      cases ends
    · rw [endsKey_of_isValueChar (isValueChar_of_mem_encode inKey)] at ends
      cases ends
  have same {c : Char} (ends : endsKey c = true) :
      (before ++ (keyMark ++ (Form.encode key ++ more))).contains c =
        (before ++ more).contains c := by
    have absent := without ends
    simp only [List.mem_append, not_or] at absent
    rw [Bool.eq_iff_iff]
    simp only [List.contains_iff_mem, List.mem_append, absent.1, absent.2, false_or]
  unfold Text.quotationMark
  rw [same (c := '\'') (by decide), same (c := '"') (by decide)]

/-- Between quotes a text carries the key as it is. -/
theorem quoted (carries : CarriesKey text) : CarriesKey fun key => Text.quoted (text key) := by
  obtain ⟨before, more, isText⟩ := carries
  have kept {written : List Char} (values : ∀ c ∈ written, isValueChar c = true) {mark : Char}
      (isMark : mark = '"' ∨ mark = '\'') : written.flatMap (Text.quoteChar mark) = written := by
    induction written with
    | nil => rfl
    | cons c rest ih =>
        rw [List.flatMap_cons, quoteChar_of_isValueChar (values c List.mem_cons_self) isMark,
          ih fun other member => values other (List.mem_cons_of_mem c member)]
        rfl
  have isMark := quotationMark_cases (before ++ more)
  generalize isQuote : Text.quotationMark (before ++ more) = mark at isMark
  have marks : keyMark.flatMap (Text.quoteChar mark) = keyMark := by
    rcases isMark with rfl | rfl <;> decide +kernel
  refine ⟨mark :: before.flatMap (Text.quoteChar mark),
    more.flatMap (Text.quoteChar mark) ++ [mark], fun key => ?_⟩
  have values : ∀ c ∈ Form.encode key, isValueChar c = true :=
    fun _ member => isValueChar_of_mem_encode member
  have value := kept values isMark
  simp only [Text.quoted, String.toList_ofList, isText, quotationMark_key, isQuote,
    List.flatMap_append, marks, value, List.append_assoc, List.cons_append]

/-- The message about a status carries the key of the address that it quotes. -/
theorem statusMessage (carries : CarriesKey text) (status : Nat) (location : Option String) :
    CarriesKey fun key => (StatusError.mk status (text key) location).message := by
  have shape (url : String) : (StatusError.mk status url location).message =
      (statusClass status ++ " '" ++ toString status ++ " " ++ statusPhrase status ++
          "' for url '") ++ (url ++ ("'\n" ++
        location.elim "" (fun place => "Redirect location: '" ++ place ++ "'\n") ++
        "For more information check: https://developer.mozilla.org/en-US/docs/Web/HTTP/Status/" ++
        toString status)) := by
    cases location with
    | none => simp only [StatusError.message, String.append_assoc, Option.elim]
    | some place => simp only [StatusError.message, String.append_assoc, Option.elim]
  simp only [shape]
  exact carries.around _ _

/-- So does the message about an address that does not say where to go. -/
theorem noSchemeMessage (carries : CarriesKey text) :
    CarriesKey fun key => (CallFailure.noScheme (text key)).message := by
  have shape (url : String) :
      (CallFailure.noScheme url).message = "unknown url type: " ++ (Text.quoted url ++ "") := by
    rw [String.append_empty]
    rfl
  simp only [shape]
  exact carries.quoted.around _ _

end CarriesKey

/-- A list joined by a mark holds each of its parts as it is. -/
theorem intercalate_around (mark : Char) (before after : List (List Char)) :
    ∃ lead trail, ∀ part,
      [mark].intercalate (before ++ part :: after) = lead ++ (part ++ trail) := by
  induction before with
  | nil =>
      cases after with
      | nil =>
          refine ⟨[], [], fun part => ?_⟩
          rw [List.nil_append, List.intercalate_singleton, List.nil_append, List.append_nil]
      | cons next others =>
          refine ⟨[], mark :: [mark].intercalate (next :: others), fun part => ?_⟩
          rw [List.nil_append, List.intercalate_cons_cons, List.nil_append, List.append_assoc]
          rfl
  | cons first rest ih =>
      obtain ⟨lead, trail, joined⟩ := ih
      refine ⟨first ++ ([mark] ++ lead), trail, fun part => ?_⟩
      have split : [mark].intercalate (first :: (rest ++ part :: after)) =
          first ++ [mark] ++ [mark].intercalate (rest ++ part :: after) := by
        cases rest <;> exact List.intercalate_cons_cons
      rw [List.cons_append, split, joined]
      simp only [List.append_assoc]

/-- The form of a request with a key among its entries. -/
def keyEntries (before after : List (String × String)) (key : String) : List (String × String) :=
  before ++ ("apikey", key) :: after

/-- A form in writing carries its key. -/
theorem render_keyEntries (before after : List (String × String)) :
    ∃ lead trail, ∀ key, Form.render (keyEntries before after key) =
      lead ++ (keyMark ++ (Form.encode key ++ trail)) := by
  obtain ⟨lead, trail, joined⟩ :=
    intercalate_around '&' (before.map Form.encodeEntry) (after.map Form.encodeEntry)
  refine ⟨lead, trail, fun key => ?_⟩
  have entry : Form.encodeEntry ("apikey", key) = keyMark ++ Form.encode key := by
    have name : Form.encode "apikey" ++ ['='] = keyMark := by decide +kernel
    rw [Form.encodeEntry, ← name]
    exact (List.append_assoc _ ['='] _).symm
  rw [Form.render, keyEntries, List.map_append, List.map_cons, joined, entry]
  simp only [List.append_assoc]

/-- The address of a request with the form in its query carries the key of the form. -/
theorem carriesKey_render (bare : Address) (before after : List (String × String)) :
    CarriesKey fun key => (bare.putQuery (Form.render (keyEntries before after key))).render := by
  obtain ⟨lead, trail, isForm⟩ := render_keyEntries before after
  refine ⟨bare.parts.front ++ '?' :: lead, trail ++ bare.fragment.elim [] ('#' :: ·),
    fun key => ?_⟩
  dsimp only
  rw [Address.render, String.toList_ofList, Address.parts_putQuery, escape_render,
    Parts.render_query, isForm]
  simp only [List.append_assoc, List.cons_append]
  rfl

end Soliscope.Explorer
