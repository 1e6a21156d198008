import Soliscope.Explorer.Envelope
import Soliscope.Proofs.Number.DoubleText
import Soliscope.Proofs.Schema.Acceptance

/-! # Which documents are envelopes

An envelope is an object with a status; its message may be missing, and its result may be anything.
Reading accepts exactly these documents (`Envelope.exists_read_iff`). The status may be a number,
which is read as its text. The number one is a success all the same, but a double is not, whatever
its value, and neither is a truth value (`Envelope.isOk_iff`).
-/

namespace Soliscope.Explorer

open Soliscope.Schema

/-- A value is a text or a number. -/
def IsTextOrNumber (value : Json) : Prop :=
  (∃ written, value = .str written) ∨ (∃ number, value = .int number) ∨
    ∃ number, value = .float number

/-- A document has the form of an envelope. -/
structure IsEnvelope (document : Json) : Prop where
  isObject : ∃ fields, document = .obj fields
  status : ∃ status, document.field? "status" = some status ∧ IsTextOrNumber status
  message : ∀ message, document.field? "message" = some message →
    message = .null ∨ IsTextOrNumber message

/-- The status of a document says that all went well. -/
def SaysOk (document : Json) : Prop :=
  document.field? "status" = some (.str "1") ∨ document.field? "status" = some (.int 1)

/-- A text is taken as it is and a number as its writing. -/
theorem textOrNumber_eq_accepted {value : Json} {found : String} :
    textOrNumber value = .accepted found ↔
      value = .str found ∨ (∃ number, value = .int number ∧ toString number = found) ∨
        ∃ number, value = .float number ∧ Number.valueText number = found := by
  cases value with
  | str written => simp [textOrNumber, text]
  | int number => simp [textOrNumber]
  | float number => simp [textOrNumber]
  | _ => simp [textOrNumber, text, Validation.flawed_ne_accepted]

/-- Nothing but texts and numbers is taken. -/
theorem exists_textOrNumber_iff {value : Json} :
    (∃ found, textOrNumber value = .accepted found) ↔ IsTextOrNumber value := by
  constructor
  · rintro ⟨found, read⟩
    rcases textOrNumber_eq_accepted.mp read with same | ⟨number, same, -⟩ | ⟨number, same, -⟩
    · exact Or.inl ⟨found, same⟩
    · exact Or.inr (Or.inl ⟨number, same⟩)
    · exact Or.inr (Or.inr ⟨number, same⟩)
  · rintro (⟨written, rfl⟩ | ⟨number, rfl⟩ | ⟨number, rfl⟩)
    · exact ⟨written, rfl⟩
    · exact ⟨toString number, rfl⟩
    · exact ⟨Number.valueText number, rfl⟩

/-- Only the text `1` and the integer one read as the text `1`. -/
theorem textOrNumber_eq_one_iff {value : Json} :
    textOrNumber value = .accepted "1" ↔ value = .str "1" ∨ value = .int 1 := by
  rw [textOrNumber_eq_accepted]
  constructor
  · rintro (same | ⟨number, rfl, one⟩ | ⟨number, rfl, one⟩)
    · exact Or.inl same
    · rw [Number.toString_eq_one_iff.mp one]
      exact Or.inr rfl
    · have oneText : "1" = toString (1 : Int) := (Number.toString_eq_one_iff.mpr rfl).symm
      exact (Number.valueText_ne_toString number 1 (one.trans oneText)).elim
  · rintro (same | rfl)
    · exact Or.inl same
    · exact Or.inr (Or.inl ⟨1, rfl, Number.toString_eq_one_iff.mpr rfl⟩)

/-- The three fields of an envelope, read one by one. -/
theorem Envelope.read_eq_accepted {document : Json} {envelope : Envelope} :
    Envelope.read document = .accepted envelope ↔
      ∃ fields, document = .obj fields ∧
        required "status" textOrNumber fields = .accepted envelope.status ∧
        defaulted "message" none (nullable textOrNumber) fields = .accepted envelope.message ∧
        defaulted "result" .null anything fields = .accepted envelope.result := by
  unfold Envelope.read
  rw [document_eq_accepted]
  refine exists_congr fun fields => and_congr_right fun _ => ?_
  rw [Validation.fmap_seq_seq_eq_accepted]
  constructor
  · rintro ⟨status, message, result, statusRead, messageRead, resultRead, rfl⟩
    exact ⟨statusRead, messageRead, resultRead⟩
  · rintro ⟨statusRead, messageRead, resultRead⟩
    exact ⟨_, _, _, statusRead, messageRead, resultRead, rfl⟩

/-- **The documents that are accepted as envelopes.** -/
theorem Envelope.exists_read_iff {document : Json} :
    (∃ envelope, Envelope.read document = .accepted envelope) ↔ IsEnvelope document := by
  constructor
  · rintro ⟨envelope, read⟩
    obtain ⟨fields, rfl, statusRead, messageRead, -⟩ := Envelope.read_eq_accepted.mp read
    obtain ⟨status, present, isStatus⟩ := required_eq_accepted.mp statusRead
    refine ⟨⟨fields, rfl⟩, ⟨status, present, exists_textOrNumber_iff.mp ⟨_, isStatus⟩⟩, ?_⟩
    intro message found
    change fields.lookup "message" = some message at found
    have isMessage := defaulted_nullable_eq_accepted.mp messageRead
    rw [found, Option.getD_some] at isMessage
    rcases nullable_eq_accepted.mp isMessage with ⟨isNull, -⟩ | ⟨-, inner, isInner, -⟩
    · exact Or.inl isNull
    · exact Or.inr (exists_textOrNumber_iff.mp ⟨inner, isInner⟩)
  · intro form
    obtain ⟨fields, rfl⟩ := form.isObject
    obtain ⟨value, present, isText⟩ := form.status
    obtain ⟨status, statusRead⟩ := exists_textOrNumber_iff.mpr isText
    have messageRead : ∃ message,
        nullable textOrNumber ((fields.lookup "message").getD .null) = .accepted message := by
      cases found : fields.lookup "message" with
      | none => exact ⟨none, rfl⟩
      | some value =>
          by_cases isNull : value = .null
          · exact ⟨none, nullable_eq_accepted.mpr (Or.inl ⟨isNull, rfl⟩)⟩
          · obtain ⟨inner, isInner⟩ :=
              exists_textOrNumber_iff.mpr ((form.message value found).resolve_left isNull)
            exact ⟨some inner, nullable_eq_accepted.mpr (Or.inr ⟨isNull, inner, isInner, rfl⟩)⟩
    obtain ⟨message, messageRead⟩ := messageRead
    have stands : anything .null = .accepted .null := rfl
    exact ⟨⟨status, message, (fields.lookup "result").getD .null⟩, Envelope.read_eq_accepted.mpr
      ⟨fields, rfl, required_eq_accepted.mpr ⟨value, present, statusRead⟩,
        defaulted_nullable_eq_accepted.mpr messageRead,
        (defaulted_eq_accepted_of_standIn stands).mpr rfl⟩⟩

section Read

variable {document : Json} {envelope : Envelope}

/-- **What counts as a success.** -/
theorem Envelope.isOk_iff (read : Envelope.read document = .accepted envelope) :
    envelope.isOk = true ↔ SaysOk document := by
  obtain ⟨fields, rfl, statusRead, -⟩ := Envelope.read_eq_accepted.mp read
  obtain ⟨status, present, isStatus⟩ := required_eq_accepted.mp statusRead
  have isOne : envelope.status = "1" ↔ textOrNumber status = .accepted "1" := by
    rw [isStatus, Validation.accepted_inj]
  change (envelope.status == "1") = true ↔
    fields.lookup "status" = some (.str "1") ∨ fields.lookup "status" = some (.int 1)
  rw [beq_iff_eq, isOne, textOrNumber_eq_one_iff, present, Option.some.injEq, Option.some.injEq]

/-- The result of an envelope is that of the document, or null. -/
theorem Envelope.result_eq (read : Envelope.read document = .accepted envelope) :
    envelope.result = (document.field? "result").getD .null := by
  obtain ⟨fields, rfl, -, -, resultRead⟩ := Envelope.read_eq_accepted.mp read
  change envelope.result = (fields.lookup "result").getD .null
  have stands : anything .null = .accepted .null := rfl
  have taken := (defaulted_eq_accepted_of_standIn stands).mp resultRead
  exact (Validation.accepted_inj.mp taken).symm

/-- The result is a text exactly when the document has that text as its result. -/
theorem Envelope.result_text_iff (read : Envelope.read document = .accepted envelope)
    {written : String} :
    envelope.result.text? = some written ↔ document.field? "result" = some (.str written) := by
  rw [Envelope.result_eq read]
  cases document.field? "result" with
  | none => simp [Json.text?]
  | some value => cases value <;> simp [Json.text?]

end Read

end Soliscope.Explorer
