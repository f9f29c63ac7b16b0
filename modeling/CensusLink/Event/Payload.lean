import CensusLink.AccessCode
import CensusLink.CollectionCase
import CensusLink.Event.Envelope

/-!
What events carry. From outside come codes and cases as they stand now; announced are addresses that
were not known before and codes that were linked. An announcement does not say which of the two it
is, so its fields tell.
-/
namespace CensusLink

structure CodeUpdate where
  code : AccessCode
  deriving DecidableEq

instance : Wire CodeUpdate where
  shape := .record "AccessCodePayload" <| .cons "uac" .required (Wire.shape AccessCode) .nil
  pack u := (Wire.pack u.code, ())
  unpack := fun (code, ()) => ⟨Wire.unpack code⟩
  unpack_pack u := by simp [Wire.unpack_pack]

structure CaseUpdate (τ : Type := Instant) where
  subject : CollectionCase τ
  deriving DecidableEq

section CaseUpdate

variable {τ : Type}

instance CaseUpdate.packed [Packed τ] : Packed (CaseUpdate τ) where
  shape := .record "CasePayload" <|
    .cons "collectionCase" .required (Wire.shape (CollectionCase τ)) .nil
  pack u := (Wire.pack u.subject, ())
  unpack := fun (subject, ()) => ⟨Wire.unpack subject⟩

theorem CaseUpdate.unpack_pack [Packed τ] (u : CaseUpdate τ) :
    Wire.unpack (Wire.pack u) = ⟨Wire.unpack (Wire.pack u.subject)⟩ := rfl

instance [Wire τ] : Wire (CaseUpdate τ) where
  unpack_pack u := by rw [u.unpack_pack, Wire.unpack_pack]

end CaseUpdate

abbrev CodeEvent (τ : Type := Instant) := Envelope CodeUpdate τ

abbrev CaseEvent (τ : Type := Instant) := Envelope (CaseUpdate τ) τ

/-- What is announced of the case made for a new address. -/
structure NewCase where
  id : String
  type : CaseType
  survey : Option String
  exerciseId : Option String
  address : Address
  capacity : Option Int32
  deriving DecidableEq

def NewCase.ofCase (c : CollectionCase) : NewCase :=
  ⟨c.id, c.type, c.survey, c.exerciseId, c.address, c.capacity⟩

instance : Wire NewCase where
  shape := .record "NewAddressCase" <|
    .cons "id" .required (Wire.shape String) <|
    .cons "caseType" .required (Wire.shape CaseType) <|
    .cons "survey" .required (Wire.shape (Option String)) <|
    .cons "collectionExerciseId" .required (Wire.shape (Option String)) <|
    .cons "address" .required (Wire.shape Address) <|
    .cons "ceExpectedCapacity" .required (Wire.shape (Option Int32)) .nil
  pack c := (Wire.pack c.id, Wire.pack c.type, Wire.pack c.survey, Wire.pack c.exerciseId,
    Wire.pack c.address, Wire.pack c.capacity, ())
  unpack := fun (id, type, survey, exerciseId, address, capacity, ()) =>
    ⟨Wire.unpack id, Wire.unpack type, Wire.unpack survey, Wire.unpack exerciseId,
      Wire.unpack address, Wire.unpack capacity⟩
  unpack_pack c := by simp [Wire.unpack_pack]

structure NewAddress where
  subject : NewCase
  deriving DecidableEq

instance : Wire NewAddress where
  shape := .record "NewAddress" <| .cons "collectionCase" .required (Wire.shape NewCase) .nil
  pack a := (Wire.pack a.subject, ())
  unpack := fun (subject, ()) => ⟨Wire.unpack subject⟩
  unpack_pack a := by simp [Wire.unpack_pack]

/-- A questionnaire, the case it is linked to and the case of its respondent, if that is another. -/
structure LinkDetails where
  questionnaireId : String
  caseId : String
  individualCaseId : Option String
  deriving DecidableEq

instance : Wire LinkDetails where
  shape := .record "QuestionnaireLinkedDetails" <|
    .cons "questionnaireId" .required (Wire.shape String) <|
    .cons "caseId" .required (Wire.shape String) <|
    .cons "individualCaseId" .omittable (Wire.shape (Option String)) .nil
  pack d := (Wire.pack d.questionnaireId, Wire.pack d.caseId, Wire.pack d.individualCaseId, ())
  unpack := fun (questionnaireId, caseId, individualCaseId, ()) =>
    ⟨Wire.unpack questionnaireId, Wire.unpack caseId, Wire.unpack individualCaseId⟩
  unpack_pack d := by simp [Wire.unpack_pack]

structure LinkNotice where
  details : LinkDetails
  deriving DecidableEq

instance : Wire LinkNotice where
  shape := .record "QuestionnaireLinkedPayload" <|
    .cons "uac" .required (Wire.shape LinkDetails) .nil
  pack n := (Wire.pack n.details, ())
  unpack := fun (details, ()) => ⟨Wire.unpack details⟩
  unpack_pack n := by simp [Wire.unpack_pack]

inductive Announcement
  | newAddress (a : NewAddress)
  | linked (n : LinkNotice)
  deriving DecidableEq

namespace Announcement

def ofNewCase (c : CollectionCase) : Announcement := .newAddress ⟨.ofCase c⟩

def ofLink (questionnaireId caseId : String) (individualCaseId : Option String) : Announcement :=
  .linked ⟨⟨questionnaireId, caseId, individualCaseId⟩⟩

end Announcement

instance : Wire Announcement where
  shape := .either "EventPayload" (Wire.shape NewAddress) (Wire.shape LinkNotice)
  pack
    | .newAddress a => .inl (Wire.pack a)
    | .linked n => .inr (Wire.pack n)
  unpack
    | .inl a => .newAddress (Wire.unpack a)
    | .inr n => .linked (Wire.unpack n)
  unpack_pack a := by cases a <;> simp [Wire.unpack_pack]

abbrev OutboundEvent (τ : Type := Instant) := Envelope Announcement τ

end CensusLink
