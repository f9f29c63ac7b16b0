import CensusLink.AccessCode
import CensusLink.CollectionCase

/-!
What a respondent sees of an access code and the case it is linked to. Where both have a value the
one of the code is shown.
-/
namespace CensusLink

/-- A view of a code, with the time at which the case was created. -/
structure CodeView (τ : Type := Instant) where
  hash : String
  active : Bool
  questionnaireId : String
  form : FormType
  caseType : CaseType
  region : Option String
  exerciseId : Option String
  caseId : Option String
  caseRef : Option String
  survey : Option String
  address : Option Address
  addressInvalid : Bool
  handDelivery : Bool
  capacity : Option Int32
  caseCreated : Option τ
  deriving DecidableEq

namespace CodeView

/-- A code on its own. -/
def ofCode (code : AccessCode) : CodeView where
  hash := code.hash
  active := code.active
  questionnaireId := code.questionnaireId
  form := code.form
  caseType := code.caseType
  region := code.region
  exerciseId := code.exerciseId
  caseId := code.caseId
  caseRef := none
  survey := none
  address := none
  addressInvalid := false
  handDelivery := false
  capacity := none
  caseCreated := none

def merged (c : CollectionCase) (code : AccessCode) : CodeView where
  hash := code.hash
  active := code.active
  questionnaireId := code.questionnaireId
  form := code.form
  caseType := code.caseType
  region := code.region <|> c.address.region
  exerciseId := code.exerciseId <|> c.exerciseId
  caseId := code.caseId <|> some c.id
  caseRef := c.ref
  survey := c.survey
  address := some c.address
  addressInvalid := c.addressInvalid
  handDelivery := c.handDelivery
  capacity := c.capacity
  caseCreated := c.created

end CodeView

section Wire

variable {τ : Type}

instance CodeView.packed [Packed τ] : Packed (CodeView τ) where
  shape := .record "AccessCodeView" <|
    .cons "codeHash" .required (Wire.shape String) <|
    .cons "active" .required (Wire.shape Bool) <|
    .cons "questionnaireId" .required (Wire.shape String) <|
    .cons "formType" .required (Wire.shape FormType) <|
    .cons "caseType" .required (Wire.shape CaseType) <|
    .cons "region" .required (Wire.shape (Option String)) <|
    .cons "collectionExerciseId" .required (Wire.shape (Option String)) <|
    .cons "caseId" .required (Wire.shape (Option String)) <|
    .cons "caseRef" .required (Wire.shape (Option String)) <|
    .cons "survey" .required (Wire.shape (Option String)) <|
    .cons "address" .required (Wire.shape (Option Address)) <|
    .cons "addressInvalid" .required (Wire.shape Bool) <|
    .cons "handDelivery" .required (Wire.shape Bool) <|
    .cons "ceExpectedCapacity" .required (Wire.shape (Option Int32)) <|
    .cons "caseCreatedDateTime" .required (Wire.shape (Option τ)) .nil
  pack v := (Wire.pack v.hash, Wire.pack v.active, Wire.pack v.questionnaireId, Wire.pack v.form,
    Wire.pack v.caseType, Wire.pack v.region, Wire.pack v.exerciseId, Wire.pack v.caseId,
    Wire.pack v.caseRef, Wire.pack v.survey, Wire.pack v.address, Wire.pack v.addressInvalid,
    Wire.pack v.handDelivery, Wire.pack v.capacity, Wire.pack v.caseCreated, ())
  unpack := fun (hash, active, questionnaireId, form, caseType, region, exerciseId, caseId,
      caseRef, survey, address, addressInvalid, handDelivery, capacity, caseCreated, ()) =>
    ⟨Wire.unpack hash, Wire.unpack active, Wire.unpack questionnaireId, Wire.unpack form,
      Wire.unpack caseType, Wire.unpack region, Wire.unpack exerciseId, Wire.unpack caseId,
      Wire.unpack caseRef, Wire.unpack survey, Wire.unpack address, Wire.unpack addressInvalid,
      Wire.unpack handDelivery, Wire.unpack capacity, Wire.unpack caseCreated⟩

/-- A view is kept but for its time. -/
theorem CodeView.unpack_pack [Packed τ] (v : CodeView τ) : Wire.unpack (Wire.pack v) =
    { v with caseCreated := Wire.unpack (Wire.pack v.caseCreated) } := by
  unfold packed
  simp [Wire.unpack_pack]

instance [Wire τ] : Wire (CodeView τ) where
  unpack_pack v := by rw [v.unpack_pack, Wire.unpack_pack]

end Wire

end CensusLink
