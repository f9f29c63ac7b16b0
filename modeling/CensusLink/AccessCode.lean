import CensusLink.CaseType

/-!
Access codes: each lets one respondent into one questionnaire, and is kept under the hash of the
code itself.
-/
namespace CensusLink

structure AccessCode where
  hash : String
  active : Bool
  questionnaireId : String
  form : FormType
  /-- The type of case that the code is meant for. -/
  caseType : CaseType
  region : Option String
  exerciseId : Option String
  /-- The case that the code is linked to. -/
  caseId : Option String
  deriving DecidableEq, Repr

namespace AccessCode

/-- A code as issued: active and not linked. -/
def issued (hash questionnaireId : String) (form : FormType) (caseType : CaseType) : AccessCode :=
  ⟨hash, true, questionnaireId, form, caseType, none, none, none⟩

def isLinked (code : AccessCode) : Bool := code.caseId.isSome

end AccessCode

instance : Wire AccessCode where
  shape := .record "AccessCode" <|
    .cons "codeHash" .required (Wire.shape String) <|
    .cons "active" .required (Wire.shape Bool) <|
    .cons "questionnaireId" .required (Wire.shape String) <|
    .cons "formType" .required (Wire.shape FormType) <|
    .cons "caseType" .required (Wire.shape CaseType) <|
    .cons "region" .defaulted (Wire.shape (Option String)) <|
    .cons "collectionExerciseId" .defaulted (Wire.shape (Option String)) <|
    .cons "caseId" .defaulted (Wire.shape (Option String)) .nil
  pack c := (Wire.pack c.hash, Wire.pack c.active, Wire.pack c.questionnaireId, Wire.pack c.form,
    Wire.pack c.caseType, Wire.pack c.region, Wire.pack c.exerciseId, Wire.pack c.caseId, ())
  unpack := fun (hash, active, questionnaireId, form, caseType, region, exerciseId, caseId, ()) =>
    ⟨Wire.unpack hash, Wire.unpack active, Wire.unpack questionnaireId, Wire.unpack form,
      Wire.unpack caseType, Wire.unpack region, Wire.unpack exerciseId, Wire.unpack caseId⟩
  unpack_pack c := by simp [Wire.unpack_pack]

end CensusLink
