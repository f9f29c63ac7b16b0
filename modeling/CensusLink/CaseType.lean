import CensusLink.Json.Wire

/-!
The kinds of questionnaire form and of collection case, each with its short code.
-/
namespace CensusLink

/-- The form that an access code was issued for. -/
inductive FormType
  | household
  | individual
  | establishment
  deriving DecidableEq, Repr

def FormType.code : FormType → String
  | .household => "H"
  | .individual => "I"
  | .establishment => "C"

instance : Named FormType where
  all := [.household, .individual, .establishment]
  name := FormType.code
  place
    | .household => 0
    | .individual => 1
    | .establishment => 2
  get_place t := by cases t <;> rfl
  distinct := by decide

/-- What a case stands for: an address of one of three kinds, or one person in a household. -/
inductive CaseType
  | household
  | specialGroup
  | communal
  | individual
  deriving DecidableEq, Repr

def CaseType.code : CaseType → String
  | .household => "HH"
  | .specialGroup => "SPG"
  | .communal => "CE"
  | .individual => "HI"

instance : Named CaseType where
  all := [.household, .specialGroup, .communal, .individual]
  name := CaseType.code
  place
    | .household => 0
    | .specialGroup => 1
    | .communal => 2
    | .individual => 3
  get_place t := by cases t <;> rfl
  distinct := by decide

end CensusLink
