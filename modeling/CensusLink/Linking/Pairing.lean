import CensusLink.AccessCode
import CensusLink.CollectionCase

/-!
Which access codes may be linked to which cases: ten pairings are allowed and no other.
-/
namespace CensusLink

structure Pairing where
  form : FormType
  codeCaseType : CaseType
  caseType : CaseType
  deriving DecidableEq, Repr

namespace Pairing

def allowed : List Pairing := [
  ⟨.household, .household, .household⟩,
  ⟨.household, .household, .specialGroup⟩,
  ⟨.household, .specialGroup, .household⟩,
  ⟨.household, .specialGroup, .specialGroup⟩,
  ⟨.individual, .household, .household⟩,
  ⟨.individual, .household, .specialGroup⟩,
  ⟨.individual, .specialGroup, .household⟩,
  ⟨.individual, .specialGroup, .specialGroup⟩,
  ⟨.individual, .communal, .communal⟩,
  ⟨.establishment, .communal, .communal⟩]

def isAllowed (p : Pairing) : Bool := allowed.contains p

def of (code : AccessCode) (c : CollectionCase) : Pairing := ⟨code.form, code.caseType, c.type⟩

/-- Refuses to pair a code with a case of a type that its form and case type do not allow. -/
def check (code : AccessCode) (c : CollectionCase) : Except Fault Unit :=
  if (of code c).isAllowed then .ok ()
  else .error (.badRequest ("Failed to link access code '" ++ code.hash ++ "' to case '" ++ c.id ++
    "': invalid combination formType=" ++ code.form.code ++ " uacCaseType=" ++ code.caseType.code ++
    " caseCaseType=" ++ c.type.code))

end Pairing
end CensusLink
