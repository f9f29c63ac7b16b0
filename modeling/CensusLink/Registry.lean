import CensusLink.Records

/-!
The registry: access codes under their hashes and cases under their ids, each in its own schema, and
cases also by the property reference number of their address.
-/
namespace CensusLink

structure Registry where
  policy : RetryPolicy
  schemas : SchemaNames

namespace Registry

/-- Where a case has the number of its property. -/
def uprnPath : String := "address.uprn"

variable (r : Registry)

def writeCode (code : AccessCode) : Service Unit :=
  Records.put r.policy r.schemas.accessCode code.hash code

def writeCase {τ : Type} [Packed τ] (c : CollectionCase τ) : Service Unit :=
  Records.put r.policy r.schemas.case c.id c

def readCode (hash : String) : Service (Option AccessCode) :=
  Records.get? r.schemas.accessCode hash

def readCase (id : String) : Service (Option CollectionCase) := Records.get? r.schemas.case id

def casesAt (uprn : String) : Service (List CollectionCase) :=
  Records.find r.schemas.case uprnPath uprn

def latestCaseAt (uprn : String) : Service (Option CollectionCase) := do
  let cases ← r.casesAt uprn
  pure (CollectionCase.latestEligible? cases)

end Registry
end CensusLink
