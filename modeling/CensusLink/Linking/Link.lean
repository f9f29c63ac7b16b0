import CensusLink.Linking.Pairing
import CensusLink.Linking.Request
import CensusLink.Linking.View
import CensusLink.Registry
import CensusLink.Settings

/-!
Linking an access code to the case at an address. The case is the one at the address, the latest
household of several, or a new one reported with the request; an individual form at a household is
linked to an individual case of its own. Nothing is written before the pairing is known to be
allowed. The code is written last, so a link that stops on the way can be made again.
-/
namespace CensusLink

/-- What new cases are marked with. -/
structure LinkSettings where
  survey : String
  deriving DecidableEq, Repr

def LinkSettings.standard : LinkSettings := ⟨"CENSUS"⟩

instance : Wire LinkSettings where
  shape := .record "LinkingSettings" <| .cons "survey" .required (Wire.shape String) .nil
  pack s := (Wire.pack s.survey, ())
  unpack := fun (survey, ()) => ⟨Wire.unpack survey⟩
  unpack_pack s := by simp [Wire.unpack_pack]

def LinkSettings.ofSettings (s : Settings) : LinkSettings := ⟨s.survey⟩

namespace Link

/-- No code is kept under the hash. -/
def unknownCode (hash : String) : Fault := .notFound ("Access code '" ++ hash ++ "' not found")

/-- Several cases stand at an address and none is a household. -/
def noHousehold (found : Nat) (uprn : String) : Fault :=
  .system ("Found " ++ toString found ++ " cases for uprn '" ++ uprn ++
    "' but none of type HH")

/-- On an establishment form, communal establishments and special groups stand as a whole. -/
def levelFor : FormType → CaseType → AddressLevel
  | .establishment, .communal => .establishment
  | .establishment, .specialGroup => .establishment
  | _, _ => .unit

/-- The case for an address that no case stands for yet. -/
def reportedCase (id : Uuid) (created : Instant) (code : AccessCode) (request : LinkRequest)
    (type : AddressType) (settings : LinkSettings) : CollectionCase where
  id := id.text
  ref := none
  survey := some settings.survey
  exerciseId := code.exerciseId
  address := {
    line1 := request.line1
    line2 := request.line2
    line3 := request.line3
    town := request.town
    postcode := request.postcode
    region := request.region <|> code.region
    uprn := request.place
    type := some type
    estabType := request.estabType
    level := some (levelFor code.form type.caseType) }
  type := type.caseType
  addressInvalid := false
  created := some created
  handDelivery := false
  capacity := if type = .communal then request.capacity else none

/-- The case of one person in a household. -/
def individualCase (id : Uuid) (created : Instant) (household : CollectionCase) :
    CollectionCase where
  id := id.text
  ref := none
  survey := household.survey
  exerciseId := household.exerciseId
  address := household.address
  type := .individual
  addressInvalid := false
  created := some created
  handDelivery := household.handDelivery
  capacity := none

/-- The individual case at the address that the code is linked to already. -/
def linkedIndividual? (code : AccessCode) (cases : List CollectionCase) : Option CollectionCase :=
  code.caseId.bind fun id => cases.find? fun c => c.id == id && c.isIndividual

/-- What the cases at an address come to. -/
inductive Resolution
  | vacant
  | settled (c : CollectionCase)
  | unclear (found : Nat)

def isHousehold (c : CollectionCase) : Bool := c.type == .household

def resolve : List CollectionCase → Resolution
  | [] => .vacant
  | [c] => .settled c
  | cases =>
    match CollectionCase.latest? (cases.filter isHousehold) with
    | some c => .settled c
    | none => .unclear cases.length

/-- Whether a code of its form gets an individual case next to the case at the address. -/
def needsIndividual (code : AccessCode) (c : CollectionCase) : Bool :=
  code.form == .individual && c.type == .household

/-- Publishes an event of the service; whether it goes out makes no difference. -/
def announce (type : EventType) (a : Announcement) : Service Unit := do
  let _ ← (Service.publish ⟨type, .respondentHome, .respondent, a⟩).attempt

variable (r : Registry) (settings : LinkSettings)

def findCode (hash : String) : Service AccessCode := do
  match ← r.readCode hash with
  | some code => pure code
  | none => throw (unknownCode hash)

/-- The case to link to, and whether it is new. -/
def findCase (code : AccessCode) (request : LinkRequest) (type : AddressType)
    (cases : List CollectionCase) : Service (CollectionCase × Bool) := do
  match resolve cases with
  | .settled c => pure (c, false)
  | .unclear found => throw (noHousehold found request.place)
  | .vacant => do
    let id ← Service.freshId
    let created ← Service.now
    pure (reportedCase id created code request type settings, true)

def reportCase (c : CollectionCase) : Service Unit := do
  r.writeCase c
  announce .newAddressReported (.ofNewCase c)

def newIndividual (household : CollectionCase) : Service CollectionCase := do
  let id ← Service.freshId
  let created ← Service.now
  let c := individualCase id created household
  r.writeCase c
  pure c

/-- The individual case for a code, if it needs one: the one it is linked to already, or a new
one. -/
def findIndividual (code : AccessCode) (c : CollectionCase) (linked : Option CollectionCase) :
    Service (Option CollectionCase) := do
  if needsIndividual code c then
    match linked with
    | some individual => pure (some individual)
    | none => do
      let individual ← newIndividual r c
      pure (some individual)
  else pure none

/-- Links a code to the case at the address of a request. -/
def link (hash : String) (request : LinkRequest) : Service CodeView := do
  let code ← findCode r hash
  let type ← Service.of request.check
  let cases ← r.casesAt request.place
  let (c, isNew) ← findCase settings code request type cases
  Service.of (Pairing.check code c)
  if isNew then reportCase r c
  let individual ← findIndividual r code c (linkedIndividual? code cases)
  let target := individual.getD c
  let linked := { code with caseId := some target.id }
  r.writeCode linked
  announce .questionnaireLinked (.ofLink code.questionnaireId c.id (individual.map (·.id)))
  pure (CodeView.merged target linked)

end Link
end CensusLink
