import CensusLink.Address

/-!
Collection cases: an address, or one person at it, from whom a questionnaire is wanted. Of several
cases the latest is the one created last, and of those created together the one whose id comes last.
-/
namespace CensusLink

/-- A case, with the time of its creation. -/
structure CollectionCase (τ : Type := Instant) where
  id : String
  ref : Option String
  survey : Option String
  exerciseId : Option String
  address : Address
  type : CaseType
  addressInvalid : Bool
  created : Option τ
  handDelivery : Bool
  /-- How many residents a communal establishment expects. -/
  capacity : Option Int32
  deriving DecidableEq

namespace CollectionCase

/-- The same case with the time of its creation in another form. -/
def map {τ υ : Type} (f : τ → υ) (c : CollectionCase τ) : CollectionCase υ :=
  { c with created := c.created.map f }

/-- The case that is told by the text of one. -/
def told (c : CollectionCase Moment) : CollectionCase := c.map Moment.told

def uprn (c : CollectionCase) : String := c.address.uprn

def isIndividual (c : CollectionCase) : Bool := c.type == .individual

/-- The fields of the time of creation from the year down; none is before every time. -/
def createdKey (c : CollectionCase) : List Int := (c.created.map Instant.key).getD []

/-- Whether another case is later than this one, or as late with an id that does not come first. -/
def notLaterThan (c d : CollectionCase) : Bool :=
  decide (c.createdKey < d.createdKey) || (c.createdKey == d.createdKey && decide (c.id ≤ d.id))

/-- The latest of some cases; of two that are as late the second. -/
def latest? : List CollectionCase → Option CollectionCase
  | [] => none
  | c :: rest => some (rest.foldl (fun best d => if best.notLaterThan d then d else best) c)

/-- A case that may stand for its address. -/
def isEligible (c : CollectionCase) : Bool := !c.isIndividual && !c.addressInvalid

def latestEligible? (cases : List CollectionCase) : Option CollectionCase :=
  latest? (cases.filter isEligible)

end CollectionCase

section Wire

variable {τ : Type}

instance CollectionCase.packed [Packed τ] : Packed (CollectionCase τ) where
  shape := .record "CollectionCase" <|
    .cons "id" .required (Wire.shape String) <|
    .cons "caseRef" .defaulted (Wire.shape (Option String)) <|
    .cons "survey" .defaulted (Wire.shape (Option String)) <|
    .cons "collectionExerciseId" .defaulted (Wire.shape (Option String)) <|
    .cons "address" .required (Wire.shape Address) <|
    .cons "caseType" .required (Wire.shape CaseType) <|
    .cons "addressInvalid" .defaulted (Wire.shape Bool) <|
    .cons "createdDateTime" .defaulted (Wire.shape (Option τ)) <|
    .cons "handDelivery" .defaulted (Wire.shape Bool) <|
    .cons "ceExpectedCapacity" .defaulted (Wire.shape (Option Int32)) .nil
  pack c := (Wire.pack c.id, Wire.pack c.ref, Wire.pack c.survey, Wire.pack c.exerciseId,
    Wire.pack c.address, Wire.pack c.type, Wire.pack c.addressInvalid, Wire.pack c.created,
    Wire.pack c.handDelivery, Wire.pack c.capacity, ())
  unpack := fun (id, ref, survey, exerciseId, address, type, addressInvalid, created,
      handDelivery, capacity, ()) =>
    ⟨Wire.unpack id, Wire.unpack ref, Wire.unpack survey, Wire.unpack exerciseId,
      Wire.unpack address, Wire.unpack type, Wire.unpack addressInvalid, Wire.unpack created,
      Wire.unpack handDelivery, Wire.unpack capacity⟩

/-- A case is kept but for its time. -/
theorem CollectionCase.unpack_pack [Packed τ] (c : CollectionCase τ) :
    Wire.unpack (Wire.pack c) = { c with created := Wire.unpack (Wire.pack c.created) } := by
  unfold packed
  simp [Wire.unpack_pack]

instance [Wire τ] : Wire (CollectionCase τ) where
  unpack_pack c := by rw [c.unpack_pack, Wire.unpack_pack]

end Wire

end CensusLink
