import CensusLink.Address

/-!
The address that a respondent gives when linking an access code.
-/
namespace CensusLink

structure LinkRequest where
  uprn : String
  line1 : Option String
  line2 : Option String
  line3 : Option String
  town : Option String
  postcode : Option String
  region : Option String
  /-- As given, not yet read. -/
  addressType : String
  estabType : Option String
  capacity : Option Int32
  deriving DecidableEq

namespace LinkRequest

def of (uprn addressType : String) : LinkRequest :=
  ⟨uprn, none, none, none, none, none, none, addressType, none, none⟩

/-- The property reference number without blanks around it. -/
def place (r : LinkRequest) : String := Text.trim r.uprn

/-- The kind of the address; the number of the property is checked first. -/
def check (r : LinkRequest) : Except Fault AddressType :=
  if r.place = "" then .error (.badRequest "uprn must be provided")
  else AddressType.ofText r.addressType

end LinkRequest

instance : Wire LinkRequest where
  shape := .record "LinkAccessCodeRequest" <|
    .cons "uprn" .required (Wire.shape String) <|
    .cons "addressLine1" .defaulted (Wire.shape (Option String)) <|
    .cons "addressLine2" .defaulted (Wire.shape (Option String)) <|
    .cons "addressLine3" .defaulted (Wire.shape (Option String)) <|
    .cons "townName" .defaulted (Wire.shape (Option String)) <|
    .cons "postcode" .defaulted (Wire.shape (Option String)) <|
    .cons "region" .defaulted (Wire.shape (Option String)) <|
    .cons "addressType" .required (Wire.shape String) <|
    .cons "estabType" .defaulted (Wire.shape (Option String)) <|
    .cons "ceExpectedCapacity" .defaulted (Wire.shape (Option Int32)) .nil
  pack r := (Wire.pack r.uprn, Wire.pack r.line1, Wire.pack r.line2, Wire.pack r.line3,
    Wire.pack r.town, Wire.pack r.postcode, Wire.pack r.region, Wire.pack r.addressType,
    Wire.pack r.estabType, Wire.pack r.capacity, ())
  unpack := fun (uprn, line1, line2, line3, town, postcode, region, addressType, estabType,
      capacity, ()) =>
    ⟨Wire.unpack uprn, Wire.unpack line1, Wire.unpack line2, Wire.unpack line3, Wire.unpack town,
      Wire.unpack postcode, Wire.unpack region, Wire.unpack addressType, Wire.unpack estabType,
      Wire.unpack capacity⟩
  unpack_pack r := by simp [Wire.unpack_pack]

end CensusLink
