import CensusLink.CaseType
import CensusLink.Fault
import CensusLink.Text.Blank

/-!
Addresses, told apart by their unique property reference number.
-/
namespace CensusLink

/-- The kind of an address as a respondent gives it. -/
inductive AddressType
  | household
  | specialGroup
  | communal
  deriving DecidableEq, Repr

namespace AddressType

def code : AddressType → String
  | .household => "HH"
  | .specialGroup => "SPG"
  | .communal => "CE"

/-- The type of a case at an address of this kind. -/
def caseType : AddressType → CaseType
  | .household => .household
  | .specialGroup => .specialGroup
  | .communal => .communal

/-- A code with or without blanks around it. -/
def ofText? (raw : String) : Option AddressType :=
  match Text.trim raw with
  | "HH" => some .household
  | "SPG" => some .specialGroup
  | "CE" => some .communal
  | _ => none

def ofText (raw : String) : Except Fault AddressType :=
  match ofText? raw with
  | some t => .ok t
  | none => .error (.badRequest ("Invalid addressType '" ++ Text.trim raw ++ "'"))

end AddressType

instance : Named AddressType where
  all := [.household, .specialGroup, .communal]
  name := AddressType.code
  place
    | .household => 0
    | .specialGroup => 1
    | .communal => 2
  get_place t := by cases t <;> rfl
  distinct := by decide

/-- Whether an address stands for a whole establishment or one unit. -/
inductive AddressLevel
  | establishment
  | unit
  deriving DecidableEq, Repr

def AddressLevel.code : AddressLevel → String
  | .establishment => "E"
  | .unit => "U"

instance : Named AddressLevel where
  all := [.establishment, .unit]
  name := AddressLevel.code
  place
    | .establishment => 0
    | .unit => 1
  get_place t := by cases t <;> rfl
  distinct := by decide

structure Address where
  line1 : Option String
  line2 : Option String
  line3 : Option String
  town : Option String
  postcode : Option String
  region : Option String
  uprn : String
  type : Option AddressType
  estabType : Option String
  level : Option AddressLevel
  deriving DecidableEq, Repr

instance : Wire Address where
  shape := .record "Address" <|
    .cons "addressLine1" .defaulted (Wire.shape (Option String)) <|
    .cons "addressLine2" .defaulted (Wire.shape (Option String)) <|
    .cons "addressLine3" .defaulted (Wire.shape (Option String)) <|
    .cons "townName" .defaulted (Wire.shape (Option String)) <|
    .cons "postcode" .defaulted (Wire.shape (Option String)) <|
    .cons "region" .defaulted (Wire.shape (Option String)) <|
    .cons "uprn" .required (Wire.shape String) <|
    .cons "addressType" .defaulted (Wire.shape (Option AddressType)) <|
    .cons "estabType" .defaulted (Wire.shape (Option String)) <|
    .cons "addressLevel" .defaulted (Wire.shape (Option AddressLevel)) .nil
  pack a := (Wire.pack a.line1, Wire.pack a.line2, Wire.pack a.line3, Wire.pack a.town,
    Wire.pack a.postcode, Wire.pack a.region, Wire.pack a.uprn, Wire.pack a.type,
    Wire.pack a.estabType, Wire.pack a.level, ())
  unpack := fun (line1, line2, line3, town, postcode, region, uprn, type, estabType, level, ()) =>
    ⟨Wire.unpack line1, Wire.unpack line2, Wire.unpack line3, Wire.unpack town,
      Wire.unpack postcode, Wire.unpack region, Wire.unpack uprn, Wire.unpack type,
      Wire.unpack estabType, Wire.unpack level⟩
  unpack_pack a := by simp [Wire.unpack_pack]

end CensusLink
