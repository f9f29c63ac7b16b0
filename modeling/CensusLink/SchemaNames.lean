import CensusLink.Fault
import CensusLink.Json.Wire
import CensusLink.Text.Lowercase

/-!
Schemas: the named collections of a store. A name has small letters, digits, hyphens and underscores
only, and at least one of them.
-/
namespace CensusLink

namespace Schema

def isNameChar (c : Char) : Bool :=
  ('a' ≤ c && c ≤ 'z') || ('0' ≤ c && c ≤ '9') || c == '_' || c == '-'

def isName (name : String) : Bool := name ≠ "" && name.toList.all isNameChar

/-- Refuses what is no name of a schema. -/
def check (name : String) : Except Fault Unit :=
  if name = "" then .error (.system "Schema name must not be empty")
  else if name.toList.all isNameChar then .ok ()
  else .error (.system ("Invalid schema name '" ++ name ++ "'"))

/-- The name of a schema in a group of schemas, in small letters. -/
def nameIn (group name : String) : String :=
  Text.lowercase (if group = "" then name else group ++ "-" ++ name)

end Schema

/-- Where access codes and where cases are kept. -/
structure SchemaNames where
  accessCode : String
  case : String
  deriving DecidableEq, Repr

def SchemaNames.within (group accessCode case : String) : SchemaNames :=
  ⟨Schema.nameIn group accessCode, Schema.nameIn group case⟩

instance : Wire SchemaNames where
  shape := .record "StoreSchemas" <|
    .cons "access_code" .required (Wire.shape String) <|
    .cons "case" .required (Wire.shape String) .nil
  pack s := (Wire.pack s.accessCode, Wire.pack s.case, ())
  unpack := fun (accessCode, case, ()) => ⟨Wire.unpack accessCode, Wire.unpack case⟩
  unpack_pack s := by simp [Wire.unpack_pack]

end CensusLink
