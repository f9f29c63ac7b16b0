import CensusLink.Instant.Reading
import CensusLink.Json.Draft
import CensusLink.Json.Printer
import CensusLink.Text.Quoted
import CensusLink.Uuid

/-!
Why a JSON value has not the shape that is wanted of it, and the wording of each report.
-/
namespace CensusLink

/-- What stands where something else was wanted. -/
inductive Found
  | null
  | bool (b : Bool)
  | number (n : Number)
  | string (s : String)
  | sequence
  | map
  deriving DecidableEq, Repr

def Found.text : Found → String
  | .null => "null"
  | .bool b => "boolean `" ++ toString b ++ "`"
  | .number (.whole n _) => "integer `" ++ toString n ++ "`"
  | .number n => "floating point `" ++ n.text ++ "`"
  | .string s => "string " ++ Text.quoted s
  | .sequence => "sequence"
  | .map => "map"

inductive Misfit
  | flaw (f : Flaw)
  | wrongType (found : Found) (wanted : String)
  | wrongValue (found : Found) (wanted : String)
  | wrongLength (length : Nat) (wanted : String)
  | unknownName (name : String) (names : List String)
  | missing (field : String)
  | duplicate (field : String)
  | noAlternative (name : String)
  | instant (e : Instant.ReadError)
  | uuid (e : Uuid.ReadError)
  deriving DecidableEq, Repr

namespace Misfit

/-- The names that would do. -/
def oneOf (names : List String) : String :=
  match names.map fun name => "`" ++ name ++ "`" with
  | [] => "nothing"
  | [name] => name
  | [first, second] => first ++ " or " ++ second
  | names => "one of " ++ ", ".intercalate names

def message : Misfit → String
  | .flaw f => f.message
  | .wrongType found wanted => "invalid type: " ++ found.text ++ ", expected " ++ wanted
  | .wrongValue found wanted => "invalid value: " ++ found.text ++ ", expected " ++ wanted
  | .wrongLength length wanted =>
    "invalid length " ++ toString length ++ ", expected " ++ wanted
  | .unknownName name names => "unknown variant `" ++ name ++ "`, expected " ++ oneOf names
  | .missing field => "missing field `" ++ field ++ "`"
  | .duplicate field => "duplicate field `" ++ field ++ "`"
  | .noAlternative name => "data did not match any variant of untagged enum " ++ name
  | .instant e => e.message
  | .uuid e => e.message

end Misfit

/-- What a draft is found to be when something else is wanted. -/
def Draft.found : Draft → Except Flaw Found
  | .null => .ok .null
  | .bool b => .ok (.bool b)
  | .number n => n.map .number
  | .string s => s.map .string
  | .array _ _ => .ok .sequence
  | .object _ _ => .ok .map
  | .keyless => .ok .map
  | .broken _ fault => .error fault.kept

end CensusLink
