import CensusLink.Fault
import CensusLink.Json.Printer
import CensusLink.Text.Split

/-!
Finding documents by the value of a field. A path names a field inside of objects, its steps apart
by points; a field matches by the text of its value, and only strings, numbers and truth values
have one.
-/
namespace CensusLink.Query

def fieldAt (j : Json) (path : String) : Option Json :=
  (Text.split '.' path).foldlM (fun j step => j.get? step) j

/-- The text by which a value is found. -/
def textOf? : Json → Option String
  | .string s => some s
  | .number n => some n.text
  | .bool b => some (toString b)
  | _ => none

def matchesField (j : Json) (path value : String) : Bool :=
  match fieldAt j path with
  | some field => textOf? field == some value
  | none => false

/-- The one document under a key; several are a fault of the store. -/
def single {α : Type} (schema key : String) : List α → Except Fault (Option α)
  | [] => .ok none
  | [d] => .ok (some d)
  | found => .error (.system ("Found " ++ toString found.length ++ " documents in schema '" ++
      schema ++ "' for key '" ++ key ++ "', expected at most one"))

end CensusLink.Query
