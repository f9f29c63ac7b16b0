import CensusLink.Fault
import CensusLink.Json.Basic
import CensusLink.SchemaNames

/-!
The four calls that a document store answers, each with its own kind of reply.
-/
namespace CensusLink

inductive StoreCall
  | store (schema key : String) (document : Document)
  | retrieve (schema key : String)
  | search (schema path value : String)
  | delete (schema key : String)

namespace StoreCall

def Reply : StoreCall → Type
  | .store _ _ _ => Unit
  | .retrieve _ _ => Option Document
  | .search _ _ _ => List Document
  | .delete _ _ => Unit

abbrev Outcome (c : StoreCall) : Type := Except Fault c.Reply

def schema : StoreCall → String
  | .store schema _ _ => schema
  | .retrieve schema _ => schema
  | .search schema _ _ => schema
  | .delete schema _ => schema

/-- Whether the call may change what is stored. -/
def isWrite : StoreCall → Bool
  | .store _ _ _ => true
  | .retrieve _ _ => false
  | .search _ _ _ => false
  | .delete _ _ => true

end StoreCall
end CensusLink
