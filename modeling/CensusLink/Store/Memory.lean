import CensusLink.Store.Call
import CensusLink.Store.Query

/-!
A document store in memory. Each schema that was ever written has its documents in the order of
their keys.
-/
namespace CensusLink

structure MemoryStore where
  schemas : List (String × List (String × Document))

namespace MemoryStore

def empty : MemoryStore := ⟨[]⟩

/-- The documents of a schema under their keys. -/
def documents (s : MemoryStore) (schema : String) : List (String × Document) :=
  (s.schemas.lookup schema).getD []

def withDocuments (s : MemoryStore) (schema : String) (documents : List (String × Document)) :
    MemoryStore := ⟨Keyed.insert schema documents s.schemas⟩

def count (s : MemoryStore) (schema : String) : Nat := (s.documents schema).length

/-- The schemas that were ever written, in order. -/
def names (s : MemoryStore) : List String := s.schemas.map (·.1)

/-- The documents of a list of entries in which a field has a value. -/
def matching (path value : String) (documents : List (String × Document)) : List Document :=
  (documents.filter fun e => Query.matchesField e.2.json path value).map (·.2)

/-- What a call to a schema of valid name does. -/
def apply (s : MemoryStore) : (c : StoreCall) → c.Reply × MemoryStore
  | .store schema key d => ((), s.withDocuments schema (Keyed.insert key d (s.documents schema)))
  | .retrieve schema key => ((s.documents schema).lookup key, s)
  | .search schema path value => (matching path value (s.documents schema), s)
  | .delete schema key =>
    match s.schemas.lookup schema with
    | some documents => ((), s.withDocuments schema (Keyed.erase key documents))
    | none => ((), s)

/-- Answers a call; one that is refused changes nothing. -/
def step (s : MemoryStore) (c : StoreCall) : c.Outcome × MemoryStore :=
  match Schema.check c.schema with
  | .error f => (.error f, s)
  | .ok () => let (reply, s) := s.apply c; (.ok reply, s)

end MemoryStore
end CensusLink
