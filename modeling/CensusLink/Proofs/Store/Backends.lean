import CensusLink.Proofs.Store.Contents
import CensusLink.Proofs.Store.Disk
import CensusLink.Settings

/-!
The two backends side by side. Whatever calls are made, as long as no document is too deep or has
numbers that are not whole, the files hold the documents that the memory holds, each under its key
and once, in an order of their own. So a call has the same outcome on both, and what a search finds
differs at most in its order.
-/
namespace CensusLink

/-- Outcomes that differ at most in the order of what a search finds. -/
def StoreCall.Alike : (c : StoreCall) → c.Outcome → c.Outcome → Prop
  | .search _ _ _, .ok (found : List Document), .ok (others : List Document) => found.Perm others
  | _, o, o' => o = o'

/-- A call that puts nothing into a file that cannot be read back. -/
def StoreCall.Fileable : StoreCall → Prop
  | .store _ _ d => d.Fileable
  | _ => True

namespace StoredRecord

/-- Records as documents under their keys. -/
def entries (records : List StoredRecord) : List (String × Document) :=
  records.map fun r => (r.key, r.document)

variable {records : List StoredRecord}

theorem entries_without (key : String) (records : List StoredRecord) :
    entries (FileStore.without key records) = Keyed.erase key (entries records) := by
  rw [entries, entries, FileStore.without, Keyed.erase, List.filter_map]
  rfl

theorem entries_stored (key : String) (d : Document) (records : List StoredRecord) :
    entries (FileStore.stored key d records) =
      Keyed.erase key (entries records) ++ [(key, d)] := by
  rw [FileStore.stored, ← entries_without, entries, List.map_append]
  rfl

theorem lookup_entries_stored (key : String) (d : Document) (records : List StoredRecord)
    (k : String) : (entries (FileStore.stored key d records)).lookup k =
      if k = key then some d else (entries records).lookup k := by
  rw [entries_stored]
  by_cases same : k = key
  · subst same
    rw [List.lookup_append, Keyed.lookup_erase, if_pos rfl, if_pos rfl, List.lookup_cons_self]
    rfl
  · rw [Keyed.lookup_append_of_ne same, Keyed.lookup_erase, if_neg same, if_neg same]

theorem nodup_keys_without (distinct : ((entries records).map (·.1)).Nodup) (key : String) :
    ((Keyed.erase key (entries records)).map (·.1)).Nodup := by
  have sublist : (Keyed.erase key (entries records)).Sublist (entries records) :=
    List.filter_sublist
  exact (sublist.map (·.1)).nodup distinct

theorem nodup_keys_stored (distinct : ((entries records).map (·.1)).Nodup) (key : String)
    (d : Document) : ((entries (FileStore.stored key d records)).map (·.1)).Nodup := by
  rw [entries_stored, List.map_append, List.nodup_append]
  refine ⟨nodup_keys_without distinct key, by simp, ?_⟩
  · rintro k hk l hl rfl
    obtain ⟨e, he, rfl⟩ := List.mem_map.1 hk
    obtain rfl := List.mem_singleton.1 hl
    simp [Keyed.erase] at he

/-- Among records of different keys there is at most one of a key. -/
theorem single_filter (distinct : ((entries records).map (·.1)).Nodup) (schema key : String) :
    Query.single schema key ((records.filter (·.key = key)).map (·.document)) =
      .ok ((entries records).lookup key) := by
  induction records with
  | nil => rfl
  | cons r rest ih =>
    obtain ⟨new, distinct⟩ := List.nodup_cons.1 distinct
    have split : entries (r :: rest) = (r.key, r.document) :: entries rest := rfl
    by_cases same : key = r.key
    · subst same
      have none : rest.filter (·.key = r.key) = [] := by
        refine List.filter_eq_nil_iff.2 fun other mem eq => new ?_
        have there : (other.key, other.document) ∈ entries rest := List.mem_map_of_mem mem
        exact List.mem_map.2 ⟨_, there, of_decide_eq_true eq⟩
      rw [List.filter_cons_of_pos (by simp), none, split, List.lookup_cons_self]
      rfl
    · rw [List.filter_cons_of_neg (by simpa using Ne.symm same), ih distinct, split,
        Keyed.lookup_cons_of_ne same]

end StoredRecord

namespace MemoryStore

theorem documents_removed (s : MemoryStore) (schema key other : String) :
    (s.undergo (.removed schema key)).documents other =
      if other = schema then Keyed.erase key (s.documents schema) else s.documents other := by
  simp only [undergo, apply]
  split
  next documents found =>
    have here : s.documents schema = documents := by simp [MemoryStore.documents, found]
    rw [documents_withDocuments, here]
  next missing =>
    have here : s.documents schema = [] := by simp [MemoryStore.documents, missing]
    split
    next same => rw [same, here]; rfl
    next => rfl

/-- What the store is after a call. -/
theorem step_snd (s : MemoryStore) (c : StoreCall) : (s.step c).2 =
    if Schema.check c.schema = .ok () then s.after c.deeds else s := by
  rw [step]
  cases valid : Schema.check c.schema with
  | error f => simp
  | ok => cases c <;> simp [apply, StoreCall.deeds, after, undergo]

end MemoryStore

/-- What a backend keeps. -/
def Backend.Holding : Backend → Type
  | .memory => MemoryStore
  | .file => Disk

namespace Backend

variable (root : String)

/-- A backend that nothing has been kept in. -/
def blank : (b : Backend) → b.Holding
  | .memory => MemoryStore.empty
  | .file => Disk.empty

/-- Answers a call; the files are under a root. -/
def step : (b : Backend) → b.Holding → (c : StoreCall) → c.Outcome × b.Holding
  | .memory, s, c => MemoryStore.step s c
  | .file, disk, c => Disk.step root disk c

/-- What calls in their order leave in a backend. -/
def after (b : Backend) (s : b.Holding) (calls : List StoreCall) : b.Holding :=
  calls.foldl (fun s c => (b.step root s c).2) s

end Backend

namespace Disk

variable {root : String} {disk : Disk} {m : MemoryStore} {c : StoreCall}
  {records : List StoredRecord} {schema : String}

/-- The file of a schema holds the documents that a store in memory has there, each once, and all of
them can be read back. -/
structure Mirrors (root : String) (disk : Disk) (m : MemoryStore) (schema : String)
    (records : List StoredRecord) : Prop where
  reads : disk.Reads root schema records
  distinct : ((StoredRecord.entries records).map (·.1)).Nodup
  same : ∀ key, (StoredRecord.entries records).lookup key = (m.documents schema).lookup key
  fileable : ∀ r ∈ records, r.document.Fileable

theorem reads_put_of_fileable (disk : Disk) (root schema : String)
    (fileable : ∀ r ∈ records, r.document.Fileable) :
    (disk.put (FileStore.path root schema) (Wire.prettyText records)).Reads root schema records :=
  reads_put disk root schema (fun r hr => (fileable r hr).1) fun r hr => (fileable r hr).2

/-- A call leaves all files but that of its schema as they are. -/
theorem contents_step_of_ne {path : String} (ne : path ≠ FileStore.path root c.schema) :
    (disk.step root c).2.contents path = disk.contents path := by
  rw [step_eq]
  rcases FileStore.serve root (disk.contents (FileStore.path root c.schema)) c with
    f | ⟨reply, _ | _ | s | reason⟩
  case ok.some.text => exact (contents_put disk _ s path).trans (if_neg ne)
  all_goals rfl

theorem Mirrors.perm (h : Mirrors root disk m schema records) (ordered : m.Ordered) :
    (StoredRecord.entries records).Perm (m.documents schema) :=
  Keyed.perm_of_lookup h.distinct (Keyed.nodup_keys (ordered.documents schema)) h.same

/-- Where neither the file nor the schema has changed, the one still holds what the other has. -/
theorem Mirrors.congr {disk' : Disk} {m' : MemoryStore} (h : Mirrors root disk m schema records)
    (file : disk'.contents (FileStore.path root schema) =
      disk.contents (FileStore.path root schema))
    (documents : m'.documents schema = m.documents schema) :
    Mirrors root disk' m' schema records where
  reads := by
    rw [Reads, file]
    exact h.reads
  distinct := h.distinct
  same key := documents ▸ h.same key
  fileable := h.fileable

theorem Mirrors.retrieve (h : Mirrors root disk m schema records)
    (valid : Schema.check schema = .ok ()) (key : String) :
    disk.step root (.retrieve schema key) = (.ok ((m.documents schema).lookup key), disk) := by
  rw [step_retrieve valid h.reads, StoredRecord.single_filter h.distinct, h.same]
  rfl

theorem Mirrors.search (h : Mirrors root disk m schema records) (ordered : m.Ordered)
    (valid : Schema.check schema = .ok ()) (path value : String) :
    ∃ found : List Document, disk.step root (.search schema path value) = (.ok found, disk) ∧
      found.Perm (MemoryStore.matching path value (m.documents schema)) := by
  let hits (e : String × Document) : Bool := Query.matchesField e.2.json path value
  let found := (records.filter fun r => Query.matchesField r.document.json path value).map
    StoredRecord.document
  have same : found = ((StoredRecord.entries records).filter hits).map (·.2) := by
    rw [StoredRecord.entries, List.filter_map, List.map_map]
    rfl
  refine ⟨found, step_of_reads (c := .search schema path value) valid h.reads, ?_⟩
  rw [same]
  exact ((h.perm ordered).filter hits).map (·.2)

theorem Mirrors.store (h : Mirrors root disk m schema records)
    (valid : Schema.check schema = .ok ()) (key : String) {d : Document} (fileable : d.Fileable) :
    (disk.step root (.store schema key d)).1 = .ok () ∧
      Mirrors root (disk.step root (.store schema key d)).2 (m.undergo (.kept schema key d)) schema
        (FileStore.stored key d records) := by
  have all := FileStore.forall_stored key h.fileable fileable
  rw [step_store valid h.reads]
  refine ⟨rfl, reads_put_of_fileable disk root schema all,
    StoredRecord.nodup_keys_stored h.distinct key d, fun k => ?_, all⟩
  rw [StoredRecord.lookup_entries_stored, MemoryStore.documents_kept, if_pos rfl,
    Keyed.lookup_insert, h.same]

theorem Mirrors.delete (h : Mirrors root disk m schema records)
    (valid : Schema.check schema = .ok ()) (key : String) :
    (disk.step root (.delete schema key)).1 = .ok () ∧
      Mirrors root (disk.step root (.delete schema key)).2 (m.undergo (.removed schema key)) schema
        (FileStore.without key records) := by
  obtain ⟨outcome, reads⟩ := reads_delete valid h.reads (fun r hr => (h.fileable r hr).1) key
  refine ⟨outcome, reads, ?_, fun k => ?_, fun r hr => h.fileable r (List.mem_of_mem_filter hr)⟩
  · rw [StoredRecord.entries_without]
    exact StoredRecord.nodup_keys_without h.distinct key
  · rw [StoredRecord.entries_without, MemoryStore.documents_removed, if_pos rfl,
      Keyed.lookup_erase, Keyed.lookup_erase, h.same]

/-- A call has the outcome that it has in memory, and leaves in the file what it leaves there. -/
theorem Mirrors.step (h : Mirrors root disk m c.schema records) (ordered : m.Ordered)
    (valid : Schema.check c.schema = .ok ()) (fileable : c.Fileable) :
    c.Alike (disk.step root c).1 (.ok (m.apply c).1) ∧
      ∃ records', Mirrors root (disk.step root c).2 (m.after c.deeds) c.schema records' := by
  cases c with
  | store schema key d =>
    obtain ⟨outcome, later⟩ := h.store valid key fileable
    exact ⟨outcome, _, later⟩
  | retrieve schema key =>
    have step : disk.step root (.retrieve schema key) = _ := h.retrieve valid key
    rw [step]
    exact ⟨rfl, records, h⟩
  | search schema path value =>
    obtain ⟨found, eq, perm⟩ := h.search ordered valid path value
    have step : disk.step root (.search schema path value) = _ := eq
    rw [step]
    exact ⟨perm, records, h⟩
  | delete schema key =>
    obtain ⟨outcome, later⟩ := h.delete valid key
    refine ⟨outcome.trans ?_, _, later⟩
    rfl

end Disk

theorem StoreCall.Alike.refl (c : StoreCall) (o : c.Outcome) : c.Alike o o := by
  cases c with
  | search schema path value =>
    cases o with
    | error f => exact rfl
    | ok found => exact List.Perm.refl found
  | store schema key d => exact rfl
  | retrieve schema key => exact rfl
  | delete schema key => exact rfl

namespace MemoryStore

theorem step_of_valid (m : MemoryStore) {c : StoreCall} (valid : Schema.check c.schema = .ok ()) :
    m.step c = (.ok (m.apply c).1, m.after c.deeds) := by
  rw [step, valid]
  cases c <;> rfl

theorem step_of_invalid (m : MemoryStore) {c : StoreCall} {f : Fault}
    (invalid : Schema.check c.schema = .error f) : m.step c = (.error f, m) := by
  rw [step, invalid]

/-- A call leaves all schemas but its own as they are. -/
theorem documents_after_deeds_of_ne (m : MemoryStore) {c : StoreCall} {schema : String}
    (ne : schema ≠ c.schema) : (m.after c.deeds).documents schema = m.documents schema := by
  cases c with
  | store other key d => exact (documents_kept m other key d schema).trans (if_neg ne)
  | delete other key => exact (documents_removed m other key schema).trans (if_neg ne)
  | _ => rfl

end MemoryStore

namespace Disk

variable {root : String} {disk : Disk} {m : MemoryStore} {c : StoreCall}

/-- The files hold the documents that a store in memory has. -/
def Shows (root : String) (disk : Disk) (m : MemoryStore) : Prop :=
  ∀ schema, Schema.check schema = .ok () → ∃ records, Mirrors root disk m schema records

theorem shows_step (shows : disk.Shows root m) (ordered : m.Ordered) (fileable : c.Fileable) :
    c.Alike (disk.step root c).1 (m.step c).1 ∧ (disk.step root c).2.Shows root (m.step c).2 := by
  cases valid : Schema.check c.schema with
  | error f =>
    rw [step_of_invalid valid, m.step_of_invalid valid]
    exact ⟨.refl c _, shows⟩
  | ok =>
    obtain ⟨records, mirrors⟩ := shows c.schema valid
    obtain ⟨alike, later⟩ := mirrors.step ordered valid fileable
    rw [m.step_of_valid valid]
    refine ⟨alike, fun schema named => ?_⟩
    by_cases same : schema = c.schema
    · exact same ▸ later
    · obtain ⟨others, mirrors⟩ := shows schema named
      have apart : FileStore.path root schema ≠ FileStore.path root c.schema :=
        fun eq => same (FileStore.path_injective named valid eq)
      exact ⟨others, mirrors.congr (contents_step_of_ne apart)
        (m.documents_after_deeds_of_ne same)⟩

end Disk

namespace Backend

variable {root : String} {b : Backend} {s : b.Holding} {m : MemoryStore} {c : StoreCall}

/-- A call that only reads changes nothing. -/
theorem step_of_not_isWrite (root : String) (b : Backend) (s : b.Holding)
    (reads : c.isWrite = false) : (b.step root s c).2 = s := by
  cases b with
  | file => exact Disk.step_of_not_isWrite reads
  | memory =>
    refine (MemoryStore.step_snd s c).trans ?_
    cases c with
    | store schema key d => cases reads
    | delete schema key => cases reads
    | _ => exact ite_self s

/-- A backend holds the documents that a store in memory has. -/
def Shows (root : String) : (b : Backend) → b.Holding → MemoryStore → Prop
  | .memory, s, m => s = m
  | .file, disk, m => Disk.Shows root disk m

theorem shows_blank (root : String) : ∀ b : Backend, Shows root b b.blank .empty
  | .memory => rfl
  | .file => fun _ _ => ⟨[], rfl, List.nodup_nil, fun _ => rfl, fun _ h => nomatch h⟩

/-- A call has the outcome that it has in memory, and leaves what it leaves there. -/
theorem Shows.step (shows : Shows root b s m) (ordered : m.Ordered) (fileable : c.Fileable) :
    c.Alike (b.step root s c).1 (m.step c).1 ∧ Shows root b (b.step root s c).2 (m.step c).2 := by
  cases b with
  | memory =>
    obtain rfl : s = m := shows
    exact ⟨.refl c _, rfl⟩
  | file => exact Disk.shows_step shows ordered fileable

end Backend
end CensusLink
