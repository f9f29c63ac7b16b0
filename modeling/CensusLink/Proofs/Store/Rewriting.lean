import CensusLink.Proofs.Store.OneMap

/-!
What a call does to files that anyone may have written: texts that are no records, records in any
order with fields of their own, several records of one key. A call that fails and a call that only
reads leave every file as it is. A write that gets through changes the file of its schema alone, and
there it takes out all records of its key and leaves the others in their order. So a key that had
several records is mended, and one that the write is not about finds what it found.
-/
namespace CensusLink

namespace StoreCall

variable {schema key : String} {c : StoreCall} {records : List StoredRecord}

/-- What a call makes of the records of its schema. A record that is stored comes last. -/
def rewritten (records : List StoredRecord) : StoreCall → List StoredRecord
  | .store _ key d => records.filter (·.key ≠ key) ++ [⟨key, d⟩]
  | .delete _ key => records.filter (·.key ≠ key)
  | _ => records

/-- Under the key of a write there is one record at most, the one that it leaves there. -/
theorem filter_rewritten_of_writes (writes : c.Writes schema key) :
    (c.rewritten records).filter (·.key = key) =
      (c.leaves schema key none).toList.map (StoredRecord.mk key) := by
  cases c with
  | store s k d =>
    obtain ⟨rfl, rfl⟩ := writes
    exact (FileStore.filter_stored k d records k).trans (by simp [leaves])
  | delete s k =>
    obtain ⟨rfl, rfl⟩ := writes
    exact (FileStore.filter_without k records k).trans (by simp [leaves])
  | _ => exact writes.elim

/-- Other keys have the records that they had. -/
theorem filter_rewritten_of_not_writes (other : ¬ c.Writes c.schema key) :
    (c.rewritten records).filter (·.key = key) = records.filter (·.key = key) := by
  cases c with
  | store s k d =>
    have apart : key ≠ k := fun same => other ⟨rfl, same.symm⟩
    exact (FileStore.filter_stored k d records key).trans (if_neg apart)
  | delete s k =>
    have apart : key ≠ k := fun same => other ⟨rfl, same.symm⟩
    exact (FileStore.filter_without k records key).trans (if_neg apart)
  | _ => rfl

end StoreCall

theorem Query.single_of_several {α : Type} {schema key : String} {found : List α}
    (several : 1 < found.length) : single schema key found = .error (.system
      ("Found " ++ toString found.length ++ " documents in schema '" ++ schema ++ "' for key '" ++
        key ++ "', expected at most one")) := by
  cases found with
  | nil => cases several
  | cons d rest =>
    cases rest with
    | nil => exact absurd several (Nat.lt_irrefl 1)
    | cons e rest => rfl

namespace Disk

variable {root schema key : String} {disk disk' : Disk} {c : StoreCall} {d : Document}
  {records : List StoredRecord}

/-- What a call comes to is settled by the file of its schema. -/
theorem outcome_congr (same : disk'.contents (FileStore.path root c.schema) =
    disk.contents (FileStore.path root c.schema)) :
    (disk'.step root c).1 = (disk.step root c).1 := by
  rw [step_eq, step_eq, same]
  rcases FileStore.serve root (disk.contents (FileStore.path root c.schema)) c with
    f | ⟨reply, _ | _ | s | reason⟩ <;> rfl

/-- The documents in the file of a schema have no numbers but whole ones. -/
def WholeIn (root : String) (disk : Disk) (schema : String) : Prop :=
  ∀ records, disk.Reads root schema records → ∀ r ∈ records, r.document.json.isExact

/-- The documents in the files have no numbers but whole ones. -/
def Whole (root : String) (disk : Disk) : Prop :=
  ∀ schema records, disk.Reads root schema records → ∀ r ∈ records, r.document.json.isExact

/-- A file that is not read as records holds a text that does not fit. -/
theorem exists_misfit_of_load {path : String} {f : Fault}
    (h : FileStore.load path (disk.contents path) = .error f) :
    ∃ m, f = FileStore.notRecords path m := by
  rw [contents] at h
  split at h
  · rw [FileStore.load] at h
    split at h
    · cases h
    · split at h
      next => cases h
      next m _ => exact ⟨m, (Except.error.inj h).symm⟩
  · cases h

/-- A file is read as records, or every call to its schema fails and says why. -/
theorem reads_or_fails (root : String) (disk : Disk) (valid : Schema.check c.schema = .ok ()) :
    (∃ records, disk.Reads root c.schema records) ∨ ∃ m, disk.step root c =
      (.error (FileStore.notRecords (FileStore.path root c.schema) m), disk) := by
  cases loaded : FileStore.load (FileStore.path root c.schema)
      (disk.contents (FileStore.path root c.schema)) with
  | ok records => exact .inl ⟨records, loaded⟩
  | error f =>
    obtain ⟨m, rfl⟩ := exists_misfit_of_load loaded
    exact .inr ⟨m, step_of_unreadable valid loaded⟩

/-- A call that succeeds is about a schema of valid name, whose file is read as records. -/
theorem exists_reads_of_ok {reply : c.Reply} (done : (disk.step root c).1 = .ok reply) :
    Schema.check c.schema = .ok () ∧ ∃ records, disk.Reads root c.schema records := by
  cases valid : Schema.check c.schema with
  | error f =>
    rw [step_of_invalid valid] at done
    cases done
  | ok =>
    rcases reads_or_fails root disk valid with reads | ⟨m, failed⟩
    · exact ⟨rfl, reads⟩
    · rw [failed] at done
      cases done

/-- A call that fails leaves every file as it is. -/
theorem step_of_error {f : Fault} (failed : (disk.step root c).1 = .error f) :
    (disk.step root c).2 = disk := by
  rw [step_eq] at failed ⊢
  split at failed
  next => rfl
  next => cases failed
  next => cases failed

/-- A write gets through wherever the file of its schema is read as records. -/
theorem step_write_of_reads (valid : Schema.check c.schema = .ok ())
    (reads : disk.Reads root c.schema records) (writes : c.isWrite) :
    ∃ reply, (disk.step root c).1 = .ok reply := by
  rw [step_of_reads valid reads]
  cases c with
  | store schema key d => exact ⟨(), rfl⟩
  | delete schema key =>
    rw [FileStore.apply]
    split
    next h => cases h
    next reply h => exact ⟨reply, rfl⟩
    next reply _ h => exact ⟨reply, rfl⟩
  | retrieve schema key => cases writes
  | search schema path value => cases writes

/-- After a call its file is read as the records that the call makes of those that were there. -/
theorem reads_step (valid : Schema.check c.schema = .ok ())
    (reads : disk.Reads root c.schema records) (exact : ∀ r ∈ records, r.document.json.isExact)
    (fileable : c.Fileable) :
    (disk.step root c).2.Reads root c.schema (c.rewritten records) := by
  cases c with
  | store schema key d =>
    have all := FileStore.forall_stored (p := Document.Fileable) key
      (fun r hr => ⟨exact r hr, FileStore.depth_of_load reads r hr⟩) fileable
    have step : disk.step root (.store schema key d) = _ := step_store valid reads key d
    rw [step]
    exact reads_put_of_fileable disk root schema all
  | delete schema key => exact (reads_delete valid reads exact key).2
  | retrieve schema key =>
    rw [step_of_not_isWrite rfl]
    exact reads
  | search schema path value =>
    rw [step_of_not_isWrite rfl]
    exact reads

/-- A key of several records is a fault of the store. -/
theorem retrieve_of_several (valid : Schema.check schema = .ok ())
    (reads : disk.Reads root schema records) (several : 1 < (records.map (·.key)).count key) :
    (disk.step root (.retrieve schema key)).1 = .error (.system
      ("Found " ++ toString ((records.map (·.key)).count key) ++ " documents in schema '" ++
        schema ++ "' for key '" ++ key ++ "', expected at most one")) := by
  have count : ((records.filter (·.key = key)).map (·.document)).length =
      (records.map (·.key)).count key := by
    rw [List.length_map, List.count_eq_countP, List.countP_map, List.countP_eq_length_filter]
    rfl
  rw [step_retrieve valid reads]
  rw [← count] at several ⊢
  exact Query.single_of_several several

/-- What is left of the file of a schema when a write to it got through, and what its keys find. -/
structure Rewritten (root : String) (disk : Disk) (c : StoreCall) (disk' : Disk) : Prop where
  reads : ∃ records, disk.Reads root c.schema records ∧
    disk'.Reads root c.schema (c.rewritten records)
  mended (key : String) (writes : c.Writes c.schema key) :
    (disk'.step root (.retrieve c.schema key)).1 = .ok (c.leaves c.schema key none)
  others (key : String) (other : ¬ c.Writes c.schema key) :
    (disk'.step root (.retrieve c.schema key)).1 = (disk.step root (.retrieve c.schema key)).1

theorem rewritten_of_step (whole : disk.WholeIn root c.schema) (fileable : c.Fileable)
    {reply : c.Reply} (done : (disk.step root c).1 = .ok reply) :
    disk.Rewritten root c (disk.step root c).2 := by
  obtain ⟨valid, records, reads⟩ := exists_reads_of_ok done
  have later := reads_step valid reads (whole records reads) fileable
  refine ⟨⟨records, reads, later⟩, fun key writes => ?_, fun key other => ?_⟩
  · rw [step_retrieve valid later, StoreCall.filter_rewritten_of_writes writes]
    cases c.leaves c.schema key none <;> rfl
  · rw [step_retrieve valid later, step_retrieve valid reads,
      StoreCall.filter_rewritten_of_not_writes other]

/-- Whatever the files under a root hold, a call that fails and a call that only reads change none
of them. A write changes at most the file of its schema, where it takes out the records of its key,
keeps the others in their order and puts a stored document last; it gets through exactly if its
schema has a valid name and a file that is read as records, and where the file is not every call
fails. -/
theorem write_rewrites_its_key (root : String) (disk : Disk) {c : StoreCall}
    (whole : disk.WholeIn root c.schema) (fileable : c.Fileable) :
    (∀ f, (disk.step root c).1 = .error f → (disk.step root c).2 = disk) ∧
    (c.isWrite = false → (disk.step root c).2 = disk) ∧
    (∀ path, path ≠ FileStore.path root c.schema →
      (disk.step root c).2.contents path = disk.contents path) ∧
    (c.isWrite →
      ((∃ reply, (disk.step root c).1 = .ok reply) ↔
        Schema.Valid c.schema ∧ ∃ records, disk.Reads root c.schema records) ∧
      ∀ reply, (disk.step root c).1 = .ok reply → disk.Rewritten root c (disk.step root c).2) ∧
    (Schema.Valid c.schema → (∀ records, ¬ disk.Reads root c.schema records) →
      ∃ m, disk.step root c =
        (.error (FileStore.notRecords (FileStore.path root c.schema) m), disk)) := by
  refine ⟨fun f failed => step_of_error failed, step_of_not_isWrite,
    fun path ne => contents_step_of_ne ne, fun writes => ⟨⟨?_, ?_⟩, fun reply done => ?_⟩, ?_⟩
  · rintro ⟨reply, done⟩
    obtain ⟨valid, reads⟩ := exists_reads_of_ok done
    exact ⟨Schema.check_eq_ok_iff.1 valid, reads⟩
  · rintro ⟨named, records, reads⟩
    exact step_write_of_reads (Schema.check_eq_ok_iff.2 named) reads writes
  · exact rewritten_of_step whole fileable done
  · intro named none
    rcases reads_or_fails root disk (Schema.check_eq_ok_iff.2 named) with ⟨records, reads⟩ | failed
    · exact absurd reads (none records)
    · exact failed

/-- Records that no store has written: two for each key, their fields in any order, and one with a
field that is none of a record. -/
def crowdedText : String :=
  "[\x7b\"note\": \x7b\"by\": [1.5]\x7d, \"document\": [], \"key\": \"a\"\x7d,
    \x7b\"key\": \"b\", \"document\": 1\x7d, \x7b\"document\": [-2, \"x\"], \"key\": \"a\"\x7d,
    \x7b\"document\": 3, \"key\": \"b\"\x7d]"

def crowded : Disk := empty.put (FileStore.path "docs" "letters") crowdedText

theorem exists_reads_crowded : ∃ records, crowded.Reads "docs" "letters" records ∧
    records.map (·.key) = ["a", "b", "a", "b"] ∧ ∀ r ∈ records, r.document.json.isExact := by
  have read : (Wire.ofText crowdedText : Except Misfit (List StoredRecord)).toOption.map
      (fun records => (records.map (·.key), records.all (·.document.json.isExact))) =
        some (["a", "b", "a", "b"], true) := by
    decide +kernel
  cases fit : (Wire.ofText crowdedText : Except Misfit (List StoredRecord)) with
  | error m =>
    rw [fit] at read
    cases read
  | ok records =>
    rw [fit] at read
    obtain ⟨keys, exact⟩ := Prod.ext_iff.1 (Option.some.inj read)
    refine ⟨records, ?_, keys, List.all_eq_true.1 exact⟩
    have some : crowdedText ≠ "" := by decide +kernel
    rw [Reads, crowded, contents_put, if_pos rfl, FileStore.load, if_neg some, fit]

/-- A document that is stored takes the place of two, and the two of another key stay as they are
and are still a fault. -/
theorem write_rewrites_its_key_sample :
    crowded.WholeIn "docs" "letters" ∧ (Document.nested 3).Fileable ∧
    (crowded.step "docs" (.retrieve "letters" "a")).1 = .error (.system
      "Found 2 documents in schema 'letters' for key 'a', expected at most one") ∧
    ∃ disk : Disk, crowded.step "docs" (.store "letters" "a" (.nested 3)) = (.ok (), disk) ∧
      (disk.step "docs" (.retrieve "letters" "a")).1 = .ok (some (.nested 3)) ∧
      (disk.step "docs" (.retrieve "letters" "b")).1 = .error (.system
        "Found 2 documents in schema 'letters' for key 'b', expected at most one") := by
  have fileable : (Document.nested 3).Fileable :=
    ⟨Document.isExact_nested 3, (Document.depth_nested 3).trans_le (by decide)⟩
  have named : Schema.Valid "letters" := Schema.check_eq_ok_iff.1 (by decide)
  obtain ⟨records, reads, keys, exact⟩ := exists_reads_crowded
  have whole : crowded.WholeIn "docs" "letters" := by
    intro others reads'
    cases reads.symm.trans reads'
    exact exact
  have before (key message : String) (twice : ["a", "b", "a", "b"].count key = 2)
      (spelled : "Found " ++ toString 2 ++ " documents in schema '" ++ "letters" ++ "' for key '" ++
        key ++ "', expected at most one" = message) :
      (crowded.step "docs" (.retrieve "letters" key)).1 = .error (.system message) := by
    rw [← keys] at twice
    have several : 1 < (records.map (·.key)).count key := Nat.lt_of_lt_of_eq (by decide) twice.symm
    have found := retrieve_of_several (by decide) reads several
    rwa [twice, spelled] at found
  obtain ⟨_, _, _, writes, _⟩ := write_rewrites_its_key "docs" crowded
    (c := .store "letters" "a" (.nested 3)) whole fileable
  obtain ⟨through, rewritten⟩ := writes rfl
  obtain ⟨reply, done⟩ := through.2 ⟨named, records, reads⟩
  have left := rewritten reply done
  have mended := left.mended "a" ⟨rfl, rfl⟩
  have apart : ¬ (StoreCall.store "letters" "a" (.nested 3)).Writes "letters" "b" :=
    fun writes => absurd writes.2 (by decide)
  generalize crowded.step "docs" (.store "letters" "a" (.nested 3)) = stored at done left mended ⊢
  obtain ⟨_, disk⟩ := stored
  subst done
  refine ⟨whole, fileable, ?_, disk, rfl, ?_, ?_⟩
  · exact before "a" _ rfl (by decide)
  · exact mended.trans (by simp [StoreCall.leaves, StoreCall.schema])
  · exact (left.others "b" apart).trans (before "b" _ rfl (by decide))

end Disk
end CensusLink
