import CensusLink.Proofs.Store.RecordFile

/-!
The store in files on a disk on which every folder can be made and every file be written. A call
reads the file of its schema and changes no other, as different schemas have different files. What
a file is read as after a store decides what all later calls to its schema find.
-/
namespace CensusLink

/-- The texts of files by their paths. -/
structure Disk where
  texts : String → Option String

namespace Disk

def empty : Disk := ⟨fun _ => none⟩

def contents (disk : Disk) (path : String) : FileContents :=
  match disk.texts path with
  | some text => .text text
  | none => .absent

def put (disk : Disk) (path text : String) : Disk :=
  ⟨fun p => if p = path then some text else disk.texts p⟩

def files : Files (StateM Disk) where
  contents path := do return (← get).contents path
  makeFolder _ := pure (.ok ())
  replace path text := do
    modify fun disk => disk.put path text
    return .ok ()

/-- Answers a call by way of the files under a root. -/
def step (root : String) (disk : Disk) (c : StoreCall) : c.Outcome × Disk :=
  (FileStore.answer files root c).run disk

/-- What the file of a schema is read as. -/
def Reads (root : String) (disk : Disk) (schema : String) (records : List StoredRecord) : Prop :=
  FileStore.load (FileStore.path root schema) (disk.contents (FileStore.path root schema)) =
    .ok records

variable {root schema key : String} {disk : Disk} {c : StoreCall} {records : List StoredRecord}

theorem contents_put (disk : Disk) (path text : String) (p : String) :
    (disk.put path text).contents p = if p = path then .text text else disk.contents p := by
  by_cases same : p = path <;> simp [contents, put, same]

theorem step_eq (root : String) (disk : Disk) (c : StoreCall) : disk.step root c =
    match FileStore.serve root (disk.contents (FileStore.path root c.schema)) c with
    | .error f => (.error f, disk)
    | .ok (reply, some (.text s)) => (.ok reply, disk.put (FileStore.path root c.schema) s)
    | .ok (reply, _) => (.ok reply, disk) := by
  have contents : files.contents (FileStore.path root c.schema) disk =
      (disk.contents (FileStore.path root c.schema), disk) := rfl
  unfold step FileStore.answer
  simp only [StateT.run, bind, StateT.bind, contents]
  rcases FileStore.serve root (disk.contents (FileStore.path root c.schema)) c with
    f | ⟨reply, _ | _ | s | reason⟩ <;> rfl

/-- A call to a schema of valid name does to the records in its file what it does to records. -/
theorem step_of_reads (valid : Schema.check c.schema = .ok ())
    (reads : disk.Reads root c.schema records) : disk.step root c =
      match FileStore.apply records c with
      | .error f => (.error f, disk)
      | .ok (reply, none) => (.ok reply, disk)
      | .ok (reply, some changed) =>
        (.ok reply, disk.put (FileStore.path root c.schema) (Wire.prettyText changed)) := by
  rw [step_eq, FileStore.serve, valid, Instant.ok_bind, show FileStore.load _ _ = _ from reads,
    Instant.ok_bind]
  rcases FileStore.apply records c with f | ⟨reply, _ | changed⟩ <;> rfl

theorem step_of_invalid {f : Fault} (invalid : Schema.check c.schema = .error f) :
    disk.step root c = (.error f, disk) := by
  rw [step_eq, FileStore.serve, invalid]
  rfl

/-- While the file of a schema cannot be read, all calls to the schema fail. -/
theorem step_of_unreadable {f : Fault} (valid : Schema.check c.schema = .ok ())
    (unreadable : FileStore.load (FileStore.path root c.schema)
      (disk.contents (FileStore.path root c.schema)) = .error f) :
    disk.step root c = (.error f, disk) := by
  rw [step_eq, FileStore.serve, valid, Instant.ok_bind, unreadable]
  rfl

/-- A call that only reads leaves every file as it is. -/
theorem step_of_not_isWrite (reads : c.isWrite = false) : (disk.step root c).2 = disk := by
  cases valid : Schema.check c.schema with
  | error f => rw [step_of_invalid valid]
  | ok =>
    cases loaded : FileStore.load (FileStore.path root c.schema)
      (disk.contents (FileStore.path root c.schema)) with
    | error f => rw [step_of_unreadable valid loaded]
    | ok records =>
      rw [step_of_reads valid loaded]
      cases c with
      | store schema key d => cases reads
      | delete schema key => cases reads
      | search schema path value => rfl
      | retrieve schema key =>
        rw [FileStore.apply]
        cases Query.single schema key ((records.filter (·.key = key)).map (·.document)) <;> rfl

theorem reads_put (disk : Disk) (root schema : String)
    (exact : ∀ r ∈ records, r.document.json.isExact)
    (shallow : ∀ r ∈ records, r.document.json.depth ≤ FileStore.levels) :
    (disk.put (FileStore.path root schema) (Wire.prettyText records)).Reads root schema
      records := by
  rw [Reads, contents_put, if_pos rfl]
  exact FileStore.load_save _ exact shallow

end Disk

namespace FileStore

theorem isNameChar_of_mem {schema : String} (valid : Schema.check schema = .ok ()) {c : Char}
    (mem : c ∈ schema.toList) : Schema.isNameChar c = true := by
  rw [Schema.check] at valid
  split at valid
  · cases valid
  · split at valid
    next all => exact List.all_eq_true.1 all c mem
    next => cases valid

theorem not_startsAtTop {schema : String} (valid : Schema.check schema = .ok ()) :
    PathText.startsAtTop (fileName schema) = false := by
  rw [PathText.startsAtTop, fileName, String.toList_append]
  cases chars : schema.toList with
  | nil => rfl
  | cons c rest =>
    have name : Schema.isNameChar c = true := isNameChar_of_mem valid (by simp [chars])
    have ne : c ≠ '/' := by
      rintro rfl
      exact absurd name (by decide)
    simp [ne]

theorem path_eq {root schema : String} (valid : Schema.check schema = .ok ()) : path root schema =
    if root = "" || root.toList.getLast? == some '/' then root ++ fileName schema
    else root ++ "/" ++ fileName schema := by
  rw [path, PathText.join, not_startsAtTop valid, if_neg Bool.false_ne_true]

/-- Schemas of different names have different files. -/
theorem path_injective {root schema other : String} (valid : Schema.check schema = .ok ())
    (valid' : Schema.check other = .ok ()) (same : path root schema = path root other) :
    schema = other := by
  obtain ⟨start, at_start⟩ : ∃ start, ∀ s, Schema.check s = .ok () →
      path root s = start ++ s ++ ".json" := by
    by_cases closed : (root = "" || root.toList.getLast? == some '/') = true
    · exact ⟨root, fun s h => by rw [path_eq h, if_pos closed, fileName, String.append_assoc]⟩
    · exact ⟨root ++ "/", fun s h => by
        rw [path_eq h, if_neg closed, fileName, ← String.append_assoc]⟩
  rw [at_start schema valid, at_start other valid'] at same
  have chars := congrArg String.toList same
  simp only [String.toList_append, List.append_cancel_right_eq, List.append_cancel_left_eq] at chars
  exact String.toList_injective chars

/-- The records once a document is stored under a key. -/
def stored (key : String) (d : Document) (records : List StoredRecord) : List StoredRecord :=
  without key records ++ [⟨key, d⟩]

theorem filter_without (key : String) (records : List StoredRecord) (k : String) :
    (without key records).filter (·.key = k) =
      if k = key then [] else records.filter (·.key = k) := by
  rw [without, List.filter_filter]
  by_cases same : k = key
  · subst same
    simp
  · rw [if_neg same]
    refine List.filter_congr fun r _ => ?_
    by_cases here : r.key = k <;> simp [here, same]

/-- A stored document is the only one under its key, and other keys have the records they had. -/
theorem filter_stored (key : String) (d : Document) (records : List StoredRecord) (k : String) :
    (stored key d records).filter (·.key = k) =
      if k = key then [⟨key, d⟩] else records.filter (·.key = k) := by
  rw [stored, List.filter_append, filter_without]
  by_cases same : k = key
  · subst same
    simp
  · simp [same, Ne.symm same]

/-- What holds of all documents and of one that is stored still holds of all. -/
theorem forall_stored {p : Document → Prop} (key : String) {d : Document}
    {records : List StoredRecord} (all : ∀ r ∈ records, p r.document) (one : p d) :
    ∀ r ∈ stored key d records, p r.document := by
  intro r hr
  rcases List.mem_append.1 hr with old | new
  · exact all r (List.mem_of_mem_filter old)
  · rw [List.mem_singleton.1 new]
    exact one

end FileStore

/-- Arrays one inside the other. -/
def Json.nested : Nat → Json
  | 0 => .array []
  | n + 1 => .array [nested n]

theorem Json.canonical_nested : ∀ n, (nested n).Canonical
  | 0 => trivial
  | n + 1 => ⟨canonical_nested n, trivial⟩

theorem Json.isExact_nested : ∀ n, (nested n).isExact
  | 0 => rfl
  | n + 1 => Bool.and_eq_true_iff.2 ⟨isExact_nested n, rfl⟩

theorem Json.depth_nested : ∀ n, (nested n).depth = n + 1
  | 0 => rfl
  | n + 1 => congrArg (· + 1) ((Nat.max_zero _).trans (depth_nested n))

def Document.nested (n : Nat) : Document := ⟨Json.nested n, Json.canonical_nested n⟩

theorem Document.isExact_nested (n : Nat) : (Document.nested n).json.isExact :=
  Json.isExact_nested n

theorem Document.depth_nested (n : Nat) : (Document.nested n).json.depth = n + 1 :=
  Json.depth_nested n

namespace Disk

open FileStore (path stored levels)

variable {root schema key : String} {disk : Disk} {records : List StoredRecord} {d : Document}

theorem step_store (valid : Schema.check schema = .ok ()) (reads : disk.Reads root schema records)
    (key : String) (d : Document) : disk.step root (.store schema key d) =
      (.ok (), disk.put (path root schema) (Wire.prettyText (stored key d records))) :=
  step_of_reads (c := .store schema key d) valid reads

theorem step_retrieve (valid : Schema.check schema = .ok ())
    (reads : disk.Reads root schema records) (key : String) :
    disk.step root (.retrieve schema key) =
      (Query.single schema key ((records.filter (·.key = key)).map (·.document)), disk) := by
  rw [step_of_reads (c := .retrieve schema key) valid reads, FileStore.apply]
  cases Query.single schema key ((records.filter (·.key = key)).map (·.document)) <;> rfl

/-- A deleted key has no records any more, whether or not the file had to be written anew. -/
theorem reads_delete (valid : Schema.check schema = .ok ()) (reads : disk.Reads root schema records)
    (exact : ∀ r ∈ records, r.document.json.isExact) (key : String) :
    (disk.step root (.delete schema key)).1 = .ok () ∧
      (disk.step root (.delete schema key)).2.Reads root schema
        (FileStore.without key records) := by
  have step := step_of_reads (c := .delete schema key) valid reads
  by_cases same : (FileStore.without key records).length = records.length
  · have none : FileStore.without key records = records :=
      List.filter_eq_self.2 (List.length_filter_eq_length_iff.1 same)
    simp only [FileStore.apply, if_pos same] at step
    rw [step]
    exact ⟨rfl, none.symm ▸ reads⟩
  · simp only [FileStore.apply, if_neg same] at step
    rw [step]
    refine ⟨rfl, reads_put disk root schema (fun r hr => exact r (List.mem_of_mem_filter hr)) ?_⟩
    exact fun r hr => FileStore.depth_of_load reads r (List.mem_of_mem_filter hr)

theorem valid_of_step (h : (disk.step root (.store schema key d)).1 = .ok ()) :
    Schema.check schema = .ok () := by
  cases valid : Schema.check schema with
  | ok => rfl
  | error f =>
    rw [step_of_invalid (c := .store schema key d) valid] at h
    cases h

/-- Once a document that is too deep is written no call to its schema succeeds. -/
theorem step_of_deep (disk : Disk) {c : StoreCall} (valid : Schema.check c.schema = .ok ())
    (exact : ∀ r ∈ records, r.document.json.isExact)
    (deep : ∃ r ∈ records, levels < r.document.json.depth) :
    (disk.put (path root c.schema) (Wire.prettyText records)).step root c =
      (.error (FileStore.notRecords (path root c.schema) (.flaw .tooDeep)),
        disk.put (path root c.schema) (Wire.prettyText records)) := by
  refine step_of_unreadable valid ?_
  rw [contents_put, if_pos rfl]
  exact FileStore.load_save_of_deep _ exact deep

/-- A stored document is found, and what every other key finds is as before, exactly if the document
is not too deep; if it is, no call to the schema succeeds from then on. -/
theorem stored_document_is_found_iff (reads : disk.Reads root schema records)
    (exact : ∀ r ∈ records, r.document.json.isExact) (whole : d.json.isExact)
    (written : (disk.step root (.store schema key d)).1 = .ok ()) :
    (((disk.step root (.store schema key d)).2.step root (.retrieve schema key)).1 = .ok (some d) ∧
      (∀ other, other ≠ key →
        ((disk.step root (.store schema key d)).2.step root (.retrieve schema other)).1 =
          (disk.step root (.retrieve schema other)).1) ↔ d.json.depth ≤ levels) ∧
    (levels < d.json.depth → ∀ c : StoreCall, c.schema = schema →
      (disk.step root (.store schema key d)).2.step root c =
        (.error (FileStore.notRecords (path root schema) (.flaw .tooDeep)),
          (disk.step root (.store schema key d)).2)) := by
  have valid := valid_of_step written
  have exact' : ∀ r ∈ stored key d records, r.document.json.isExact :=
    FileStore.forall_stored (p := fun d => d.json.isExact) key exact whole
  rw [step_store valid reads]
  have unreadable : levels < d.json.depth → ∀ c : StoreCall, c.schema = schema →
      (disk.put (path root schema) (Wire.prettyText (stored key d records))).step root c =
        (.error (FileStore.notRecords (path root schema) (.flaw .tooDeep)),
          disk.put (path root schema) (Wire.prettyText (stored key d records))) := by
    rintro deep c rfl
    exact step_of_deep disk valid exact' ⟨⟨key, d⟩, by simp [stored], deep⟩
  refine ⟨⟨fun found => Nat.not_lt.1 fun deep => ?_, fun shallow => ?_⟩, unreadable⟩
  · rw [unreadable deep _ rfl] at found
    cases found.1
  · have shallow' : ∀ r ∈ stored key d records, r.document.json.depth ≤ levels :=
      FileStore.forall_stored (p := fun d => d.json.depth ≤ levels) key
        (FileStore.depth_of_load reads) shallow
    have reads' := reads_put disk root schema exact' shallow'
    refine ⟨?_, fun other ne => ?_⟩
    · rw [step_retrieve valid reads', FileStore.filter_stored, if_pos rfl]
      rfl
    · rw [step_retrieve valid reads', step_retrieve valid reads, FileStore.filter_stored,
        if_neg ne]

/-- One document in one file. -/
def lettered : Disk :=
  empty.put (path "docs" "letters") (Wire.prettyText [(⟨"a", .nested 0⟩ : StoredRecord)])

theorem exact_lettered : ∀ r ∈ [(⟨"a", .nested 0⟩ : StoredRecord)], r.document.json.isExact := by
  simp [Document.isExact_nested]

theorem reads_lettered : lettered.Reads "docs" "letters" [⟨"a", .nested 0⟩] := by
  refine reads_put empty "docs" "letters" exact_lettered ?_
  simp [Document.depth_nested, levels]

theorem stored_document_is_found_iff_sample :
    (lettered.step "docs" (.store "letters" "b" (.nested 124))).1 = .ok () ∧
      ((lettered.step "docs" (.store "letters" "b" (.nested 124))).2.step "docs"
        (.retrieve "letters" "b")).1 = .ok (some (.nested 124)) ∧
      ((lettered.step "docs" (.store "letters" "b" (.nested 124))).2.step "docs"
        (.retrieve "letters" "a")).1 = (lettered.step "docs" (.retrieve "letters" "a")).1 := by
  have written : (lettered.step "docs" (.store "letters" "b" (.nested 124))).1 = .ok () := by
    rw [step_store (by decide) reads_lettered]
  have shallow : (Document.nested 124).json.depth ≤ levels :=
    Nat.le_of_eq (Document.depth_nested 124)
  have all := stored_document_is_found_iff reads_lettered exact_lettered
    (Document.isExact_nested 124) written
  obtain ⟨found, others⟩ := all.1.2 shallow
  exact ⟨written, found, others "a" (by decide)⟩

/-- With one level more the document is written behind the one that was there, but neither of them
is found again. -/
theorem deep_document_hides_all :
    (lettered.step "docs" (.retrieve "letters" "a")).1 = .ok (some (.nested 0)) ∧
      (lettered.step "docs" (.store "letters" "b" (.nested 125))).1 = .ok () ∧
      (lettered.step "docs" (.store "letters" "b" (.nested 125))).2.contents
          (path "docs" "letters") =
        .text (Wire.prettyText [(⟨"a", .nested 0⟩ : StoredRecord), ⟨"b", .nested 125⟩]) ∧
      ∀ key, ((lettered.step "docs" (.store "letters" "b" (.nested 125))).2.step "docs"
        (.retrieve "letters" key)).1 =
          .error (FileStore.notRecords (path "docs" "letters") (.flaw .tooDeep)) := by
  have valid : Schema.check "letters" = .ok () := by decide
  have deep : levels < (Document.nested 125).json.depth :=
    Nat.le_of_eq (Document.depth_nested 125).symm
  have exact : ∀ r ∈ stored "b" (.nested 125) [(⟨"a", .nested 0⟩ : StoredRecord)],
      r.document.json.isExact :=
    FileStore.forall_stored (p := fun d => d.json.isExact) "b" exact_lettered
      (Document.isExact_nested 125)
  rw [step_store valid reads_lettered, step_retrieve valid reads_lettered]
  refine ⟨rfl, rfl, ?_, fun key => ?_⟩
  · rw [contents_put, if_pos rfl]
    rfl
  · exact congrArg Prod.fst (step_of_deep lettered (c := .retrieve "letters" key) valid exact
      ⟨⟨"b", .nested 125⟩, by simp [stored], deep⟩)

end Disk
end CensusLink
