import CensusLink.Proofs.Json.Limit
import CensusLink.Store.File

/-!
The text of a file of records. The list and the record around a document take two levels of those
that a text may have, and nothing keeps a deeper document from being written. Records with documents
of whole numbers are read back as they were written if no document is too deep for that, and not
read at all if one is. Records that are read from any text are none too deep.
-/
namespace CensusLink

/-- The levels that a document in a file may have. -/
def FileStore.levels : Nat := 125

/-- A document that can be written to a file and read back. -/
def Document.Fileable (d : Document) : Prop := d.json.isExact ∧ d.json.depth ≤ FileStore.levels

namespace StoredRecord

variable {r : StoredRecord} {records : List StoredRecord}

theorem isSound : (Wire.shape (List StoredRecord)).isSound := by decide

theorem toJson_eq (r : StoredRecord) :
    Wire.toJson r = .object [("key", .string r.key), ("document", r.document.json)] := rfl

theorem toJson_list (records : List StoredRecord) :
    Wire.toJson records = .array (records.map Wire.toJson) :=
  congrArg Json.array List.map_map

theorem isExact_toJson : (Wire.toJson r).isExact = r.document.json.isExact := by
  simp [toJson_eq, Json.isExact, Json.isExactMembers]

theorem depth_toJson : (Wire.toJson r).depth = r.document.json.depth + 1 := by
  simp [toJson_eq, Json.depth, Json.depthMembers]

theorem isExact_list (exact : ∀ r ∈ records, r.document.json.isExact) :
    (Wire.toJson records).isExact := by
  rw [toJson_list]
  refine Json.isExactItems_iff.2 fun j hj => ?_
  obtain ⟨r, hr, rfl⟩ := List.mem_map.1 hj
  rw [isExact_toJson]
  exact exact r hr

theorem depth_list_lt (shallow : ∀ r ∈ records, r.document.json.depth ≤ FileStore.levels) :
    (Wire.toJson records).depth < Json.roomOfText := by
  rw [toJson_list]
  refine Nat.lt_of_le_of_lt (Nat.succ_le_succ (Json.depthItems_le_iff.2 fun j hj => ?_))
    (show FileStore.levels + 1 + 1 < Json.roomOfText by decide)
  obtain ⟨r, hr, rfl⟩ := List.mem_map.1 hj
  rw [depth_toJson]
  exact Nat.succ_le_succ (shallow r hr)

/-- The fields of a record, with the shapes of their values. -/
def fields : Fields :=
  .cons "key" .required .text <| .cons "document" .required .document .nil

theorem fitDocument_of_deep {d : Document} (deep : FileStore.levels < d.json.depth) :
    fitDocument (.text 126) (Draft.ofJson d.json) = .error (.flaw .tooDeep) := by
  have notLe : ¬ d.json.depth ≤ 125 := Nat.not_le.2 deep
  rw [fitDocument, Origin.room, Draft.toJson_ofJson_within, if_neg notLe]
  rfl

/-- A record inside a list is refused if its document is too deep. -/
theorem fit_of_deep (deep : FileStore.levels < r.document.json.depth) :
    (Wire.shape StoredRecord).fit (.text 127) (Draft.ofJson (Wire.toJson r)) =
      .error (.flaw .tooDeep) := by
  have document : fields.place (.text 126) "document" (Draft.ofJson r.document.json)
      (some r.key, none, ()) = .error (.flaw .tooDeep) := by
    change ((do
      let d ← fitDocument (.text 126) (Draft.ofJson r.document.json)
      Except.ok (some d, ())) >>= fun slots => Except.ok (some r.key, slots)) = _
    rw [fitDocument_of_deep deep]
    rfl
  change (Shape.record "DocumentRecord" fields).fit _ _ = _
  rw [toJson_eq, Draft.ofJson, Shape.fit_record]
  change ((fields.place (.text 126) "document" (Draft.ofJson r.document.json)
    (some r.key, none, ()) >>= fun slots => pure slots) >>= fun slots => fields.gather slots) = _
  rw [document]
  rfl

theorem fit_of_shallow (shallow : r.document.json.depth ≤ FileStore.levels) :
    (Wire.shape StoredRecord).fit (.text 127) (Draft.ofJson (Wire.toJson r)) =
      .ok (Wire.pack r) := by
  refine Shape.fit_write Json.rearranges_id (by decide) (Wire.pack r) ?_
  rintro room ⟨⟩
  exact Nat.lt_of_le_of_lt (Nat.le_of_eq depth_toJson)
    (Nat.lt_of_le_of_lt (Nat.succ_le_succ shallow) (by decide))

theorem mapM_fit_of_deep (deep : ∃ r ∈ records, FileStore.levels < r.document.json.depth) :
    (Draft.ofItems (records.map Wire.toJson)).mapM
      ((Wire.shape StoredRecord).fit (.text 127)) = .error (.flaw .tooDeep) := by
  rw [Draft.ofItems_eq_map]
  induction records with
  | nil =>
    obtain ⟨_, h, _⟩ := deep
    cases h
  | cons r rest ih =>
    rw [List.map_cons, List.map_cons, List.mapM_cons]
    by_cases first : FileStore.levels < r.document.json.depth
    · rw [fit_of_deep first]
      rfl
    · obtain ⟨s, hs, later⟩ := deep
      rcases List.mem_cons.1 hs with rfl | hs
      · exact absurd later first
      · rw [fit_of_shallow (Nat.not_lt.1 first), ih ⟨s, hs, later⟩]
        rfl

/-- Records of documents of whole numbers are read back if none is too deep. -/
theorem ofText_of_shallow (exact : ∀ r ∈ records, r.document.json.isExact)
    (shallow : ∀ r ∈ records, r.document.json.depth ≤ FileStore.levels) :
    Wire.ofText (Wire.prettyText records) = .ok records :=
  Wire.ofText_prettyText isSound (isExact_list exact) (depth_list_lt shallow)

/-- One document that is too deep makes all of them unreadable. -/
theorem ofText_of_deep (exact : ∀ r ∈ records, r.document.json.isExact)
    (deep : ∃ r ∈ records, FileStore.levels < r.document.json.depth) :
    (Wire.ofText (Wire.prettyText records) : Except Misfit (List StoredRecord)) =
      .error (.flaw .tooDeep) := by
  have fit : (Wire.shape (List StoredRecord)).fit (.text Json.roomOfText)
      (Draft.ofJson (Wire.toJson records)) = .error (.flaw .tooDeep) := by
    rw [toJson_list]
    exact (Shape.fit_list (s := Wire.shape StoredRecord) (o := .text 128) rfl _).trans
      (mapM_fit_of_deep deep)
  rw [Wire.ofText, Shape.ofText, Wire.prettyText, Json.ofText_pretty (isExact_list exact)]
  exact congrArg (fun v => (v >>= fun v => Except.ok v) >>= fun v => Except.ok (Wire.unpack v)) fit

/-- Records that are read from a text have no document that is too deep. -/
theorem depth_of_ofText {text : String} (h : Wire.ofText text = .ok records) :
    ∀ r ∈ records, r.document.json.depth ≤ FileStore.levels := by
  obtain ⟨v, read, eq⟩ := bind_eq_ok_iff.1 h
  obtain ⟨w, fit, h⟩ := bind_eq_ok_iff.1 read
  obtain ⟨_, _, h⟩ := bind_eq_ok_iff.1 h
  cases h
  cases eq
  have levels : ((Wire.shape (List StoredRecord)).write v).depth ≤ 127 :=
    Shape.depth_of_fit (by decide) fit
  intro r hr
  obtain ⟨w, hw, rfl⟩ := List.mem_map.1 hr
  have mem : Wire.toJson (Wire.unpack w : StoredRecord) ∈
      List.map (Wire.shape StoredRecord).write v := List.mem_map.2 ⟨w, hw, rfl⟩
  have le := Json.depthItems_le_iff.1 (Nat.le_of_succ_le_succ levels) _ mem
  rw [StoredRecord.depth_toJson] at le
  exact Nat.le_of_succ_le_succ le

theorem prettyText_ne_empty (records : List StoredRecord) : Wire.prettyText records ≠ "" := by
  rw [Wire.prettyText, toJson_list]
  cases records <;> simp [Json.pretty, Json.writePretty]

end StoredRecord

namespace FileStore

variable {path : String} {contents : FileContents} {records : List StoredRecord}

theorem load_save (path : String) (exact : ∀ r ∈ records, r.document.json.isExact)
    (shallow : ∀ r ∈ records, r.document.json.depth ≤ levels) :
    load path (save records) = .ok records := by
  simp only [load, save, StoredRecord.prettyText_ne_empty, if_false,
    StoredRecord.ofText_of_shallow exact shallow]

theorem load_save_of_deep (path : String) (exact : ∀ r ∈ records, r.document.json.isExact)
    (deep : ∃ r ∈ records, levels < r.document.json.depth) :
    load path (save records) = .error (notRecords path (.flaw .tooDeep)) := by
  simp only [load, save, StoredRecord.prettyText_ne_empty, if_false,
    StoredRecord.ofText_of_deep exact deep]

theorem depth_of_load (h : load path contents = .ok records) :
    ∀ r ∈ records, r.document.json.depth ≤ levels := by
  cases contents with
  | absent =>
    cases h
    exact fun _ mem => nomatch mem
  | unreadable reason => cases h
  | text s =>
    rw [load] at h
    split at h
    · cases h
      exact fun _ mem => nomatch mem
    · split at h
      next read =>
        cases h
        exact StoredRecord.depth_of_ofText read
      next => cases h

end FileStore
end CensusLink
