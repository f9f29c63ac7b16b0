import CensusLink.Proofs.Store.Deeds

/-!
What a store in memory holds after a deed. A kept document is found under its key, and all others
are found as before. The keys of a store stay in their order whatever is done.
-/
namespace CensusLink

namespace MemoryStore

/-- Schemas, and the documents of each, have their keys in order. -/
structure Ordered (s : MemoryStore) : Prop where
  schemas : Keyed.Sorted s.schemas
  documents (schema : String) : Keyed.Sorted (s.documents schema)

theorem ordered_empty : empty.Ordered := ⟨.nil, fun _ => .nil⟩

theorem documents_withDocuments (s : MemoryStore) (schema other : String)
    (documents : List (String × Document)) :
    (s.withDocuments schema documents).documents other =
      if other = schema then documents else s.documents other := by
  simp only [MemoryStore.documents, withDocuments, Keyed.lookup_insert]
  split <;> rfl

@[simp]
theorem documents_kept (s : MemoryStore) (schema key : String) (d : Document) (other : String) :
    (s.undergo (.kept schema key d)).documents other =
      if other = schema then Keyed.insert key d (s.documents schema) else s.documents other :=
  documents_withDocuments s schema other _

theorem Ordered.withDocuments {s : MemoryStore} (h : s.Ordered) {schema : String}
    {documents : List (String × Document)} (sorted : Keyed.Sorted documents) :
    (s.withDocuments schema documents).Ordered where
  schemas := Keyed.sorted_insert _ _ h.schemas
  documents other := by
    rw [documents_withDocuments]
    split
    · exact sorted
    · exact h.documents other

theorem Ordered.undergo {s : MemoryStore} (h : s.Ordered) (d : Deed) : (s.undergo d).Ordered := by
  cases d with
  | kept schema key d => exact h.withDocuments (Keyed.sorted_insert _ _ (h.documents schema))
  | removed schema key =>
    simp only [MemoryStore.undergo, apply]
    split
    next documents found =>
      have eq : s.documents schema = documents := by simp [MemoryStore.documents, found]
      exact h.withDocuments (Keyed.sorted_erase _ (eq ▸ h.documents schema))
    next => exact h
  | told n => exact h

theorem Ordered.after {s : MemoryStore} (h : s.Ordered) (ds : List Deed) :
    (s.after ds).Ordered := by
  induction ds generalizing s with
  | nil => exact h
  | cons d rest ih => exact ih (h.undergo d)

theorem Ordered.mem_of_lookup {s : MemoryStore} (h : s.Ordered) {schema key : String}
    {d : Document} (found : (s.documents schema).lookup key = some d) :
    (key, d) ∈ s.documents schema :=
  (Keyed.lookup_eq_some_iff (Keyed.nodup_keys (h.documents schema))).1 found

/-- Keeping what is kept already changes nothing. -/
theorem undergo_kept_eq_self {s : MemoryStore} (h : s.Ordered) {schema key : String} {d : Document}
    (found : (s.documents schema).lookup key = some d) : s.undergo (.kept schema key d) = s := by
  have same := Keyed.insert_eq_self (h.documents schema) found
  have there : s.schemas.lookup schema = some (s.documents schema) := by
    cases eq : s.schemas.lookup schema with
    | none => simp [MemoryStore.documents, eq] at found
    | some documents => simp [MemoryStore.documents, eq]
  simp only [undergo, apply, same, withDocuments, Keyed.insert_eq_self h.schemas there]

theorem withDocuments_withDocuments (s : MemoryStore) (schema : String)
    (first second : List (String × Document)) :
    (s.withDocuments schema first).withDocuments schema second = s.withDocuments schema second := by
  rw [withDocuments, withDocuments, withDocuments, Keyed.insert_insert]

theorem withDocuments_comm (s : MemoryStore) {schema other : String} (ne : schema ≠ other)
    (documents others : List (String × Document)) :
    (s.withDocuments schema documents).withDocuments other others =
      (s.withDocuments other others).withDocuments schema documents := by
  rw [withDocuments, withDocuments, withDocuments, withDocuments, Keyed.insert_comm ne.symm]

theorem undergo_kept (s : MemoryStore) (schema key : String) (d : Document) :
    s.undergo (.kept schema key d) =
      s.withDocuments schema (Keyed.insert key d (s.documents schema)) := rfl

/-- Of two documents kept under one key the later one stays. -/
theorem undergo_kept_kept (s : MemoryStore) (schema key : String) (d e : Document) :
    (s.undergo (.kept schema key d)).undergo (.kept schema key e) =
      s.undergo (.kept schema key e) := by
  simp only [undergo_kept, documents_withDocuments, if_pos, withDocuments_withDocuments,
    Keyed.insert_insert]

/-- Documents of different schemas or keys may be kept in any order. -/
theorem undergo_kept_comm (s : MemoryStore) {schema other key key' : String} {d e : Document}
    (apart : schema = other → key ≠ key') :
    (s.undergo (.kept schema key d)).undergo (.kept other key' e) =
      (s.undergo (.kept other key' e)).undergo (.kept schema key d) := by
  simp only [undergo_kept, documents_withDocuments]
  by_cases same : schema = other
  · subst same
    rw [if_pos rfl, if_pos rfl, withDocuments_withDocuments, withDocuments_withDocuments,
      Keyed.insert_comm (apart rfl).symm]
  · rw [if_neg (Ne.symm same), if_neg same, withDocuments_comm s same]

/-- A search finds what it found if a document is put in that it does not match, under a new key. -/
theorem matching_insert {path value key : String} {d : Document}
    {documents : List (String × Document)} (fresh : key ∉ documents.map (·.1))
    (apart : Query.matchesField d.json path value = false) :
    matching path value (Keyed.insert key d documents) = matching path value documents := by
  let hits (e : String × Document) : Bool := Query.matchesField e.2.json path value
  have others : (Keyed.insert key d documents).filter hits = documents.filter hits :=
    Keyed.filter_insert fresh apart
  exact congrArg (List.map (·.2)) others

end MemoryStore

/-- Deeds that may be done in any order. -/
def Deed.Commutes (d e : Deed) : Prop :=
  ∀ s : MemoryStore, (s.undergo d).undergo e = (s.undergo e).undergo d

theorem Deed.Commutes.symm {d e : Deed} (h : d.Commutes e) : e.Commutes d := fun s => (h s).symm

theorem Deed.told_commutes (n : Notice) (d : Deed) : (Deed.told n).Commutes d := fun _ => rfl

/-- A deed may be done before others or after them. -/
theorem MemoryStore.after_undergo_comm {d : Deed} {ds : List Deed} (h : ∀ e ∈ ds, d.Commutes e)
    (s : MemoryStore) : (s.undergo d).after ds = (s.after ds).undergo d := by
  induction ds generalizing s with
  | nil => rfl
  | cons e rest ih =>
    obtain ⟨here, later⟩ := List.forall_mem_cons.1 h
    exact (congrArg (·.after rest) (here s)).trans (ih later (s.undergo e))

theorem MemoryStore.after_comm {ds es : List Deed} (h : ∀ d ∈ ds, ∀ e ∈ es, d.Commutes e)
    (s : MemoryStore) : (s.after ds).after es = (s.after es).after ds := by
  induction ds generalizing s with
  | nil => rfl
  | cons d rest ih =>
    obtain ⟨here, later⟩ := List.forall_mem_cons.1 h
    exact (ih later (s.undergo d)).trans
      (congrArg (·.after rest) (after_undergo_comm here s))

/-- A deed makes no difference if a later one undoes it and it may be moved up to that one. -/
theorem MemoryStore.after_undone {d : Deed} {ds : List Deed}
    (undone : ∃ e ∈ ds, ∀ s : MemoryStore, (s.undergo d).undergo e = s.undergo e)
    (moves : ∀ e ∈ ds, d.Commutes e ∨ ∀ s : MemoryStore, (s.undergo d).undergo e = s.undergo e)
    (s : MemoryStore) : (s.undergo d).after ds = s.after ds := by
  induction ds generalizing s with
  | nil =>
    obtain ⟨_, ⟨⟩, _⟩ := undone
  | cons e rest ih =>
    obtain ⟨here, later⟩ := List.forall_mem_cons.1 moves
    by_cases now : ∀ s : MemoryStore, (s.undergo d).undergo e = s.undergo e
    · exact congrArg (·.after rest) (now s)
    · have commutes := here.resolve_right now
      have undone : ∃ e ∈ rest, ∀ s : MemoryStore, (s.undergo d).undergo e = s.undergo e := by
        obtain ⟨e', member, undoes⟩ := undone
        rcases List.mem_cons.1 member with rfl | member
        · exact absurd undoes now
        · exact ⟨e', member, undoes⟩
      exact (congrArg (·.after rest) (commutes s)).trans (ih undone later (s.undergo e))

end CensusLink
