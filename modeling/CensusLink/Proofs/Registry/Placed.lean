import CensusLink.Proofs.Instant.Moment
import CensusLink.Proofs.Registry.UprnField
import CensusLink.Proofs.Store.Contents

/-!
Codes and cases in a store. A registry is well named if its two schemas have different names that a
store accepts, and a store is in place if every code is kept under its hash and every case under its
id. In such a store a code is read by its hash and the cases at an address by its number, and a
written code or case is found from then on, with all others as they were.
-/
namespace CensusLink

/-- What a document says, if it says anything of the type. -/
def Document.read? {α : Type} [Wire α] (d : Document) : Option α := (Wire.ofDocument d).toOption

theorem Document.read?_eq_some_iff {α : Type} [Wire α] {d : Document} {a : α} :
    d.read? = some a ↔ Wire.ofDocument d = .ok a := by
  rw [Document.read?]
  cases (Wire.ofDocument d : Except Misfit α) <;> simp [Except.toOption]

namespace Registry

structure WellNamed (r : Registry) : Prop where
  code : Schema.check r.schemas.accessCode = .ok ()
  case : Schema.check r.schemas.case = .ok ()
  distinct : r.schemas.accessCode ≠ r.schemas.case

/-- Every code is kept under its hash and every case under its id. The order of the keys is that of
any store in memory that was ever written to. -/
structure Placed (r : Registry) (s : MemoryStore) : Prop where
  ordered : s.Ordered
  codes : ∀ e ∈ s.documents r.schemas.accessCode,
    ∃ code : AccessCode, Wire.ofDocument e.2 = .ok code ∧ code.hash = e.1
  cases : ∀ e ∈ s.documents r.schemas.case,
    ∃ c : CollectionCase, Wire.ofDocument e.2 = .ok c ∧ c.id = e.1

/-- The code kept under a hash. -/
def codeIn (r : Registry) (s : MemoryStore) (hash : String) : Option AccessCode :=
  ((s.documents r.schemas.accessCode).lookup hash).bind Document.read?

/-- The case kept under an id. -/
def caseIn (r : Registry) (s : MemoryStore) (id : String) : Option CollectionCase :=
  ((s.documents r.schemas.case).lookup id).bind Document.read?

/-- The cases with a property reference number, in the order of their ids. -/
def casesIn (r : Registry) (s : MemoryStore) (uprn : String) : List CollectionCase :=
  (MemoryStore.matching uprnPath uprn (s.documents r.schemas.case)).filterMap Document.read?

/-- Nothing is kept under the text of an identifier as the id of a case. -/
def Fresh (r : Registry) (s : MemoryStore) (id : Uuid) : Prop :=
  id.text ∉ (s.documents r.schemas.case).map (·.1)

end Registry

def Deed.ofCode (r : Registry) (code : AccessCode) : Deed :=
  .kept r.schemas.accessCode code.hash (Wire.toDocument code)

def Deed.ofCase (r : Registry) (c : CollectionCase) : Deed :=
  .kept r.schemas.case c.id (Wire.toDocument c)

/-- A code or a case kept in its place, or a notice. -/
inductive Deed.Proper (r : Registry) : Deed → Prop
  | code (code : AccessCode) : Proper r (.ofCode r code)
  | case (c : CollectionCase) : Proper r (.ofCase r c)
  | told (n : Notice) : Proper r (.told n)

namespace Registry

variable {r : Registry} {k : Conditions} {s : MemoryStore} {ds : List Deed}

theorem writeCode_yields (named : r.WellNamed) (code : AccessCode) :
    (r.writeCode code).Yields k s () [.ofCode r code]
      (k.mayFail (.store r.schemas.accessCode code.hash (Wire.toDocument code))) :=
  Write.make_yields (w := .store r.schemas.accessCode code.hash (Wire.toDocument code)) named.code

theorem writeCase_yields (named : r.WellNamed) (c : CollectionCase) :
    (r.writeCase c).Yields k s () [.ofCase r c]
      (k.mayFail (.store r.schemas.case c.id (Wire.toDocument c))) :=
  Write.make_yields (w := .store r.schemas.case c.id (Wire.toDocument c)) named.case

/-- A value is read as it is kept. -/
theorem get?_yields {α : Type} [Wire α] {schema key : String}
    (valid : Schema.check schema = .ok ())
    (reads : ∀ d, (s.documents schema).lookup key = some d → ∃ a : α, Wire.ofDocument d = .ok a) :
    (Records.get? schema key : Service (Option α)).Yields k s
      (((s.documents schema).lookup key).bind Document.read?) []
      (k.mayFail (.retrieve schema key)) := by
  refine (Service.call_yields (c := .retrieve schema key) valid).bind_pure ?_
  simp only [MemoryStore.apply]
  cases found : (s.documents schema).lookup key with
  | none => rfl
  | some d =>
    obtain ⟨a, read⟩ := reads d found
    simp [read, Document.read?_eq_some_iff.2 read]

theorem readCode_yields (named : r.WellNamed) (placed : r.Placed s) (hash : String) :
    (r.readCode hash).Yields k s (r.codeIn s hash) []
      (k.mayFail (.retrieve r.schemas.accessCode hash)) := by
  refine get?_yields named.code fun d found => ?_
  obtain ⟨code, read, _⟩ := placed.codes _ (placed.ordered.mem_of_lookup found)
  exact ⟨code, read⟩

theorem readCase_yields (named : r.WellNamed) (placed : r.Placed s) (id : String) :
    (r.readCase id).Yields k s (r.caseIn s id) [] (k.mayFail (.retrieve r.schemas.case id)) := by
  refine get?_yields named.case fun d found => ?_
  obtain ⟨c, read, _⟩ := placed.cases _ (placed.ordered.mem_of_lookup found)
  exact ⟨c, read⟩

theorem mapM_ofFound {α : Type} [Wire α] (schema path value : String) {found : List Document}
    (reads : ∀ d ∈ found, ∃ a : α, Wire.ofDocument d = .ok a) :
    found.mapM (Records.ofFound schema path value) =
      .ok (found.filterMap (Document.read? : Document → Option α)) := by
  induction found with
  | nil => rfl
  | cons d rest ih =>
    obtain ⟨a, read⟩ := reads d List.mem_cons_self
    have here : Records.ofFound schema path value d = .ok a := by rw [Records.ofFound, read]
    rw [List.mapM_cons, here, ih fun d hd => reads d (List.mem_cons_of_mem _ hd),
      List.filterMap_cons_some (Document.read?_eq_some_iff.2 read)]
    rfl

section Found

variable {α : Type} [Wire α] {schema path value : String} {found : List Document}

theorem ofFound_eq_ok_iff {d : Document} {a : α} :
    Records.ofFound schema path value d = .ok a ↔ Wire.ofDocument d = .ok a := by
  rw [Records.ofFound]
  cases (Wire.ofDocument d : Except Misfit α) <;> simp

/-- Documents are read as values if each of them is one. -/
theorem mapM_ofFound_eq_ok_iff {as : List α} :
    found.mapM (Records.ofFound schema path value) = .ok as ↔
      (∀ d ∈ found, ∃ a : α, Wire.ofDocument d = .ok a) ∧ as = found.filterMap Document.read? := by
  constructor
  · intro reads
    have all : ∀ d ∈ found, ∃ a : α, Wire.ofDocument d = .ok a := fun d hd =>
      (forall_of_mapM_eq_ok reads d hd).imp fun _ => ofFound_eq_ok_iff.1
    exact ⟨all, Except.ok.inj (reads.symm.trans (mapM_ofFound _ _ _ all))⟩
  · rintro ⟨all, rfl⟩
    exact mapM_ofFound _ _ _ all

/-- If they are not, the fault is that of one which is none. -/
theorem exists_of_mapM_ofFound {f : Fault}
    (h : found.mapM (Records.ofFound schema path value) = (.error f : Except Fault (List α))) :
    ∃ d ∈ found, ∃ m, (Wire.ofDocument d : Except Misfit α) = .error m ∧
      f = Records.unreadableFound schema path value d m := by
  obtain ⟨d, member, failed⟩ := exists_of_mapM_eq_error h
  rw [Records.ofFound] at failed
  cases read : (Wire.ofDocument d : Except Misfit α) with
  | ok a =>
    rw [read] at failed
    cases failed
  | error m =>
    rw [read] at failed
    cases failed
    exact ⟨d, member, m, read, rfl⟩

end Found

/-- The cases at an address are read as they are kept. -/
theorem casesAt_yields (named : r.WellNamed) (placed : r.Placed s) (uprn : String) :
    (r.casesAt uprn).Yields k s (r.casesIn s uprn) []
      (k.mayFail (.search r.schemas.case uprnPath uprn)) := by
  refine (Service.call_yields (c := .search r.schemas.case uprnPath uprn) named.case).bind_pure ?_
  refine congrArg Service.of (mapM_ofFound _ _ _ fun d member => ?_)
  obtain ⟨e, kept, rfl⟩ := List.mem_map.1 member
  obtain ⟨c, read, _⟩ := placed.cases e (List.mem_filter.1 kept).1
  exact ⟨c, read⟩

/-- A case stands at the address that its own number says, under its own id. -/
theorem exists_of_mem_casesIn (placed : r.Placed s) {uprn : String} {c : CollectionCase}
    (h : c ∈ r.casesIn s uprn) :
    c.uprn = uprn ∧ ∃ d, (c.id, d) ∈ s.documents r.schemas.case ∧ Wire.ofDocument d = .ok c := by
  obtain ⟨d, found, read⟩ := List.mem_filterMap.1 h
  obtain ⟨e, kept, rfl⟩ := List.mem_map.1 found
  have read := Document.read?_eq_some_iff.1 read
  have matches_uprn := (List.mem_filter.1 kept).2
  obtain ⟨c', read', eq⟩ := placed.cases e ((List.mem_filter.1 kept).1)
  rw [read] at read'
  cases read'
  exact ⟨CollectionCase.uprn_of_matches read matches_uprn, e.2,
    eq ▸ (List.mem_filter.1 kept).1, read⟩

theorem hash_of_codeIn (placed : r.Placed s) {hash : String} {code : AccessCode}
    (h : r.codeIn s hash = some code) : code.hash = hash := by
  obtain ⟨d, found, read⟩ := Option.bind_eq_some_iff.1 h
  obtain ⟨code', read', eq⟩ := placed.codes _ (placed.ordered.mem_of_lookup found)
  rw [Document.read?_eq_some_iff.1 read] at read'
  cases read'
  exact eq

/-- Cases kept under their ids have the keys for ids. -/
theorem map_id_read {entries : List (String × Document)}
    (cases : ∀ e ∈ entries, ∃ c : CollectionCase, Wire.ofDocument e.2 = .ok c ∧ c.id = e.1) :
    ((entries.map (·.2)).filterMap Document.read?).map (fun c : CollectionCase => c.id) =
      entries.map (·.1) := by
  induction entries with
  | nil => rfl
  | cons e rest ih =>
    obtain ⟨c, read, eq⟩ := cases e List.mem_cons_self
    rw [List.map_cons, List.filterMap_cons_some (Document.read?_eq_some_iff.2 read), List.map_cons,
      List.map_cons, ih fun d hd => cases d (List.mem_cons_of_mem _ hd), eq]

/-- Different cases at an address have different ids. -/
theorem nodup_ids_casesIn (placed : r.Placed s) (uprn : String) :
    ((r.casesIn s uprn).map (·.id)).Nodup := by
  rw [casesIn, MemoryStore.matching,
    map_id_read fun e he => placed.cases e (List.mem_filter.1 he).1]
  exact (Keyed.nodup_keys (placed.ordered.documents r.schemas.case)).sublist
    (List.filter_sublist.map _)

theorem ofDocument_code (code : AccessCode) : Wire.ofDocument (Wire.toDocument code) = .ok code :=
  Wire.ofDocument_toDocument Wire.isSound_accessCode code

theorem ofDocument_case (c : CollectionCase) : Wire.ofDocument (Wire.toDocument c) = .ok c :=
  Wire.ofDocument_toDocument Wire.isSound_collectionCase c

/-- A case is written as the one that its text tells. -/
theorem toDocument_told (c : CollectionCase Moment) :
    Wire.toDocument c = Wire.toDocument c.told := by
  obtain ⟨_, _, _, _, _, _, _, created, _, _⟩ := c
  cases created <;> rfl

theorem writeCase_told (r : Registry) (c : CollectionCase Moment) :
    r.writeCase c = r.writeCase c.told := by
  rw [writeCase, Records.put, toDocument_told]
  rfl

theorem read?_toDocument_code (code : AccessCode) : (Wire.toDocument code).read? = some code :=
  Document.read?_eq_some_iff.2 (ofDocument_code code)

theorem read?_toDocument_case (c : CollectionCase) : (Wire.toDocument c).read? = some c :=
  Document.read?_eq_some_iff.2 (ofDocument_case c)

/-- A code is kept under its hash as it was written. -/
theorem lookup_ofCode (r : Registry) (s : MemoryStore) (code : AccessCode) :
    ((s.undergo (.ofCode r code)).documents r.schemas.accessCode).lookup code.hash =
      some (Wire.toDocument code) := by
  rw [Deed.ofCode, MemoryStore.documents_kept, if_pos rfl, Keyed.lookup_insert, if_pos rfl]

theorem codeIn_ofCode (r : Registry) (s : MemoryStore) (code : AccessCode) (hash : String) :
    r.codeIn (s.undergo (.ofCode r code)) hash =
      if hash = code.hash then some code else r.codeIn s hash := by
  rw [codeIn, Deed.ofCode, MemoryStore.documents_kept, if_pos rfl, Keyed.lookup_insert]
  split
  · rw [Option.bind_some, read?_toDocument_code]
  · rfl

theorem codeIn_ofCase (named : r.WellNamed) (s : MemoryStore) (c : CollectionCase) (hash : String) :
    r.codeIn (s.undergo (.ofCase r c)) hash = r.codeIn s hash := by
  rw [codeIn, Deed.ofCase, MemoryStore.documents_kept, if_neg named.distinct, codeIn]

theorem caseIn_ofCase (r : Registry) (s : MemoryStore) (c : CollectionCase) (id : String) :
    r.caseIn (s.undergo (.ofCase r c)) id = if id = c.id then some c else r.caseIn s id := by
  rw [caseIn, Deed.ofCase, MemoryStore.documents_kept, if_pos rfl, Keyed.lookup_insert]
  split
  · rw [Option.bind_some, read?_toDocument_case]
  · rfl

theorem caseIn_ofCode (named : r.WellNamed) (s : MemoryStore) (code : AccessCode) (id : String) :
    r.caseIn (s.undergo (.ofCode r code)) id = r.caseIn s id := by
  rw [caseIn, Deed.ofCode, MemoryStore.documents_kept, if_neg named.distinct.symm, caseIn]

theorem mem_keys_of_caseIn {id : String} {c : CollectionCase} (h : r.caseIn s id = some c) :
    id ∈ (s.documents r.schemas.case).map (·.1) := by
  obtain ⟨d, found, _⟩ := Option.bind_eq_some_iff.1 h
  obtain ⟨before, after, split, _⟩ := List.lookup_eq_some_iff.1 found
  simp [split]

/-- A case at an address is the one kept under its id. -/
theorem caseIn_of_mem_casesIn (placed : r.Placed s) {uprn : String} {c : CollectionCase}
    (h : c ∈ r.casesIn s uprn) : r.caseIn s c.id = some c := by
  obtain ⟨_, d, kept, read⟩ := exists_of_mem_casesIn placed h
  have ids := Keyed.nodup_keys (placed.ordered.documents r.schemas.case)
  rw [caseIn, (Keyed.lookup_eq_some_iff ids).2 kept, Option.bind_some]
  exact Document.read?_eq_some_iff.2 read

theorem casesIn_ofCode (named : r.WellNamed) (s : MemoryStore) (code : AccessCode) (uprn : String) :
    r.casesIn (s.undergo (.ofCode r code)) uprn = r.casesIn s uprn := by
  rw [casesIn, Deed.ofCode, MemoryStore.documents_kept, if_neg named.distinct.symm, casesIn]

/-- A case of a new id stands at its address next to those that stood there. -/
theorem casesIn_ofCase_perm {c : CollectionCase}
    (fresh : c.id ∉ (s.documents r.schemas.case).map (·.1)) (uprn : String) :
    (r.casesIn (s.undergo (.ofCase r c)) uprn).Perm
      (if c.uprn = uprn then c :: r.casesIn s uprn else r.casesIn s uprn) := by
  have entries := Keyed.insert_perm (a := Wire.toDocument c) fresh
  have found := ((entries.filter fun e => Query.matchesField e.2.json uprnPath uprn).map
    (·.2)).filterMap (Document.read? : Document → Option CollectionCase)
  rw [casesIn, Deed.ofCase, MemoryStore.documents_kept, if_pos rfl]
  refine found.trans (.of_eq ?_)
  rw [List.filter_cons, CollectionCase.matches_toDocument]
  split
  next here =>
    rw [if_pos (by simpa using here), List.map_cons,
      List.filterMap_cons_some (read?_toDocument_case c)]
    rfl
  next elsewhere =>
    rw [if_neg (by simpa using elsewhere)]
    rfl

theorem placed_empty (r : Registry) : r.Placed .empty where
  ordered := MemoryStore.ordered_empty
  codes := by rintro _ ⟨⟩
  cases := by rintro _ ⟨⟩

/-- What is done in its place leaves everything in place. -/
theorem Placed.undergo (named : r.WellNamed) (placed : r.Placed s) {d : Deed}
    (proper : d.Proper r) : r.Placed (s.undergo d) := by
  refine ⟨placed.ordered.undergo d, ?_, ?_⟩
  · cases proper with
    | code code =>
      rw [Deed.ofCode, MemoryStore.documents_kept, if_pos rfl]
      exact Keyed.forall_insert ⟨code, ofDocument_code code, rfl⟩ placed.codes
    | case c =>
      rw [Deed.ofCase, MemoryStore.documents_kept, if_neg named.distinct]
      exact placed.codes
    | told n => exact placed.codes
  · cases proper with
    | code code =>
      rw [Deed.ofCode, MemoryStore.documents_kept, if_neg named.distinct.symm]
      exact placed.cases
    | case c =>
      rw [Deed.ofCase, MemoryStore.documents_kept, if_pos rfl]
      exact Keyed.forall_insert ⟨c, ofDocument_case c, rfl⟩ placed.cases
    | told n => exact placed.cases

theorem Placed.after (named : r.WellNamed) (placed : r.Placed s)
    (proper : ∀ d ∈ ds, d.Proper r) : r.Placed (s.after ds) := by
  induction ds generalizing s with
  | nil => exact placed
  | cons d rest ih =>
    exact ih (placed.undergo named (proper d List.mem_cons_self))
      fun e he => proper e (List.mem_cons_of_mem _ he)

end Registry
/-! An example: two households at one address, and a code for a person of a household. -/
namespace Sample

def registry : Registry := ⟨.standard, ⟨"uac", "case"⟩⟩

def code : AccessCode := .issued "code" "questionnaire" .individual .household

def household (id : String) : CollectionCase where
  id
  ref := none
  survey := none
  exerciseId := none
  address := ⟨none, none, none, none, none, none, "100", none, none, none⟩
  type := .household
  addressInvalid := false
  created := none
  handDelivery := false
  capacity := none

def store : MemoryStore :=
  .after .empty [.ofCode registry code, .ofCase registry (household "a"),
    .ofCase registry (household "b")]

theorem wellNamed : registry.WellNamed := ⟨rfl, rfl, by decide⟩

theorem placed : registry.Placed store := by
  refine (Registry.placed_empty _).after wellNamed fun d hd => ?_
  simp only [List.mem_cons, List.not_mem_nil, or_false] at hd
  rcases hd with rfl | rfl | rfl
  · exact .code _
  · exact .case _
  · exact .case _

theorem codeIn_store : registry.codeIn store "code" = some code := by decide +kernel

theorem casesIn_store : registry.casesIn store "100" = [household "a", household "b"] := by
  decide +kernel

end Sample
end CensusLink
