import CensusLink.Proofs.Registry.Kept
import CensusLink.Proofs.Uuid.RoundTrip

/-!
Deeds for one code and one address: the code is kept under its hash, and cases at the address under
identifiers of a list. They commute with deeds for another code under other identifiers, and make no
difference to what is read for another code and another address.
-/
namespace CensusLink

theorem Uuid.text_injective {a b : Uuid} (same : a.text = b.text) : a = b := by
  have read := ofText_text a
  rw [same, ofText_text] at read
  exact (Except.ok.inj read).symm

def Exchange.id? : Exchange → Option Uuid
  | ⟨.freshId, id⟩ => some id
  | _ => none

/-- The identifiers that are drawn in a trace, in their order. -/
def Trace.ids (t : Trace) : List Uuid := t.filterMap Exchange.id?

@[simp]
theorem Trace.ids_append (t u : Trace) : Trace.ids (t ++ u) = t.ids ++ u.ids :=
  List.filterMap_append

/-- A notice, or what is kept for one code and one address, cases under identifiers of a list. -/
inductive Deed.Within (r : Registry) (hash uprn : String) (ids : List Uuid) : Deed → Prop
  | code (code : AccessCode) (mine : code.hash = hash) : Within r hash uprn ids (.ofCode r code)
  | case {c : CollectionCase} {id : Uuid} (there : c.uprn = uprn) (drawn : id ∈ ids)
      (named : c.id = id.text) : Within r hash uprn ids (.ofCase r c)
  | told (n : Notice) : Within r hash uprn ids (.told n)

namespace Deed.Within

variable {r : Registry} {hash hash' uprn uprn' : String} {ids ids' : List Uuid} {d e : Deed}
  {ds : List Deed} {s : MemoryStore}

theorem hash_eq (named : r.WellNamed) {code : AccessCode}
    (h : (Deed.ofCode r code).Within r hash uprn ids) : code.hash = hash := by
  generalize kept : Deed.ofCode r code = d at h
  cases h with
  | code code' mine => exact (Deed.kept.inj kept).2.1.trans mine
  | case _ _ _ => exact absurd (Deed.kept.inj kept).1 named.distinct
  | told n => cases kept

theorem exists_id (named : r.WellNamed) (within : ∀ d ∈ ds, d.Within r hash uprn ids)
    {c : CollectionCase} (kept : c ∈ keptCases r ds) : ∃ id ∈ ids, c.id = id.text := by
  obtain ⟨d, hd, kept⟩ := List.mem_filterMap.1 kept
  cases within d hd with
  | told n => cases kept
  | code code _ =>
    rw [Deed.case?_ofCode named] at kept
    cases kept
  | @case c' id _ drawn eq =>
    rw [Deed.case?_ofCase] at kept
    exact ⟨id, drawn, Option.some.inj kept ▸ eq⟩

/-- Deeds for different codes, which keep cases under different identifiers, commute. -/
theorem commutes (named : r.WellNamed) (codes : hash ≠ hash') (drawn : ∀ id ∈ ids, id ∉ ids')
    (hd : d.Within r hash uprn ids) (he : e.Within r hash' uprn' ids') : d.Commutes e := by
  cases hd with
  | told n => exact Deed.told_commutes n e
  | code code mine =>
    cases he with
    | told n => exact (Deed.told_commutes n _).symm
    | code code' mine' =>
      refine fun s => s.undergo_kept_comm fun _ => ?_
      rw [mine, mine']
      exact codes
    | case _ _ _ => exact fun s => s.undergo_kept_comm fun same => absurd same named.distinct
  | @case c id _ drawn₁ eq =>
    cases he with
    | told n => exact (Deed.told_commutes n _).symm
    | code code' _ => exact fun s => s.undergo_kept_comm fun same => absurd same.symm named.distinct
    | @case c' id' _ drawn₂ eq' =>
      refine fun s => s.undergo_kept_comm fun _ same => ?_
      rw [eq, eq'] at same
      exact drawn id drawn₁ (Uuid.text_injective same ▸ drawn₂)

/-- Another code is kept as it was. -/
theorem lookup_after (named : r.WellNamed) (within : ∀ d ∈ ds, d.Within r hash uprn ids)
    (other : hash' ≠ hash) : ((s.after ds).documents r.schemas.accessCode).lookup hash' =
      (s.documents r.schemas.accessCode).lookup hash' := by
  induction ds generalizing s with
  | nil => rfl
  | cons d rest ih =>
    obtain ⟨here, later⟩ := List.forall_mem_cons.1 within
    refine Eq.trans (ih later) ?_
    cases here with
    | told n => rfl
    | case _ _ _ => rw [Deed.ofCase, MemoryStore.documents_kept, if_neg named.distinct]
    | code code mine =>
      have ne : hash' ≠ code.hash := by
        rw [mine]
        exact other
      rw [Deed.ofCode, MemoryStore.documents_kept, if_pos rfl, Keyed.lookup_insert, if_neg ne]

/-- What stands at another address stands there as it did, if only new cases are kept. -/
theorem matching_after (named : r.WellNamed) (within : ∀ d ∈ ds, d.Within r hash uprn ids)
    (novel : Novel r s ds) (elsewhere : uprn' ≠ uprn) :
    MemoryStore.matching Registry.uprnPath uprn' ((s.after ds).documents r.schemas.case) =
      MemoryStore.matching Registry.uprnPath uprn' (s.documents r.schemas.case) := by
  induction ds generalizing s with
  | nil => rfl
  | cons d rest ih =>
    obtain ⟨here, later⟩ := List.forall_mem_cons.1 within
    refine Eq.trans (ih later novel.2) ?_
    cases here with
    | told n => rfl
    | code code _ =>
      rw [Deed.ofCode, MemoryStore.documents_kept, if_neg named.distinct.symm]
    | @case c _ there _ _ =>
      have fresh := novel.1 c (Deed.case?_ofCase r c)
      have apart : Query.matchesField (Wire.toDocument c).json Registry.uprnPath uprn' = false := by
        rw [CollectionCase.matches_toDocument, there]
        simpa using elsewhere.symm
      rw [Deed.ofCase, MemoryStore.documents_kept, if_pos rfl,
        MemoryStore.matching_insert fresh apart]

end Deed.Within

/-- Cases that are kept under different ids, none of which is taken, are new. -/
theorem novel_of_nodup_ids {r : Registry} (named : r.WellNamed) {s : MemoryStore}
    {ds : List Deed} (proper : ∀ d ∈ ds, d.Proper r)
    (ids : ((keptCases r ds).map (·.id)).Nodup)
    (absent : ∀ c ∈ keptCases r ds, c.id ∉ (s.documents r.schemas.case).map (·.1)) :
    Novel r s ds := by
  induction ds generalizing s with
  | nil => trivial
  | cons d rest ih =>
    obtain ⟨here, later⟩ := List.forall_mem_cons.1 proper
    rw [keptCases_cons] at ids absent
    cases here with
    | told n => exact ⟨fun c kept => by simp at kept, ih later ids absent⟩
    | code code =>
      rw [Deed.case?_ofCode named] at ids absent
      refine ⟨fun c kept => ?_, ih later ids fun c hc => ?_⟩
      · rw [Deed.case?_ofCode named] at kept
        cases kept
      · rw [Deed.ofCode, MemoryStore.documents_kept, if_neg named.distinct.symm]
        exact absent c hc
    | case c =>
      rw [Deed.case?_ofCase] at ids absent
      obtain ⟨apart, rest_ids⟩ := List.nodup_cons.1 ids
      have fresh := absent c List.mem_cons_self
      refine ⟨fun c' kept => ?_, ih later rest_ids fun c' hc' taken => ?_⟩
      · rw [Deed.case?_ofCase] at kept
        exact Option.some.inj kept ▸ fresh
      · rw [Deed.ofCase, MemoryStore.documents_kept, if_pos rfl] at taken
        rcases List.mem_cons.1 (((Keyed.insert_perm fresh).map _).subset taken) with same | taken
        · exact apart (List.mem_map.2 ⟨c', hc', same⟩)
        · exact absent c' (List.mem_cons_of_mem _ hc') taken

end CensusLink
