import CensusLink.Proofs.Registry.Placed

/-!
The cases that deeds keep. As long as each of them has an id that no case had before, the cases at
an address after some deeds are those that stood there and those that the deeds kept for it, and
none is lost or replaced.
-/
namespace CensusLink

/-- The case that a deed keeps. -/
def Deed.case? (r : Registry) : Deed → Option CollectionCase
  | .kept schema _ d => if schema = r.schemas.case then d.read? else none
  | .removed _ _ => none
  | .told _ => none

/-- The cases that deeds keep, in their order. -/
def keptCases (r : Registry) (ds : List Deed) : List CollectionCase := ds.filterMap (Deed.case? r)

/-- Each case that is kept has an id that no case has yet. -/
def Novel (r : Registry) : MemoryStore → List Deed → Prop
  | _, [] => True
  | s, d :: ds =>
    (∀ c, d.case? r = some c → c.id ∉ (s.documents r.schemas.case).map (·.1)) ∧
      Novel r (s.undergo d) ds

variable {r : Registry} {s : MemoryStore} {ds es : List Deed}

@[simp]
theorem Deed.case?_ofCase (r : Registry) (c : CollectionCase) :
    (Deed.ofCase r c).case? r = some c := by
  simp [Deed.ofCase, Deed.case?, Registry.read?_toDocument_case]

theorem Deed.case?_ofCode (named : r.WellNamed) (code : AccessCode) :
    (Deed.ofCode r code).case? r = none := by
  simp [Deed.ofCode, Deed.case?, named.distinct]

@[simp]
theorem Deed.case?_told (r : Registry) (n : Notice) : (Deed.told n).case? r = none := rfl

@[simp]
theorem keptCases_nil (r : Registry) : keptCases r [] = [] := rfl

theorem keptCases_cons (r : Registry) (d : Deed) (ds : List Deed) :
    keptCases r (d :: ds) = (d.case? r).toList ++ keptCases r ds := by
  cases kept : d.case? r with
  | none => exact List.filterMap_cons_none kept
  | some c => exact List.filterMap_cons_some kept

@[simp]
theorem keptCases_append (r : Registry) (ds es : List Deed) :
    keptCases r (ds ++ es) = keptCases r ds ++ keptCases r es := List.filterMap_append

theorem mem_keptCases_of_ofCase {c : CollectionCase} (h : Deed.ofCase r c ∈ ds) :
    c ∈ keptCases r ds := List.mem_filterMap.2 ⟨_, h, Deed.case?_ofCase r c⟩

theorem novel_append_iff : Novel r s (ds ++ es) ↔ Novel r s ds ∧ Novel r (s.after ds) es := by
  induction ds generalizing s with
  | nil => exact (Iff.of_eq (true_and _)).symm
  | cons d rest ih => exact (and_congr_right fun _ => ih).trans and_assoc.symm

/-- Deeds that keep no case keep none that is not new. -/
theorem novel_of_keptCases_eq_nil (none : keptCases r ds = []) : Novel r s ds := by
  induction ds generalizing s with
  | nil => trivial
  | cons d rest ih =>
    obtain ⟨here, later⟩ := List.forall_mem_cons.1 (List.filterMap_eq_nil_iff.1 none)
    exact ⟨fun c kept => by simp [here] at kept, ih (List.filterMap_eq_nil_iff.2 later)⟩

namespace Registry

/-- New cases stand next to those that stood at their address, and nowhere else. -/
theorem casesIn_after_perm (named : r.WellNamed) (proper : ∀ d ∈ ds, d.Proper r)
    (novel : Novel r s ds) (uprn : String) :
    (r.casesIn (s.after ds) uprn).Perm
      ((keptCases r ds).filter (·.uprn = uprn) ++ r.casesIn s uprn) := by
  induction ds generalizing s with
  | nil => exact .refl _
  | cons d rest ih =>
    obtain ⟨here, later⟩ := List.forall_mem_cons.1 proper
    refine (ih later novel.2).trans ?_
    rw [keptCases_cons]
    cases here with
    | code code =>
      rw [casesIn_ofCode named, Deed.case?_ofCode named]
      exact .refl _
    | told n => exact .refl _
    | case c =>
      have grown := casesIn_ofCase_perm (novel.1 c (Deed.case?_ofCase r c)) uprn
      refine (grown.append_left _).trans ?_
      rw [Deed.case?_ofCase, Option.toList_some, List.singleton_append, List.filter_cons]
      by_cases same : c.uprn = uprn
      · rw [if_pos same, if_pos (decide_eq_true same)]
        exact List.perm_middle
      · rw [if_neg same, if_neg (by simpa using same)]

/-- The documents of new cases are kept next to those of all others. -/
theorem documents_after_perm (named : r.WellNamed) (proper : ∀ d ∈ ds, d.Proper r)
    (novel : Novel r s ds) :
    ((s.after ds).documents r.schemas.case).Perm
      ((keptCases r ds).map (fun c => (c.id, Wire.toDocument c)) ++
        s.documents r.schemas.case) := by
  induction ds generalizing s with
  | nil => exact .refl _
  | cons d rest ih =>
    obtain ⟨here, later⟩ := List.forall_mem_cons.1 proper
    refine (ih later novel.2).trans ?_
    rw [keptCases_cons]
    cases here with
    | code code =>
      rw [Deed.case?_ofCode named, Deed.ofCode, MemoryStore.documents_kept,
        if_neg named.distinct.symm]
      exact .refl _
    | told n => exact .refl _
    | case c =>
      have grown := Keyed.insert_perm (a := Wire.toDocument c) (novel.1 c (Deed.case?_ofCase r c))
      rw [Deed.case?_ofCase, Deed.ofCase, MemoryStore.documents_kept, if_pos rfl]
      exact (grown.append_left _).trans List.perm_middle

/-- New cases have ids that differ from each other and from all that were kept before. -/
theorem nodup_ids_keptCases (named : r.WellNamed) (proper : ∀ d ∈ ds, d.Proper r)
    (novel : Novel r s ds) : ((keptCases r ds).map (·.id)).Nodup ∧
      ∀ c ∈ keptCases r ds, c.id ∉ (s.documents r.schemas.case).map (·.1) := by
  induction ds generalizing s with
  | nil => exact ⟨.nil, List.forall_mem_nil _⟩
  | cons d rest ih =>
    obtain ⟨here, later⟩ := List.forall_mem_cons.1 proper
    obtain ⟨ids, apart⟩ := ih later novel.2
    rw [keptCases_cons]
    cases here with
    | code code =>
      rw [Deed.ofCode, MemoryStore.documents_kept, if_neg named.distinct.symm] at apart
      rw [Deed.case?_ofCode named]
      exact ⟨ids, apart⟩
    | told n =>
      rw [Deed.case?_told]
      exact ⟨ids, apart⟩
    | case c =>
      have absent := novel.1 c (Deed.case?_ofCase r c)
      have grown := (Keyed.insert_perm (a := Wire.toDocument c) absent).map Prod.fst
      rw [Deed.ofCase, MemoryStore.documents_kept, if_pos rfl] at apart
      have apart (e) (he : e ∈ keptCases r rest) :
          e.id ∉ c.id :: (s.documents r.schemas.case).map (·.1) :=
        fun member => apart e he (grown.symm.subset member)
      rw [Deed.case?_ofCase, Option.toList_some, List.singleton_append, List.map_cons]
      refine ⟨List.nodup_cons.2 ⟨fun member => ?_, ids⟩, List.forall_mem_cons.2 ⟨absent, ?_⟩⟩
      · obtain ⟨e, he, same⟩ := List.mem_map.1 member
        exact apart e he (same ▸ List.mem_cons_self)
      · exact fun e he member => apart e he (List.mem_cons_of_mem _ member)

/-- Where no case stood there are new cases only, under different ids. -/
theorem casesIn_after_of_vacant (named : r.WellNamed) (proper : ∀ d ∈ ds, d.Proper r)
    (novel : Novel r s ds) {uprn : String} (vacant : r.casesIn s uprn = []) :
    (r.casesIn (s.after ds) uprn).Perm ((keptCases r ds).filter (·.uprn = uprn)) ∧
      ((r.casesIn (s.after ds) uprn).map (·.id)).Nodup := by
  have grown := r.casesIn_after_perm named proper novel uprn
  rw [vacant, List.append_nil] at grown
  have ids := (r.nodup_ids_keptCases named proper novel).1
  exact ⟨grown, (grown.map _).nodup_iff.2 (ids.sublist (List.filter_sublist.map _))⟩

/-- No document of a case is lost or replaced by new ones. -/
theorem lookup_after (named : r.WellNamed) (proper : ∀ d ∈ ds, d.Proper r) (novel : Novel r s ds)
    {key : String} {d : Document} (found : (s.documents r.schemas.case).lookup key = some d) :
    ((s.after ds).documents r.schemas.case).lookup key = some d := by
  induction ds generalizing s with
  | nil => exact found
  | cons deed rest ih =>
    obtain ⟨here, later⟩ := List.forall_mem_cons.1 proper
    refine ih later novel.2 ?_
    cases here with
    | code code =>
      rw [Deed.ofCode, MemoryStore.documents_kept, if_neg named.distinct.symm]
      exact found
    | told n => exact found
    | case c =>
      have other : key ≠ c.id := by
        rintro rfl
        obtain ⟨before, after, split, _⟩ := List.lookup_eq_some_iff.1 found
        exact novel.1 c (Deed.case?_ofCase r c) (by simp [split])
      rw [Deed.ofCase, MemoryStore.documents_kept, if_pos rfl, Keyed.lookup_insert, if_neg other]
      exact found

end Registry
end CensusLink
