import CensusLink.CollectionCase
import Mathlib.Data.List.Nodup

/-!
The latest of some cases. Cases are ordered by the time of their creation, of which none comes
before every time, and then by id. No case is later than the latest one, and among cases of
different ids it is later than every other.
-/
namespace CensusLink.CollectionCase

/-- Created after another case, or together with it under a later id. -/
def Later (c d : CollectionCase) : Prop :=
  d.createdKey < c.createdKey ∨ d.createdKey = c.createdKey ∧ d.id < c.id

theorem notLaterThan_iff {c d : CollectionCase} :
    c.notLaterThan d ↔ c.createdKey < d.createdKey ∨ c.createdKey = d.createdKey ∧ c.id ≤ d.id := by
  simp [notLaterThan]

theorem notLaterThan_refl (c : CollectionCase) : c.notLaterThan c :=
  notLaterThan_iff.2 (.inr ⟨rfl, String.le_refl _⟩)

theorem notLaterThan_trans {b c d : CollectionCase} (hb : b.notLaterThan c)
    (hc : c.notLaterThan d) : b.notLaterThan d := by
  rw [notLaterThan_iff] at *
  rcases hb with lt | ⟨eq, le⟩ <;> rcases hc with lt' | ⟨eq', le'⟩
  · exact .inl (List.lt_trans lt lt')
  · exact .inl (eq' ▸ lt)
  · exact .inl (eq ▸ lt')
  · exact .inr ⟨eq.trans eq', String.le_trans le le'⟩

theorem notLaterThan_total {c d : CollectionCase} (h : c.notLaterThan d = false) :
    d.notLaterThan c := by
  rw [← Bool.not_eq_true, notLaterThan_iff, not_or] at h
  rw [notLaterThan_iff]
  by_cases lt : d.createdKey < c.createdKey
  · exact .inl lt
  · have eq : c.createdKey = d.createdKey :=
      List.le_antisymm (List.not_lt.1 lt) (List.not_lt.1 h.1)
    have later : d.id < c.id := String.not_le.1 fun le => h.2 ⟨eq, le⟩
    exact .inr ⟨eq.symm, String.not_lt.1 (String.lt_asymm later)⟩

theorem later_of_notLaterThan {c d : CollectionCase} (h : d.notLaterThan c) (ne : d.id ≠ c.id) :
    c.Later d := by
  rcases notLaterThan_iff.1 h with lt | ⟨eq, le⟩
  · exact .inl lt
  · refine .inr ⟨eq, String.not_le.1 fun ge => ne (String.le_antisymm le ge)⟩

theorem not_notLaterThan_of_later {c d : CollectionCase} (h : c.Later d) :
    c.notLaterThan d = false := by
  rw [← Bool.not_eq_true, notLaterThan_iff]
  rintro (lt | ⟨eq, le⟩) <;> rcases h with lt' | ⟨eq', lt'⟩
  · exact List.lt_irrefl _ (List.lt_trans lt lt')
  · exact List.lt_irrefl _ (eq' ▸ lt)
  · exact List.lt_irrefl _ (eq ▸ lt')
  · exact String.not_le.2 lt' le

/-- Going through cases, one of them is kept that no case before it or among them is later than. -/
theorem foldl_latest (best : CollectionCase) (cases : List CollectionCase) :
    let last := cases.foldl (fun best d => if best.notLaterThan d then d else best) best
    last ∈ best :: cases ∧ ∀ d ∈ best :: cases, d.notLaterThan last := by
  induction cases generalizing best with
  | nil => simp [notLaterThan_refl]
  | cons c rest ih =>
    by_cases le : best.notLaterThan c
    · obtain ⟨member, latest⟩ := ih c
      simp only [List.foldl_cons, if_pos le]
      refine ⟨List.mem_cons_of_mem _ member, fun d hd => ?_⟩
      rcases List.mem_cons.1 hd with rfl | hd
      · exact notLaterThan_trans le (latest c List.mem_cons_self)
      · exact latest d hd
    · obtain ⟨member, latest⟩ := ih best
      simp only [List.foldl_cons, if_neg le]
      refine ⟨?_, fun d hd => ?_⟩
      · rcases List.mem_cons.1 member with eq | member
        · exact List.mem_cons.2 (.inl eq)
        · exact List.mem_cons_of_mem _ (List.mem_cons_of_mem _ member)
      · rcases List.mem_cons.1 hd with rfl | hd
        · exact latest d List.mem_cons_self
        rcases List.mem_cons.1 hd with rfl | hd
        · exact notLaterThan_trans (notLaterThan_total (by simpa using le))
            (latest best List.mem_cons_self)
        · exact latest d (List.mem_cons_of_mem _ hd)

theorem latest?_eq_none_iff {cases : List CollectionCase} : latest? cases = none ↔ cases = [] := by
  cases cases <;> simp [latest?]

/-- Among cases of different ids the latest one is later than every other. -/
theorem latest?_eq_some_iff {cases : List CollectionCase} (ids : (cases.map (·.id)).Nodup)
    {c : CollectionCase} :
    latest? cases = some c ↔ c ∈ cases ∧ ∀ d ∈ cases, d ≠ c → c.Later d := by
  have apart : ∀ a ∈ cases, ∀ b ∈ cases, a ≠ b → a.id ≠ b.id := fun a ha b hb ne eq =>
    ne (List.inj_on_of_nodup_map ids ha hb eq)
  cases cases with
  | nil => simp [latest?]
  | cons best rest =>
    obtain ⟨member, latest⟩ := foldl_latest best rest
    rw [latest?, Option.some.injEq]
    constructor
    · rintro rfl
      exact ⟨member, fun d hd ne => later_of_notLaterThan (latest d hd) (apart d hd _ member ne)⟩
    · rintro ⟨hc, later⟩
      by_contra ne
      have le := latest c hc
      rw [not_notLaterThan_of_later (later _ member ne)] at le
      cases le

/-- Which case is the latest does not depend on the order of the cases. -/
theorem latest?_eq_of_perm {cases others : List CollectionCase}
    (ids : (cases.map (·.id)).Nodup) (same : cases.Perm others) :
    latest? cases = latest? others := by
  have ids' : (others.map (·.id)).Nodup := (same.map _).nodup_iff.1 ids
  refine Option.ext fun c => ?_
  rw [latest?_eq_some_iff ids, latest?_eq_some_iff ids', same.mem_iff]
  exact and_congr_right fun _ => forall_congr' fun d => by rw [same.mem_iff]

theorem latestEligible?_eq_of_perm {cases others : List CollectionCase}
    (ids : (cases.map (·.id)).Nodup) (same : cases.Perm others) :
    latestEligible? cases = latestEligible? others :=
  latest?_eq_of_perm (ids.sublist (List.filter_sublist.map _)) (same.filter _)

end CensusLink.CollectionCase
