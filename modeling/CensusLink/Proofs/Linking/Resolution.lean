import CensusLink.Linking.Link
import CensusLink.Proofs.Latest

/-!
What the cases at an address come to. The case that stands for an address is its only one, or the
latest household of several. Which case that is depends on the cases alone, not on their order, and
a household that stands for its address still does when an individual case comes to stand there.
-/
namespace CensusLink

/-- A case stands for the address at which these cases are. -/
inductive Stands (cases : List CollectionCase) (c : CollectionCase) : Prop
  | only (alone : cases = [c])
  | latest (several : 2 ≤ cases.length) (member : c ∈ cases) (household : c.type = .household)
    (later : ∀ d ∈ cases, d.type = .household → d ≠ c → c.Later d)

namespace Stands

variable {cases others : List CollectionCase} {c d : CollectionCase}

theorem mem (h : Stands cases c) : c ∈ cases := by
  cases h with
  | only alone => simp [alone]
  | latest _ member _ _ => exact member

theorem perm (same : cases.Perm others) (h : Stands cases c) : Stands others c := by
  cases h with
  | only alone => exact .only (List.singleton_perm.1 (alone ▸ same)).symm
  | latest several member household later =>
    exact .latest (same.length_eq ▸ several) (same.mem_iff.1 member) household
      fun d hd => later d (same.mem_iff.2 hd)

/-- Next to an individual case the household stands for its address as before. -/
theorem cons_individual (h : Stands cases c) (household : c.type = .household)
    (individual : d.type = .individual) : Stands (d :: cases) c := by
  have other (e : CollectionCase) (he : e ∈ d :: cases) (type : e.type = .household) :
      e ∈ cases := by
    rcases List.mem_cons.1 he with rfl | he
    · rw [individual] at type
      cases type
    · exact he
  refine .latest ?_ (List.mem_cons_of_mem _ h.mem) household fun e he type ne => ?_
  · have pos := List.length_pos_of_mem h.mem
    rw [List.length_cons]
    omega
  · cases h with
    | only alone =>
      have member := other e he type
      rw [alone] at member
      exact absurd (List.mem_singleton.1 member) ne
    | latest _ _ _ later => exact later e (other e he type) type ne

end Stands

namespace Link

variable {cases : List CollectionCase}

theorem resolve_eq_vacant_iff : resolve cases = .vacant ↔ cases = [] := by
  match cases with
  | [] => simp [resolve]
  | [c] => simp [resolve]
  | c :: d :: rest =>
    simp only [resolve]
    split <;> simp

theorem resolve_of_several (several : 2 ≤ cases.length) :
    resolve cases = match CollectionCase.latest? (cases.filter isHousehold) with
      | some c => .settled c
      | none => .unclear cases.length := by
  match cases with
  | [] => simp at several
  | [c] => simp at several
  | c :: d :: rest => rfl

theorem nodup_ids_filter (ids : (cases.map (·.id)).Nodup) (p : CollectionCase → Bool) :
    ((cases.filter p).map (·.id)).Nodup := ids.sublist (List.filter_sublist.map _)

theorem mem_filter_isHousehold {c : CollectionCase} :
    c ∈ cases.filter isHousehold ↔ c ∈ cases ∧ c.type = .household := by
  simp [isHousehold]

/-- A link comes to the case that stands for the address. -/
theorem resolve_eq_settled_iff (ids : (cases.map (·.id)).Nodup) {c : CollectionCase} :
    resolve cases = .settled c ↔ Stands cases c := by
  by_cases several : 2 ≤ cases.length
  · have latest := @CollectionCase.latest?_eq_some_iff _ (nodup_ids_filter ids isHousehold) c
    rw [resolve_of_several several]
    constructor
    · intro settled
      split at settled
      next found =>
        cases settled
        obtain ⟨member, later⟩ := latest.1 found
        obtain ⟨member, household⟩ := mem_filter_isHousehold.1 member
        exact .latest several member household fun d hd type =>
          later d (mem_filter_isHousehold.2 ⟨hd, type⟩)
      next => cases settled
    · intro stands
      cases stands with
      | only alone => simp [alone] at several
      | latest _ member household later =>
        have found := latest.2 ⟨mem_filter_isHousehold.2 ⟨member, household⟩, fun d hd =>
          later d (mem_filter_isHousehold.1 hd).1 (mem_filter_isHousehold.1 hd).2⟩
        rw [found]
  · match cases, several with
    | [], _ =>
      constructor
      · intro settled
        cases settled
      · intro stands
        cases stands.mem
    | [d], _ =>
      constructor
      · intro settled
        cases settled
        exact .only rfl
      · intro stands
        rw [List.mem_singleton.1 stands.mem]
        rfl
    | _ :: _ :: _, few => simp at few

/-- At most one case stands for an address. -/
theorem stands_unique (ids : (cases.map (·.id)).Nodup) {c d : CollectionCase} (h : Stands cases c)
    (h' : Stands cases d) : c = d := by
  have settled := (resolve_eq_settled_iff ids).2 h
  rw [(resolve_eq_settled_iff ids).2 h'] at settled
  exact (Resolution.settled.inj settled).symm

/-- Of several cases none stands for the address if none is a household. -/
theorem resolve_eq_unclear_iff {found : Nat} :
    resolve cases = .unclear found ↔
      found = cases.length ∧ 2 ≤ found ∧ ∀ c ∈ cases, c.type ≠ .household := by
  by_cases several : 2 ≤ cases.length
  · rw [resolve_of_several several]
    have absent : CollectionCase.latest? (cases.filter isHousehold) = none ↔
        ∀ c ∈ cases, c.type ≠ .household := by
      rw [CollectionCase.latest?_eq_none_iff, List.filter_eq_nil_iff]
      simp [isHousehold]
    split
    next c found' =>
      constructor
      · intro unclear
        cases unclear
      · rintro ⟨_, _, none⟩
        rw [absent.2 none] at found'
        cases found'
    next none =>
      constructor
      · intro unclear
        cases unclear
        exact ⟨rfl, several, absent.1 none⟩
      · rintro ⟨rfl, _, _⟩
        rfl
  · constructor
    · intro unclear
      match cases, several with
      | [], _ => cases unclear
      | [d], _ => cases unclear
      | _ :: _ :: _, few => simp at few
    · rintro ⟨rfl, two, _⟩
      exact absurd two several

theorem needsIndividual_iff {code : AccessCode} {c : CollectionCase} :
    needsIndividual code c = true ↔ code.form = .individual ∧ c.type = .household := by
  simp [needsIndividual]

/-- A code is linked to an individual case at an address if one there has the id that it is linked
to. -/
theorem linkedIndividual?_eq_none_iff {code : AccessCode} :
    linkedIndividual? code cases = none ↔
      ∀ d ∈ cases, d.type = .individual → code.caseId ≠ some d.id := by
  rw [linkedIndividual?]
  cases code.caseId with
  | none => simp
  | some id =>
    rw [Option.bind_some, List.find?_eq_none]
    refine forall₂_congr fun d _ => ?_
    simp only [CollectionCase.isIndividual, Bool.and_eq_true, beq_iff_eq, not_and, ne_eq,
      Option.some.injEq]
    exact ⟨fun h type eq => h eq.symm type, fun h eq type => h type eq.symm⟩

theorem of_linkedIndividual? {code : AccessCode} {c : CollectionCase}
    (h : linkedIndividual? code cases = some c) :
    c ∈ cases ∧ c.type = .individual ∧ code.caseId = some c.id := by
  obtain ⟨id, linked, found⟩ := Option.bind_eq_some_iff.1 h
  have member := List.mem_of_find?_eq_some found
  have fits := List.find?_some found
  simp only [CollectionCase.isIndividual, Bool.and_eq_true, beq_iff_eq] at fits
  exact ⟨member, fits.2, by rw [linked, fits.1]⟩

/-- What cases come to does not depend on their order. -/
theorem resolve_eq_of_perm {others : List CollectionCase} (ids : (cases.map (·.id)).Nodup)
    (same : cases.Perm others) : resolve cases = resolve others := by
  cases result : resolve cases with
  | vacant =>
    rw [resolve_eq_vacant_iff.1 result] at same
    exact (resolve_eq_vacant_iff.2 same.nil_eq.symm).symm
  | settled c =>
    have ids' : (others.map (·.id)).Nodup := (same.map _).nodup_iff.1 ids
    have stands := ((resolve_eq_settled_iff ids).1 result).perm same
    exact ((resolve_eq_settled_iff ids').2 stands).symm
  | unclear found =>
    obtain ⟨count, several, none⟩ := resolve_eq_unclear_iff.1 result
    refine (resolve_eq_unclear_iff.2 ⟨count.trans same.length_eq, several, fun c hc => ?_⟩).symm
    exact none c (same.mem_iff.2 hc)

/-- Nor does the individual case that a code is linked to. -/
theorem linkedIndividual?_eq_of_perm {others : List CollectionCase}
    (ids : (cases.map (·.id)).Nodup) (same : cases.Perm others) (code : AccessCode) :
    linkedIndividual? code cases = linkedIndividual? code others := by
  cases found : linkedIndividual? code cases with
  | none =>
    have none := linkedIndividual?_eq_none_iff.1 found
    exact (linkedIndividual?_eq_none_iff.2 fun d hd => none d (same.mem_iff.2 hd)).symm
  | some c =>
    obtain ⟨member, individual, linked⟩ := of_linkedIndividual? found
    cases found' : linkedIndividual? code others with
    | none => exact absurd linked (linkedIndividual?_eq_none_iff.1 found' c
        (same.mem_iff.1 member) individual)
    | some d =>
      obtain ⟨member', _, linked'⟩ := of_linkedIndividual? found'
      have id : c.id = d.id := Option.some.inj (linked.symm.trans linked')
      exact congrArg some (List.inj_on_of_nodup_map ids member (same.mem_iff.2 member') id)

end Link
end CensusLink
