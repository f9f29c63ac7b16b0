import CensusLink.Proofs.Linking.Footprint
import CensusLink.Proofs.Linking.Opening
import CensusLink.Proofs.Services.InStep

/-!
Two links at the same time, for different codes and different addresses. Neither reads what the
other keeps, and what they keep may be kept in any order. So each of them does exactly what it would
do alone, and the store is left as if one of them had begun only after the other was done.
-/
namespace CensusLink

/-- Deeds within one code and address make no difference to what is read of others. -/
theorem Deed.Within.answer_after {r : Registry} (named : r.WellNamed) {s : MemoryStore}
    {hash hash' uprn uprn' : String} {ids : List Uuid} {ds : List Deed}
    (within : ∀ d ∈ ds, d.Within r hash uprn ids) (novel : Novel r s ds) (other : hash' ≠ hash)
    (elsewhere : uprn' ≠ uprn) {c : StoreCall}
    (reads : c = .retrieve r.schemas.accessCode hash' ∨
      c = .search r.schemas.case Registry.uprnPath uprn') :
    ((s.after ds).step c).1 = (s.step c).1 := by
  rw [MemoryStore.step_fst, MemoryStore.step_fst]
  rcases reads with rfl | rfl
  · simp only [MemoryStore.apply, lookup_after named within other]
  · simp only [MemoryStore.apply, matching_after named within novel elsewhere]

namespace Link

variable {r : Registry} {settings : LinkSettings} {s s' : MemoryStore} {hash : Bool → String}
  {request : Bool → LinkRequest} {t : JointTrace Bool} {o : Bool → Except Fault CodeView}

/-- Two links for different codes and addresses, of which no call fails, with identifiers that are
new and differ from each other. -/
structure Apart (r : Registry) (settings : LinkSettings) (s : MemoryStore) (hash : Bool → String)
    (request : Bool → LinkRequest) (t : JointTrace Bool) (o : Bool → Except Fault CodeView)
    (s' : MemoryStore) : Prop where
  named : r.WellNamed
  placed : r.Placed s
  codes : hash true ≠ hash false
  places : (request true).place ≠ (request false).place
  ids : t.whole.ids.Nodup
  fresh : ∀ id ∈ t.whole.ids, r.Fresh s id
  run : RunTogether Conditions.calm.Allows
    (fun i => (link r settings (hash i) (request i)).run) s t o s'

namespace Apart

theorem other_code (a : Apart r settings s hash request t o s') (i : Bool) :
    hash i ≠ hash (!i) := by
  cases i with
  | true => exact a.codes
  | false => exact a.codes.symm

theorem other_place (a : Apart r settings s hash request t o s') (i : Bool) :
    (request i).place ≠ (request (!i)).place := by
  cases i with
  | true => exact a.places
  | false => exact a.places.symm

theorem follows (a : Apart r settings s hash request t o s') (i : Bool) :
    Follows r settings (hash i) (request i) (t.share i) (o i) := runs_link_iff.1 (a.run.runs i)

theorem idle_or_succeeds (a : Apart r settings s hash request t o s') (i : Bool) :
    (t.share i).deeds = [] ∨ ∃ l, Succeeds r settings (hash i) (request i) l (t.share i) :=
  (a.follows i).idle_or_succeeds a.named (a.run.not_mem_share i)

theorem proper (a : Apart r settings s hash request t o s') : ∀ d ∈ t.whole.deeds, d.Proper r := by
  have each (i : Bool) : ∀ d ∈ (t.share i).deeds, d.Proper r :=
    (a.follows i).proper a.named (a.run.not_mem_share i)
  intro d hd
  rcases List.mem_append.1 ((t.deeds_perm true).subset hd) with hd | hd
  · exact each true d hd
  · exact each false d hd

theorem informed (a : Apart r settings s hash request t o s') (i : Bool) :
    Informed r (hash i) (request i) (t.share i) :=
  (informed_of_carries a.named a.placed a.proper a.run.carries).mono fun _ =>
    JointTrace.mem_whole_of_mem_share

theorem within (a : Apart r settings s hash request t o s') (i : Bool) :
    ∀ d ∈ (t.share i).deeds, d.Within r (hash i) (request i).place (t.share i).ids :=
  (a.follows i).within a.named (a.run.not_mem_share i) (a.informed i)

theorem ids_share (a : Apart r settings s hash request t o s') (i : Bool) :
    (t.share i).ids.Nodup ∧ ∀ id ∈ (t.share i).ids, id ∉ (t.share (!i)).ids := by
  have all : (t.whole.ids).Perm ((t.share i).ids ++ (t.share (!i)).ids) := by
    rw [← Trace.ids_append]
    exact (t.whole_perm i).filterMap _
  obtain ⟨own, _, apart⟩ := List.nodup_append.1 (all.nodup_iff.1 a.ids)
  exact ⟨own, fun id mine other => apart id mine id other rfl⟩

theorem commute (a : Apart r settings s hash request t o s') (i : Bool) :
    ∀ d ∈ (t.share i).deeds, ∀ e ∈ (t.share (!i)).deeds, d.Commutes e :=
  fun d hd e he => (a.within i d hd).commutes a.named (a.other_code i) (a.ids_share i).2
    (a.within (!i) e he)

/-- A link keeps new cases only. -/
theorem novel (a : Apart r settings s hash request t o s') (i : Bool) :
    Novel r s (t.share i).deeds := by
  rcases a.idle_or_succeeds i with idle | ⟨l, succeeds⟩
  · rw [idle]
    trivial
  · obtain ⟨_, ends⟩ := succeeds.completes .empty
    refine novel_of_nodup_ids a.named ends.proper
      (succeeds.nodup_ids_keptCases a.named (a.informed i) (a.ids_share i).1) fun c kept => ?_
    obtain ⟨id, drawn, eq⟩ := Deed.Within.exists_id a.named (a.within i) kept
    rw [eq]
    refine a.fresh id ?_
    obtain ⟨x, member, here⟩ := List.mem_filterMap.1 drawn
    exact List.mem_filterMap.2 ⟨x, JointTrace.mem_whole_of_mem_share member, here⟩

/-- Whatever the other link has done, a link is told what it is told at the beginning. -/
theorem answer_eq (a : Apart r settings s hash request t o s') {i : Bool} {c : StoreCall}
    (reads : c = .retrieve r.schemas.accessCode (hash i) ∨
      c = .search r.schemas.case Registry.uprnPath (request i).place) {done more : List Deed}
    (others : (t.share (!i)).deeds = done ++ more) :
    ((s.after done).step c).1 = (s.step c).1 := by
  have within := a.within (!i)
  have novel := a.novel (!i)
  rw [others] at within novel
  exact Deed.Within.answer_after a.named (fun d hd => within d (List.mem_append_left _ hd))
    (novel_append_iff.1 novel).1 (a.other_code i) (a.other_place i) reads

/-- A link runs as it did wherever it is told what it is told at the beginning. -/
theorem runsOn (a : Apart r settings s hash request t o s') (i : Bool) (base : MemoryStore)
    (told : ∀ c, c = .retrieve r.schemas.accessCode (hash i) ∨
      c = .search r.schemas.case Registry.uprnPath (request i).place →
        (base.step c).1 = (s.step c).1) :
    Program.RunsOn Conditions.calm.Allows (link r settings (hash i) (request i)).run base
      (t.share i) (o i) (base.after (t.share i).deeds) := by
  refine runsOn_share (a.run.runs i) a.run.carries base fun t₁ c out t₂ split idle reads => ?_
  have others : t.share (!i) = t₁.share (!i) ++ t₂.share (!i) := by
    rw [split, JointTrace.share_append, JointTrace.share_cons_of_ne (by simp)]
  rw [JointTrace.after_whole_of_idle idle, told c reads,
    a.answer_eq reads (by rw [others, Trace.deeds_append])]

theorem alone (a : Apart r settings s hash request t o s') (i : Bool) :
    Program.RunsOn Conditions.calm.Allows (link r settings (hash i) (request i)).run s
      (t.share i) (o i) (s.after (t.share i).deeds) := a.runsOn i s fun _ _ => rfl

theorem after_other (a : Apart r settings s hash request t o s') (i : Bool) :
    Program.RunsOn Conditions.calm.Allows (link r settings (hash (!i)) (request (!i))).run
      (s.after (t.share i).deeds) (t.share (!i)) (o (!i)) s' := by
  have left : s' = (s.after (t.share i).deeds).after (t.share (!i)).deeds := by
    rw [a.run.carries.eq_after, JointTrace.after_whole i (a.commute i)]
  rw [left]
  have all : (t.share (!!i)).deeds = (t.share i).deeds ++ [] := by
    rw [Bool.not_not, List.append_nil]
  exact a.runsOn (!i) _ fun c reads => a.answer_eq reads all

end Apart

/-- Links for different codes and addresses do not interfere: run together they leave the store that
they leave one after the other, in either order, and each comes to the result and publishes the
notices that it comes to alone, given the same identifiers and times. -/
theorem links_apart_are_independent (named : r.WellNamed) (placed : r.Placed s)
    (codes : hash true ≠ hash false) (places : (request true).place ≠ (request false).place)
    (ids : t.whole.ids.Nodup) (fresh : ∀ id ∈ t.whole.ids, r.Fresh s id)
    (run : RunTogether Conditions.calm.Allows
      (fun i => (link r settings (hash i) (request i)).run) s t o s') (i : Bool) :
    InTurn Conditions.calm.Allows (fun i => (link r settings (hash i) (request i)).run) i s
      (fun j => t.share j) o s' ∧
    (∀ u b s'', InTurn Conditions.calm.Allows
        (fun i => (link r settings (hash i) (request i)).run) i s u b s'' →
      (∀ j, (u j).drawn = (t.share j).drawn) →
        b = o ∧ (∀ j, (u j).notices = (t.share j).notices) ∧ s'' = s') ∧
    ∀ u b s₁, Program.RunsOn Conditions.calm.Allows
        (link r settings (hash i) (request i)).run s u b s₁ → u.drawn = (t.share i).drawn →
      b = o i ∧ u.notices = (t.share i).notices := by
  have a : Apart r settings s hash request t o s' :=
    ⟨named, placed, codes, places, ids, fresh, run⟩
  have heedless (j : Bool) : (link r settings (hash j) (request j)).run.Heedless :=
    (inStep_link settings (fun _ keeps => keeps) (hash j) (request j)).orderly.heedless
  have inTurn : InTurn Conditions.calm.Allows
      (fun i => (link r settings (hash i) (request i)).run) i s (fun j => t.share j) o s' :=
    ⟨_, a.alone i, a.after_other i⟩
  refine ⟨inTurn, fun u b s'' other drawn => inTurn.unique certain_calm heedless other drawn, ?_⟩
  intro u b s₁ first drawn
  obtain ⟨result, _, effects⟩ := (heedless i).unique certain_calm first (a.alone i) drawn
  exact ⟨result, (Trace.calls_eq_of_effects effects).2⟩

end Link
/-! An example: two codes are linked at two addresses where no case stands. Both links search before
either of them writes. -/
namespace Sample

open Link

def abreast : JointTrace Bool :=
  .solo true ((opening true).inquiry registry) ++ .solo false ((opening false).inquiry registry) ++
    (.solo true ((opening true).pursuit registry) ++ .solo false ((opening false).pursuit registry))

def opened : MemoryStore :=
  (unoccupied.after ((opening true).pursuit registry).deeds).after
    ((opening false).pursuit registry).deeds

theorem run_abreast : RunTogether Conditions.calm.Allows
    (fun i => (link registry .standard (neighbour i).hash (asking i)).run) unoccupied abreast
    (fun i => .ok (opening i).view) opened where
  runs i := by
    have share : abreast.share i =
        (opening i).inquiry registry ++ (opening i).pursuit registry := by
      cases i <;> simp [abreast, JointTrace.share_solo_self, JointTrace.share_solo_of_ne]
    exact share ▸ (opening i).runs registry
  carries := by
    have whole : abreast.whole = (opening true).inquiry registry ++
        (opening false).inquiry registry ++
          ((opening true).pursuit registry ++ (opening false).pursuit registry) := by
      simp [abreast, JointTrace.whole_solo]
    have first := carries_append_iff.2 ⟨_, carries_inquiry true, carries_inquiry false⟩
    have second := (opening true).carries_pursuit wellNamed unoccupied
    exact whole ▸ carries_append_iff.2 ⟨_, first, carries_append_iff.2
      ⟨_, second, (opening false).carries_pursuit wellNamed _⟩⟩

theorem ids_abreast : abreast.whole.ids = [drawn true, drawn false] := rfl

end Sample

namespace Link

/-- In the example each link comes to a new case, as if either of them had been first. -/
theorem links_apart_are_independent_sample :
    RunTogether Conditions.calm.Allows (fun i =>
        (link Sample.registry .standard (Sample.neighbour i).hash (Sample.asking i)).run)
      Sample.unoccupied Sample.abreast (fun i => .ok (Sample.opening i).view) Sample.opened ∧
    ∀ i, InTurn Conditions.calm.Allows (fun i =>
        (link Sample.registry .standard (Sample.neighbour i).hash (Sample.asking i)).run) i
      Sample.unoccupied (fun j => Sample.abreast.share j) (fun i => .ok (Sample.opening i).view)
      Sample.opened := by
  refine ⟨Sample.run_abreast, fun i => ?_⟩
  have ids : Sample.abreast.whole.ids.Nodup := by
    rw [Sample.ids_abreast]
    decide
  have fresh : ∀ id ∈ Sample.abreast.whole.ids, Sample.registry.Fresh Sample.unoccupied id := by
    intro id _ taken
    cases taken
  exact (links_apart_are_independent Sample.wellNamed Sample.placed_unoccupied (by decide)
    (by decide) ids fresh Sample.run_abreast i).1

end Link
end CensusLink
