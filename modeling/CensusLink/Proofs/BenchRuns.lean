import CensusLink.Bench
import CensusLink.Proofs.Store.Deeds

/-!
The bench as a host. Whatever the bench carries out on its store in memory, with any calls planned
to fail, is a run on that store, so what is shown of runs holds of the bench.
-/
namespace CensusLink

/-- Any call may fail, and any identifier may be drawn. -/
def Conditions.anything : Conditions := ⟨fun _ => True, fun _ _ => True⟩

namespace Bench

/-- The bench works on a store in memory, which is this one. -/
def Shows (b : Bench) (s : MemoryStore) : Prop := b.backend = .memory ∧ b.memory = s

variable {b : Bench} {s : MemoryStore}

theorem planned_shows (h : b.Shows s) (c : StoreCall) : ((planned c).run b).2.Shows s := by
  simp only [planned, StateT.run_bind, StateT.run_get, pure_bind]
  generalize (if c.isWrite = true then b.writePlan else b.readPlan) = plan
  cases plan with
  | none => exact h
  | some p =>
    change Shows (if c.isWrite = true then { b with writePlan := some p.next.2 }
      else { b with readPlan := some p.next.2 }) s
    split
    · exact h
    · exact h

theorem callStore_run (h : b.Shows s) (c : StoreCall) :
    ∃ b', (callStore c).run b = ((s.step c).1, b') ∧ b'.Shows (s.step c).2 := by
  cases b
  simp only [Shows] at h
  obtain ⟨rfl, rfl⟩ := h
  exact ⟨_, rfl, rfl, rfl⟩

/-- A call is answered by its plan or by the store; being logged makes no difference to that. -/
theorem call_allowed (h : b.Shows s) (c : StoreCall) :
    ∃ s', Conditions.anything.Allows s ⟨.call c, ((call c).run b).1⟩ s' ∧
      ((call c).run b).2.Shows s' := by
  have still := planned_shows h c
  rw [call, StateT.run_bind]
  generalize (planned c).run b = answer at still ⊢
  obtain ⟨fault, b₁⟩ := answer
  cases fault with
  | some f => exact ⟨s, .inr ⟨trivial, ⟨f, rfl⟩, rfl⟩, still⟩
  | none =>
    obtain ⟨b₂, run, still'⟩ := callStore_run still c
    change ∃ s', Conditions.anything.Allows s ⟨.call c, ((callStore c).run b₁).1⟩ s' ∧
      Shows ((callStore c).run b₁).2 s'
    rw [run]
    exact ⟨(s.step c).2, .inl rfl, still'⟩

theorem host_allowed (e : Effect) (b : Bench) (s : MemoryStore) (h : b.Shows s) :
    ∃ s', Conditions.anything.Allows s ⟨e, ((host e).run b).1⟩ s' ∧
      ((host e).run b).2.Shows s' := by
  cases e with
  | call c => exact call_allowed h c
  | publish n =>
    refine ⟨s, rfl, ?_⟩
    change Shows ((publish n).run b).2 s
    simp only [publish, StateT.run_bind, StateT.run_get, pure_bind]
    cases b.bus with
    | refusing => exact h
    | dropping => exact h
    | keeping => exact h
  | sleep ms => exact ⟨s, rfl, h⟩
  | giveUp g =>
    refine ⟨s, rfl, ?_⟩
    change Shows (if b.noting then { b with log := { b.log with
      givenUp := b.log.givenUp ++ [g] } } else b) s
    split
    · exact h
    · exact h
  | freshId => exact ⟨s, ⟨trivial, rfl⟩, h⟩
  | now => exact ⟨s, rfl, h⟩

/-- A service that is carried out on the bench is run on the store that the bench works on. -/
theorem serve_runs {α : Type} (x : Service α) (h : b.Shows s) :
    ∃ t s', Program.RunsOn Conditions.anything.Allows x.run s t ((serve x).run b).1 s' ∧
      ((serve x).run b).2.Shows s' :=
  Program.runsOn_run host_allowed x.run h

end Bench
end CensusLink
