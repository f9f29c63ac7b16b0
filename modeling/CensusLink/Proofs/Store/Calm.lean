import CensusLink.Proofs.Interleaving
import CensusLink.Proofs.Services.Orderly
import CensusLink.Proofs.Store.Contents

/-!
A store on which no call fails. A trace is carried if every call in it is answered as the store
stands that the deeds before it lead to. So what a party does next to others it also does alone, on
a store that gives it the same answers; and if its deeds commute with those of the others, the store
is left as if it had done all of them first.
-/
namespace CensusLink

variable {s s' : MemoryStore} {c : StoreCall} {o : c.Outcome} {t before after : Trace}

theorem calm_allows_call_iff : Conditions.calm.Allows s ⟨.call c, o⟩ s' ↔ s.step c = (o, s') :=
  or_iff_left fun h => h.1

/-- A write to a schema of valid name gets through. -/
theorem calm_allows_write {w : Write} (valid : Schema.check w.schema = .ok ()) :
    Conditions.calm.Allows s (w.exchange (.ok ())) (s.after (w.exchange (.ok ())).deeds) := by
  cases w with
  | store schema key d =>
    refine calm_allows_call_iff.2 ?_
    rw [MemoryStore.step, StoreCall.schema, show Schema.check schema = .ok () from valid]
    rfl
  | delete schema key =>
    refine calm_allows_call_iff.2 ?_
    rw [MemoryStore.step, StoreCall.schema, show Schema.check schema = .ok () from valid]
    rfl

theorem certain_calm : Certain Conditions.calm.Allows where
  answers first second := by
    rw [calm_allows_call_iff] at first second
    exact Prod.mk.inj (first.symm.trans second)
  still {s s' e r} other allowed := by
    cases e with
    | call c => cases other
    | freshId => exact allowed.2
    | _ => exact allowed

/-- What comes of programs in turn, and what they publish, is settled by what each of them draws. -/
theorem InTurn.unique {σ : Type} {α : Bool → Type} {allows : σ → Exchange → σ → Prop}
    (certain : Certain allows) {p : (i : Bool) → Program (α i)} (heedless : ∀ i, (p i).Heedless)
    {i : Bool} {s s' s'' : σ} {t u : Bool → Trace} {a b : (i : Bool) → α i}
    (first : InTurn allows p i s t a s') (second : InTurn allows p i s u b s'')
    (same : ∀ j, (u j).drawn = (t j).drawn) :
    b = a ∧ (∀ j, (u j).notices = (t j).notices) ∧ s'' = s' := by
  obtain ⟨s₁, before, after⟩ := first
  obtain ⟨s₂, before', after'⟩ := second
  obtain ⟨one, rfl, effects⟩ := (heedless i).unique certain before' before (same i)
  obtain ⟨other, store, effects'⟩ := (heedless (!i)).unique certain after' after (same (!i))
  have each {q : Bool → Prop} (here : q i) (there : q (!i)) (j : Bool) : q j := by
    by_cases mine : j = i
    · exact mine ▸ here
    · exact Bool.eq_not.2 mine ▸ there
  exact ⟨funext (each one other), each (Trace.calls_eq_of_effects effects).2
    (Trace.calls_eq_of_effects effects').2, store⟩

theorem carries_calm_of_answers
    (h : ∀ (before : Trace) (c : StoreCall) (o : c.Outcome) (after : Trace),
      t = before ++ ⟨.call c, o⟩ :: after → ((s.after before.deeds).step c).1 = o) :
    Carries Conditions.calm.Allows s t (s.after t.deeds) := by
  induction t generalizing s with
  | nil => exact .nil s
  | cons x t ih =>
    have rest : Carries Conditions.calm.Allows (s.after x.deeds) t
        ((s.after x.deeds).after (Trace.deeds t)) := by
      refine ih fun before c o after split => ?_
      have later := h (x :: before) c o after (congrArg (x :: ·) split)
      rwa [← MemoryStore.after_append]
    rw [← MemoryStore.after_append] at rest
    refine .cons ?_ rest
    obtain ⟨e, r⟩ := x
    cases e with
    | call c =>
      have here : Conditions.calm.Allows s ⟨.call c, r⟩ (s.step c).2 :=
        calm_allows_call_iff.2 (Prod.ext (h [] c r t rfl) rfl)
      exact here.eq_after ▸ here
    | freshId => exact ⟨trivial, rfl⟩
    | _ => rfl

theorem Carries.answer (h : Carries Conditions.calm.Allows s (before ++ ⟨.call c, o⟩ :: after) s') :
    ((s.after before.deeds).step c).1 = o := by
  obtain ⟨s₁, first, second⟩ := carries_append_iff.1 h
  rw [← first.eq_after]
  cases second with
  | cons here _ => exact congrArg Prod.fst (calm_allows_call_iff.1 here)

/-- What a call is answered: what the store has for it, if the name of its schema is valid. -/
theorem MemoryStore.step_fst (s : MemoryStore) (c : StoreCall) :
    (s.step c).1 = (Schema.check c.schema).map fun _ => (s.apply c).1 := by
  rw [step]
  cases Schema.check c.schema <;> rfl

/-- The answer to a write does not depend on what is stored. -/
theorem MemoryStore.step_of_isWrite (writes : c.isWrite = true) (s s' : MemoryStore) :
    (s.step c).1 = (s'.step c).1 := by
  rw [step_fst, step_fst]
  cases c with
  | store schema key d => rfl
  | delete schema key => rfl
  | retrieve schema key => cases writes
  | search schema path value => cases writes

/-- No write to a schema of valid name fails. -/
theorem Carries.not_mem_of_valid (carried : Carries Conditions.calm.Allows s t s') {w : Write}
    (valid : Schema.check w.schema = .ok ()) (f : Fault) : w.exchange (.error f) ∉ t := by
  intro failed
  obtain ⟨before, after, rfl⟩ := List.append_of_mem failed
  cases w with
  | store schema key d =>
    have answer := carried.answer
    rw [MemoryStore.step_fst, StoreCall.schema, show Schema.check schema = .ok () from valid]
      at answer
    cases answer
  | delete schema key =>
    have answer := carried.answer
    rw [MemoryStore.step_fst, StoreCall.schema, show Schema.check schema = .ok () from valid]
      at answer
    cases answer

/-- Nor does one of several programs. -/
theorem RunTogether.not_mem_share {ι : Type} [DecidableEq ι] {α : ι → Type}
    {p : (i : ι) → Program (α i)} {t : JointTrace ι} {a : (i : ι) → α i}
    (run : RunTogether Conditions.calm.Allows p s t a s') (i : ι) (w : Write) (f : Fault)
    (valid : Schema.check w.schema = .ok ()) : w.exchange (.error f) ∉ t.share i :=
  fun failed => run.carries.not_mem_of_valid valid f (JointTrace.mem_whole_of_mem_share failed)

namespace JointTrace

/-- A party may go alone where it is given the same answers. -/
theorem carries_share {ι : Type} [DecidableEq ι] {t : JointTrace ι} {i : ι}
    (carried : Carries Conditions.calm.Allows s t.whole s') (base : MemoryStore)
    (same : ∀ (t₁ : JointTrace ι) (c : StoreCall) (o : c.Outcome) (t₂ : JointTrace ι),
      t = t₁ ++ (i, ⟨.call c, o⟩) :: t₂ →
      ((base.after (t₁.share i).deeds).step c).1 = ((s.after t₁.whole.deeds).step c).1) :
    Carries Conditions.calm.Allows base (t.share i) (base.after (t.share i).deeds) := by
  refine carries_calm_of_answers fun before c o after split => ?_
  obtain ⟨t₁, t₂, rfl, rfl, _⟩ := exists_split split
  rw [whole_append] at carried
  rw [same t₁ c o t₂ rfl]
  exact carried.answer

/-- Of two parties whose deeds commute, either may have done all of them first. -/
theorem after_whole {t : JointTrace Bool} (i : Bool)
    (commute : ∀ d ∈ (t.share i).deeds, ∀ e ∈ (t.share (!i)).deeds, d.Commutes e)
    (s : MemoryStore) :
    s.after t.whole.deeds = (s.after (t.share i).deeds).after (t.share (!i)).deeds := by
  induction t generalizing s with
  | nil => rfl
  | cons e rest ih =>
    obtain ⟨j, x⟩ := e
    have whole : whole ((j, x) :: rest) = x :: whole rest := rfl
    have deeds (t : Trace) : Trace.deeds (x :: t) = x.deeds ++ t.deeds := List.flatMap_cons
    by_cases mine : j = i
    · subst mine
      rw [share_cons_self, share_cons_of_ne (by simp), deeds] at commute
      rw [whole, deeds, share_cons_self, share_cons_of_ne (by simp), deeds,
        MemoryStore.after_append, MemoryStore.after_append]
      exact ih (fun d hd => commute d (List.mem_append_right _ hd)) _
    · obtain rfl : j = !i := Bool.eq_not.2 mine
      rw [share_cons_self, share_cons_of_ne mine, deeds] at commute
      rw [whole, deeds, share_cons_self, share_cons_of_ne mine, deeds,
        MemoryStore.after_append, MemoryStore.after_append,
        ih fun d hd e he => commute d hd e (List.mem_append_right _ he)]
      -- what the other one has done here moves behind the deeds of this one
      have moved := MemoryStore.after_comm
        (fun e he d hd => (commute d hd e (List.mem_append_left _ he)).symm) s
      rw [moved]

/-- Of numbered parties it is all the same whether they take turns of any kind or go one after the
other, if what is done before its turn commutes with what it goes before. -/
theorem after_shares {parties : List Nat} (ascending : parties.Pairwise (· < ·))
    {t : JointTrace Nat} (all : ∀ e ∈ t, e.1 ∈ parties)
    (kept : t.Pairwise fun x y => x.1 ≤ y.1 ∨ ∀ d ∈ x.2.deeds, ∀ e ∈ y.2.deeds, d.Commutes e)
    (s : MemoryStore) :
    s.after t.whole.deeds = s.after (Trace.deeds (parties.flatMap (share · t))) := by
  induction t generalizing s with
  | nil =>
    have none : parties.flatMap (share · []) = [] := List.flatMap_eq_nil_iff.2 fun _ _ => rfl
    rw [none]
    rfl
  | cons e rest ih =>
    obtain ⟨i, x⟩ := e
    obtain ⟨here, later⟩ := List.forall_mem_cons.1 all
    obtain ⟨first, kept⟩ := List.pairwise_cons.1 kept
    obtain ⟨before, after, rfl⟩ := List.append_of_mem here
    obtain ⟨_, others, ordered⟩ := List.pairwise_append.1 ascending
    have less (j : Nat) (hj : j ∈ before) : j < i := ordered j hj i List.mem_cons_self
    have front : before.flatMap (share · ((i, x) :: rest)) = before.flatMap (share · rest) :=
      List.flatMap_congr fun j hj => share_cons_of_ne (Nat.ne_of_gt (less j hj)) x rest
    have back : after.flatMap (share · ((i, x) :: rest)) = after.flatMap (share · rest) :=
      List.flatMap_congr fun j hj =>
        share_cons_of_ne (Nat.ne_of_lt ((List.pairwise_cons.1 others).1 j hj)) x rest
    -- the first exchange moves behind those of the parties before it
    have moved : ∀ d ∈ x.deeds, ∀ e ∈ Trace.deeds (before.flatMap (share · rest)),
        d.Commutes e := by
      intro d hd e he
      obtain ⟨y, hy, he⟩ := List.mem_flatMap.1 he
      obtain ⟨j, hj, hy⟩ := List.mem_flatMap.1 hy
      rcases first (j, y) (mem_share_iff.1 hy) with behind | commute
      · exact absurd behind (Nat.not_le.2 (less j hj))
      · exact commute d hd e he
    have deeds (t : Trace) : Trace.deeds (x :: t) = x.deeds ++ t.deeds := List.flatMap_cons
    calc s.after (whole ((i, x) :: rest)).deeds
        = (s.after x.deeds).after (whole rest).deeds := by
          rw [show whole ((i, x) :: rest) = x :: whole rest from rfl, deeds,
            MemoryStore.after_append]
      _ = ((s.after x.deeds).after (Trace.deeds (before.flatMap (share · rest)))).after
            (Trace.deeds (share i rest ++ after.flatMap (share · rest))) := by
          rw [ih later kept, List.flatMap_append, List.flatMap_cons, Trace.deeds_append,
            MemoryStore.after_append]
      _ = ((s.after (Trace.deeds (before.flatMap (share · rest)))).after x.deeds).after
            (Trace.deeds (share i rest ++ after.flatMap (share · rest))) := by
          rw [MemoryStore.after_comm moved]
      _ = _ := by
          rw [List.flatMap_append, List.flatMap_cons, front, back, share_cons_self,
            List.cons_append, Trace.deeds_append (before.flatMap _), deeds,
            MemoryStore.after_append, MemoryStore.after_append]

/-- What one of two parties has done alone. -/
theorem after_whole_of_idle {t : JointTrace Bool} {i : Bool} (idle : (t.share i).deeds = []) :
    s.after t.whole.deeds = s.after (t.share (!i)).deeds := by
  have commute : ∀ d ∈ (t.share i).deeds, ∀ e ∈ (t.share (!i)).deeds, d.Commutes e := by
    rw [idle]
    exact List.forall_mem_nil _
  rw [after_whole i commute, idle, MemoryStore.after_nil]

end JointTrace
end CensusLink
