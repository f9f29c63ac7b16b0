import CensusLink.Proofs.Linking.Calls

/-!
Orderly programs: they write only under one retry policy, and what they are told of a published
notice makes no difference to them. The main statement is that the run of an orderly program on a
store is settled by the identifiers and times that it is given.
-/
namespace CensusLink

/-- The notice that an effect hands on. -/
def Effect.notice? : Effect → Option Notice
  | .publish n => some n
  | _ => none

/-- The call that an effect makes. -/
def Effect.call? : Effect → Option StoreCall
  | .call c => some c
  | _ => none

/-- Programs to which it makes no difference what becomes of the notices that they publish. -/
inductive Program.Heedless {α : Type} : Program α → Prop
  | done (a : α) : Heedless (.done a)
  | perform {e : Effect} {next : e.Reply → Program α} (silent : e.notice? = none)
      (rest : ∀ r, Heedless (next r)) : Heedless (.perform e next)
  | tell {n : Notice} {p : Program α} (rest : Heedless p) :
    Heedless (.perform (.publish n) fun _ => p)

/-- Programs that write under one policy and in no other way. -/
inductive Program.Orderly {α : Type} (policy : RetryPolicy) : Program α → Prop
  | done (a : α) : Orderly policy (.done a)
  | read {c : StoreCall} {next : c.Outcome → Program α} (reads : c.isWrite = false)
      (rest : ∀ o, Orderly policy (next o)) : Orderly policy (.perform (.call c) next)
  | draw {next : Uuid → Program α} (rest : ∀ id, Orderly policy (next id)) :
    Orderly policy (.perform .freshId next)
  | time {next : Instant → Program α} (rest : ∀ now, Orderly policy (next now)) :
    Orderly policy (.perform .now next)
  | tell {n : Notice} {p : Program α} (rest : Orderly policy p) :
    Orderly policy (.perform (.publish n) fun _ => p)
  | write {w : Write} {next : Except Fault Unit → Program α}
      (rest : ∀ o, Orderly policy (next o)) : Orderly policy ((w.make policy).run >>= next)

namespace Program

variable {α β : Type} {p : Program α} {f : α → Program β}

theorem Heedless.bind (h : p.Heedless) (rest : ∀ a, (f a).Heedless) : (p >>= f).Heedless := by
  induction h with
  | done a => exact rest a
  | perform silent _ ih => exact .perform silent ih
  | tell _ ih => exact .tell ih

end Program

theorem Write.heedless_attempt (w : Write) : w.attempt.Heedless := by
  cases w with
  | store schema key d => exact .perform rfl .done
  | delete schema key => exact .perform rfl .done

theorem Write.heedless_persist (p : RetryPolicy) (w : Write) (left number : Nat) :
    (w.persist p left number).Heedless := by
  induction left generalizing number with
  | zero =>
    rw [persist]
    refine w.heedless_attempt.bind fun o => ?_
    split
    · exact .done _
    · split
      · exact .perform rfl fun _ => .done _
      · exact .done _
  | succ left ih =>
    rw [persist]
    refine w.heedless_attempt.bind fun o => ?_
    split
    · exact .done _
    · split
      · exact .perform rfl fun _ => ih _
      · exact .done _

theorem Program.Orderly.heedless {α : Type} {policy : RetryPolicy} {p : Program α}
    (h : p.Orderly policy) : p.Heedless := by
  induction h with
  | done a => exact .done a
  | read _ _ ih => exact .perform rfl ih
  | draw _ ih => exact .perform rfl ih
  | time _ ih => exact .perform rfl ih
  | tell _ ih => exact .tell ih
  | write _ ih => exact (Write.heedless_persist _ _ _ _).bind ih

/-! What is drawn in a run, and the runs that it settles. -/

def Exchange.isDrawn : Exchange → Bool
  | ⟨.freshId, _⟩ => true
  | ⟨.now, _⟩ => true
  | _ => false

/-- The identifiers and times that a run is given. -/
def Trace.drawn (t : Trace) : Trace := t.filter Exchange.isDrawn

/-- What a run asks for, apart from what it is told. -/
def Trace.effects (t : Trace) : List Effect := t.map (·.effect)

theorem Exchange.call?_eq (x : Exchange) : x.call? = x.effect.call? := by
  obtain ⟨e, r⟩ := x
  cases e <;> rfl

theorem Exchange.notice?_eq (x : Exchange) : x.notice? = x.effect.notice? := by
  obtain ⟨e, r⟩ := x
  cases e <;> rfl

/-- Runs that ask for the same make the same calls and publish the same. -/
theorem Trace.calls_eq_of_effects {t u : Trace} (same : t.effects = u.effects) :
    t.calls = u.calls ∧ t.notices = u.notices := by
  have calls (t : Trace) : t.calls = t.effects.filterMap Effect.call? := by
    rw [Trace.effects, List.filterMap_map]
    exact List.filterMap_congr fun x _ => x.call?_eq
  have notices (t : Trace) : t.notices = t.effects.filterMap Effect.notice? := by
    rw [Trace.effects, List.filterMap_map]
    exact List.filterMap_congr fun x _ => x.notice?_eq
  exact ⟨by rw [calls, calls, same], by rw [notices, notices, same]⟩

/-- A host that has one answer to every call and is changed by nothing else. -/
structure Certain {σ : Type} (allows : σ → Exchange → σ → Prop) : Prop where
  answers {s s₁ s₂ : σ} {c : StoreCall} {o o' : c.Outcome} (first : allows s ⟨.call c, o⟩ s₁)
    (second : allows s ⟨.call c, o'⟩ s₂) : o = o' ∧ s₁ = s₂
  still {s s' : σ} {e : Effect} {r : e.Reply} (other : e.call? = none)
    (allowed : allows s ⟨e, r⟩ s') : s' = s

/-- On such a host the run of a program is settled by what it draws. -/
theorem Program.Heedless.unique {α σ : Type} {allows : σ → Exchange → σ → Prop}
    (certain : Certain allows) {p : Program α} (h : p.Heedless) {s s₁ s₂ : σ} {t u : Trace}
    {a b : α} (first : RunsOn allows p s t a s₁) (second : RunsOn allows p s u b s₂)
    (same : t.drawn = u.drawn) : a = b ∧ s₁ = s₂ ∧ t.effects = u.effects := by
  induction h generalizing s t u with
  | done c =>
    obtain ⟨rfl, rfl⟩ := runs_done_iff.1 first.1
    obtain ⟨rfl, rfl⟩ := runs_done_iff.1 second.1
    cases first.2
    cases second.2
    exact ⟨rfl, rfl, rfl⟩
  | tell _ ih =>
    obtain ⟨run₁, carried₁⟩ := first
    obtain ⟨run₂, carried₂⟩ := second
    cases run₁ with | perform rest₁ =>
    cases run₂ with | perform rest₂ =>
    cases carried₁ with | cons head₁ more₁ =>
    cases carried₂ with | cons head₂ more₂ =>
    obtain rfl := certain.still rfl head₁
    obtain rfl := certain.still rfl head₂
    obtain ⟨rfl, rfl, effects⟩ := ih ⟨rest₁, more₁⟩ ⟨rest₂, more₂⟩ same
    exact ⟨rfl, rfl, congrArg (_ :: ·) effects⟩
  | @perform e next silent _ ih =>
    obtain ⟨run₁, carried₁⟩ := first
    obtain ⟨run₂, carried₂⟩ := second
    cases run₁ with | @perform _ _ r₁ t _ rest₁ =>
    cases run₂ with | @perform _ _ r₂ u _ rest₂ =>
    cases carried₁ with | @cons _ m₁ _ _ _ head₁ more₁ =>
    cases carried₂ with | @cons _ m₂ _ _ _ head₂ more₂ =>
    -- the replies are the same, and so is all that follows
    suffices eq : r₁ = r₂ ∧ m₁ = m₂ ∧ t.drawn = u.drawn by
      obtain ⟨rfl, rfl, later⟩ := eq
      obtain ⟨rfl, rfl, effects⟩ := ih r₁ ⟨rest₁, more₁⟩ ⟨rest₂, more₂⟩ later
      exact ⟨rfl, rfl, congrArg (_ :: ·) effects⟩
    cases e with
    | call c =>
      obtain ⟨reply, store⟩ := certain.answers head₁ head₂
      exact ⟨reply, store, same⟩
    | publish n => cases silent
    | sleep ms =>
      exact ⟨rfl, (certain.still rfl head₁).trans (certain.still rfl head₂).symm, same⟩
    | giveUp g =>
      exact ⟨rfl, (certain.still rfl head₁).trans (certain.still rfl head₂).symm, same⟩
    | freshId =>
      obtain ⟨reply, later⟩ := List.cons.inj (same : _ :: t.drawn = _ :: u.drawn)
      refine ⟨by simpa using reply, ?_, later⟩
      exact (certain.still rfl head₁).trans (certain.still rfl head₂).symm
    | now =>
      obtain ⟨reply, later⟩ := List.cons.inj (same : _ :: t.drawn = _ :: u.drawn)
      refine ⟨by simpa using reply, ?_, later⟩
      exact (certain.still rfl head₁).trans (certain.still rfl head₂).symm

end CensusLink
