import CensusLink.Program

/-!
Traces: all that passes between a program and its host. A run gives a trace and a result, and a host
carries a trace if it allows each exchange in the state that the one before it leads to. A program
runs on every host that always has a reply, and what a host of states carries out is a run if the
host allows its replies. The main statements split the run of one program followed by another, and
that of a service followed by another, which is not begun if the first fails.
-/
namespace CensusLink

/-- An effect and the reply that was given to it. -/
structure Exchange where
  effect : Effect
  reply : effect.Reply

abbrev Trace := List Exchange

variable {α β σ : Type}

/-- The trace of a whole run, and the result that the program comes to. -/
inductive Program.Runs : Program α → Trace → α → Prop
  | done (a : α) : Runs (.done a) [] a
  | perform {e : Effect} {next : e.Reply → Program α} {r : e.Reply} {t : Trace} {a : α}
      (rest : Runs (next r) t a) : Runs (.perform e next) (⟨e, r⟩ :: t) a

/-- A host goes along a trace from one state to another. -/
inductive Carries (allows : σ → Exchange → σ → Prop) : σ → Trace → σ → Prop
  | nil (s : σ) : Carries allows s [] s
  | cons {s s₁ s₂ : σ} {x : Exchange} {t : Trace} (first : allows s x s₁)
      (rest : Carries allows s₁ t s₂) : Carries allows s (x :: t) s₂

variable {allows : σ → Exchange → σ → Prop}

theorem carries_append_iff {s s₂ : σ} {t u : Trace} :
    Carries allows s (t ++ u) s₂ ↔ ∃ s₁, Carries allows s t s₁ ∧ Carries allows s₁ u s₂ := by
  constructor
  · intro h
    induction t generalizing s with
    | nil => exact ⟨s, .nil s, h⟩
    | cons x t ih =>
      cases h with
      | cons first rest =>
        obtain ⟨s₁, before, after⟩ := ih rest
        exact ⟨s₁, .cons first before, after⟩
  · rintro ⟨s₁, before, after⟩
    induction before with
    | nil => exact after
    | cons first _ ih => exact .cons first (ih after)

theorem carries_singleton_iff {s s₁ : σ} {x : Exchange} :
    Carries allows s [x] s₁ ↔ allows s x s₁ := by
  constructor
  · intro h
    cases h with
    | cons first rest =>
      cases rest
      exact first
  · exact fun h => .cons h (.nil s₁)

/-- A host that allows all that passes, wherever it is allowed, carries the trace too. -/
theorem Carries.mono {others : σ → Exchange → σ → Prop} {s s' : σ} {t : Trace}
    (h : Carries allows s t s')
    (weaker : ∀ x ∈ t, ∀ s s', allows s x s' → others s x s') : Carries others s t s' := by
  induction h with
  | nil s => exact .nil s
  | cons first _ ih =>
    obtain ⟨here, later⟩ := List.forall_mem_cons.1 weaker
    exact .cons (here _ _ first) (ih later)

namespace Program

theorem runs_done_iff {a b : α} {t : Trace} : (Program.done a).Runs t b ↔ t = [] ∧ b = a := by
  constructor
  · intro h
    cases h
    exact ⟨rfl, rfl⟩
  · rintro ⟨rfl, rfl⟩
    exact .done b

theorem runs_of_iff {e : Effect} {r : e.Reply} {t : Trace} :
    (Program.of e).Runs t r ↔ t = [⟨e, r⟩] := by
  constructor
  · intro h
    cases h with
    | perform rest =>
      obtain ⟨rfl, rfl⟩ := runs_done_iff.1 rest
      rfl
  · rintro rfl
    exact .perform (.done r)

theorem eq_done_of_runs {p : Program α} {a : α} (h : p.Runs [] a) : p = .done a := by
  cases h
  rfl

theorem exists_next_of_runs {p : Program α} {x : Exchange} {t : Trace} {a : α}
    (h : p.Runs (x :: t) a) : ∃ next, p = .perform x.effect next ∧ (next x.reply).Runs t a := by
  cases h with
  | @perform e next r t a rest => exact ⟨next, rfl, rest⟩

/-- The run of one program followed by another is a run of each. -/
theorem runs_bind_iff {p : Program α} {f : α → Program β} {t : Trace} {b : β} :
    (p >>= f).Runs t b ↔ ∃ a t₁ t₂, t = t₁ ++ t₂ ∧ p.Runs t₁ a ∧ (f a).Runs t₂ b := by
  constructor
  · intro h
    induction p generalizing t with
    | done a => exact ⟨a, [], t, rfl, .done a, h⟩
    | perform e next ih =>
      cases h with
      | perform rest =>
        obtain ⟨a, t₁, t₂, rfl, first, second⟩ := ih _ rest
        exact ⟨a, _ :: t₁, t₂, rfl, .perform first, second⟩
  · rintro ⟨a, t₁, t₂, rfl, first, second⟩
    induction first with
    | done a => exact second
    | perform _ ih => exact .perform (ih second)

/-- The same replies lead to the same result, and no run is the beginning of another. -/
theorem Runs.unique {p : Program α} {t u v w : Trace} {a b : α} (first : p.Runs t a)
    (second : p.Runs u b) (same : t ++ v = u ++ w) : t = u ∧ a = b := by
  induction first generalizing u with
  | done a =>
    obtain ⟨rfl, rfl⟩ := runs_done_iff.1 second
    exact ⟨rfl, rfl⟩
  | perform _ ih =>
    cases second with
    | perform rest =>
      simp only [List.cons_append, List.cons.injEq, Exchange.mk.injEq, heq_eq_eq, true_and] at same
      obtain ⟨rfl, same⟩ := same
      obtain ⟨rfl, rfl⟩ := ih rest same
      exact ⟨rfl, rfl⟩

/-- A run that a host goes along with, from one of its states to another. -/
def RunsOn (allows : σ → Exchange → σ → Prop) (p : Program α) (s : σ) (t : Trace) (a : α)
    (s' : σ) : Prop := p.Runs t a ∧ Carries allows s t s'

theorem runsOn_of_iff {e : Effect} {r : e.Reply} {s s' : σ} {t : Trace} :
    RunsOn allows (Program.of e) s t r s' ↔ t = [⟨e, r⟩] ∧ allows s ⟨e, r⟩ s' := by
  rw [RunsOn, runs_of_iff]
  refine and_congr_right ?_
  rintro rfl
  exact carries_singleton_iff

theorem runsOn_bind_iff {p : Program α} {f : α → Program β} {s s' : σ} {t : Trace} {b : β} :
    RunsOn allows (p >>= f) s t b s' ↔ ∃ a t₁ s₁ t₂, t = t₁ ++ t₂ ∧
      RunsOn allows p s t₁ a s₁ ∧ RunsOn allows (f a) s₁ t₂ b s' := by
  constructor
  · rintro ⟨runs, carries⟩
    obtain ⟨a, t₁, t₂, rfl, first, second⟩ := runs_bind_iff.1 runs
    obtain ⟨s₁, before, after⟩ := carries_append_iff.1 carries
    exact ⟨a, t₁, s₁, t₂, rfl, ⟨first, before⟩, ⟨second, after⟩⟩
  · rintro ⟨a, t₁, s₁, t₂, rfl, ⟨first, before⟩, ⟨second, after⟩⟩
    exact ⟨runs_bind_iff.2 ⟨a, t₁, t₂, rfl, first, second⟩,
      carries_append_iff.2 ⟨s₁, before, after⟩⟩

/-- A program runs wherever every effect gets a reply. -/
theorem exists_runsOn (total : ∀ s e, ∃ r s', allows s ⟨e, r⟩ s') (p : Program α) (s : σ) :
    ∃ t a s', RunsOn allows p s t a s' := by
  induction p generalizing s with
  | done a => exact ⟨[], a, s, .done a, .nil s⟩
  | perform e next ih =>
    obtain ⟨r, s₁, first⟩ := total s e
    obtain ⟨t, a, s', runs, carries⟩ := ih r s₁
    exact ⟨⟨e, r⟩ :: t, a, s', .perform runs, .cons first carries⟩

/-- What is carried out by a host whose replies are allowed is a run. The host may know more than
its state tells. -/
theorem runsOn_run {τ : Type} {host : (e : Effect) → StateM τ e.Reply} {shows : τ → σ → Prop}
    (allowed : ∀ e b s, shows b s →
      ∃ s', allows s ⟨e, ((host e).run b).1⟩ s' ∧ shows ((host e).run b).2 s')
    (p : Program α) {b : τ} {s : σ} (h : shows b s) :
    ∃ t s', RunsOn allows p s t ((p.run host).run b).1 s' ∧ shows ((p.run host).run b).2 s' := by
  induction p generalizing b s with
  | done a => exact ⟨[], s, ⟨.done a, .nil s⟩, h⟩
  | perform e next ih =>
    obtain ⟨s₁, first, h₁⟩ := allowed e b s h
    obtain ⟨t, s', ⟨runs, carries⟩, h'⟩ := ih ((host e).run b).1 h₁
    exact ⟨_ :: t, s', ⟨.perform runs, .cons first carries⟩, h'⟩

end Program

namespace Service

variable {t : Trace}

theorem runs_of_iff {r o : Except Fault α} :
    (Service.of r).run.Runs t o ↔ t = [] ∧ o = r := Program.runs_done_iff

theorem runs_pure_iff {a : α} {o : Except Fault α} :
    (pure a : Service α).run.Runs t o ↔ t = [] ∧ o = .ok a := Program.runs_done_iff

theorem runs_throw_iff {f : Fault} {o : Except Fault α} :
    (throw f : Service α).run.Runs t o ↔ t = [] ∧ o = .error f := Program.runs_done_iff

theorem runs_call_iff {c : StoreCall} {o : c.Outcome} :
    (Service.call c).run.Runs t o ↔ t = [⟨.call c, o⟩] := Program.runs_of_iff

theorem runs_bind_iff {x : Service α} {f : α → Service β} {o : Except Fault β} :
    (x >>= f).run.Runs t o ↔ (∃ e, x.run.Runs t (.error e) ∧ o = .error e) ∨
      ∃ a t₁ t₂, t = t₁ ++ t₂ ∧ x.run.Runs t₁ (.ok a) ∧ (f a).run.Runs t₂ o := by
  refine Iff.trans Program.runs_bind_iff ⟨?_, ?_⟩
  · rintro ⟨r, t₁, t₂, rfl, first, second⟩
    cases r with
    | error e =>
      obtain ⟨rfl, rfl⟩ := Program.runs_done_iff.1 second
      exact .inl ⟨e, by rwa [List.append_nil], rfl⟩
    | ok a => exact .inr ⟨a, t₁, t₂, rfl, first, second⟩
  · rintro (⟨e, first, rfl⟩ | ⟨a, t₁, t₂, rfl, first, second⟩)
    · exact ⟨.error e, t, [], by simp, first, .done _⟩
    · exact ⟨.ok a, t₁, t₂, rfl, first, second⟩

/-- What is answered in the place of a result says nothing of a failure. -/
theorem runs_bind_pure_iff {x : Service α} {b : β} {o : Except Fault β} :
    (x >>= fun _ => pure b).run.Runs t o ↔ ∃ q, x.run.Runs t q ∧ o = q.map fun _ => b := by
  rw [runs_bind_iff]
  simp only [runs_pure_iff]
  constructor
  · rintro (⟨f, run, rfl⟩ | ⟨a, u, _, rfl, run, rfl, rfl⟩)
    · exact ⟨.error f, run, rfl⟩
    · exact ⟨.ok a, by rwa [List.append_nil], rfl⟩
  · rintro ⟨q, run, rfl⟩
    cases q with
    | error f => exact .inl ⟨f, run, rfl⟩
    | ok a => exact .inr ⟨a, t, [], by simp, run, rfl, rfl⟩

/-- What a rule decides, and what follows if it agrees. -/
theorem runs_of_bind_iff {r : Except Fault α} {f : α → Service β} {o : Except Fault β} :
    (Service.of r >>= f).run.Runs t o ↔
      (∃ e, r = .error e ∧ t = [] ∧ o = .error e) ∨ ∃ a, r = .ok a ∧ (f a).run.Runs t o := by
  cases r with
  | error e =>
    refine Iff.trans Program.runs_done_iff ⟨fun ⟨eq, outcome⟩ => .inl ⟨e, rfl, eq, outcome⟩, ?_⟩
    rintro (⟨_, ⟨⟩, rfl, rfl⟩ | ⟨_, ⟨⟩, _⟩)
    exact ⟨rfl, rfl⟩
  | ok a =>
    refine ⟨fun h => .inr ⟨a, rfl, h⟩, ?_⟩
    rintro (⟨_, ⟨⟩, _⟩ | ⟨_, ⟨⟩, h⟩)
    exact h

theorem runs_call_bind_iff {c : StoreCall} {f : c.Reply → Service β} {o : Except Fault β} :
    (Service.call c >>= f).run.Runs t o ↔
      (∃ e, t = [⟨.call c, .error e⟩] ∧ o = .error e) ∨
        ∃ a u, t = ⟨.call c, .ok a⟩ :: u ∧ (f a).run.Runs u o := by
  rw [runs_bind_iff]
  constructor
  · rintro (⟨e, first, rfl⟩ | ⟨a, t₁, t₂, rfl, first, second⟩)
    · exact .inl ⟨e, runs_call_iff.1 first, rfl⟩
    · rw [runs_call_iff.1 first]
      exact .inr ⟨a, t₂, rfl, second⟩
  · rintro (⟨e, rfl, rfl⟩ | ⟨a, u, rfl, second⟩)
    · exact .inl ⟨e, runs_call_iff.2 rfl, rfl⟩
    · exact .inr ⟨a, [_], u, rfl, runs_call_iff.2 rfl, second⟩

theorem runs_freshId_bind_iff {f : Uuid → Service β} {o : Except Fault β} :
    (Service.freshId >>= f).run.Runs t o ↔
      ∃ id u, t = ⟨.freshId, id⟩ :: u ∧ (f id).run.Runs u o := by
  constructor
  · intro h
    cases h with
    | perform rest => exact ⟨_, _, rfl, rest⟩
  · rintro ⟨id, u, rfl, rest⟩
    exact .perform rest

theorem runs_now_bind_iff {f : Instant → Service β} {o : Except Fault β} :
    (Service.now >>= f).run.Runs t o ↔
      ∃ time u, t = ⟨.now, time⟩ :: u ∧ (f time).run.Runs u o := by
  constructor
  · intro h
    cases h with
    | perform rest => exact ⟨_, _, rfl, rest⟩
  · rintro ⟨time, u, rfl, rest⟩
    exact .perform rest

end Service
end CensusLink
