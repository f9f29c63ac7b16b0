import CensusLink.Proofs.Services.BothBackends

/-!
Publishing is fire-and-forget. The service is carried out in a world, which is all that it meets but
the publisher, and with a publisher that has states of its own. Whatever two publishers make of the
events, a heedless program comes to the same result in the same world, and all that passes on the
way is the same but for what the publishers say. The main statement is about linking a code, and
about any sequence of operations.
-/
namespace CensusLink

/-- What becomes of each event that is published. It may go by all that was published before. -/
abbrev Publisher (τ : Type) := Notice → StateM τ (Except Fault Unit)

/-- A backend, whatever it makes of a call, with the clock, the new identifiers and the hook for
writes that are given up. -/
structure World (σ : Type) where
  answer : (c : StoreCall) → StateM σ c.Outcome
  sleep : Nat → StateM σ Unit
  giveUp : GivenUp → StateM σ Unit
  freshId : StateM σ Uuid
  now : StateM σ Instant

/-- What has been seen of a program that was carried out: its result, what the world is after it,
and all that has passed. -/
structure Play (α σ : Type) where
  result : α
  world : σ
  passed : Trace

/-- All that passes when a host without choices carries out a program. -/
def Program.passed {α σ : Type} (host : (e : Effect) → StateM σ e.Reply) : Program α → σ → Trace
  | .done _, _ => []
  | .perform e next, s =>
    let (reply, after) := (host e).run s
    ⟨e, reply⟩ :: (next reply).passed host after

/-- What passes is a run of the program on its host. -/
theorem Program.runsOn_passed {α σ : Type} (host : (e : Effect) → StateM σ e.Reply)
    (p : Program α) (s : σ) :
    RunsOn (Plays host) p s (p.passed host s) ((p.run host).run s).1 ((p.run host).run s).2 := by
  induction p generalizing s with
  | done a => exact ⟨.done a, .nil s⟩
  | perform e next ih =>
    obtain ⟨runs, carried⟩ := ih ((host e).run s).1 ((host e).run s).2
    exact ⟨.perform runs, .cons rfl carried⟩

namespace World

variable {α σ τ τ' : Type}

/-- Something that is done in the world, next to a publisher that stays as it is. -/
def inside (x : StateM σ α) : StateM (σ × τ) α := fun s =>
  let (a, world) := x.run s.1
  (a, world, s.2)

variable (w : World σ)

def host (bus : Publisher τ) : (e : Effect) → StateM (σ × τ) e.Reply
  | .call c => inside (w.answer c)
  | .publish n => fun s =>
    let (reply, after) := (bus n).run s.2
    (reply, s.1, after)
  | .sleep ms => inside (w.sleep ms)
  | .giveUp g => inside (w.giveUp g)
  | .freshId => inside w.freshId
  | .now => inside w.now

/-- A program carried out from one point of the world and one of the publisher. -/
def play (bus : Publisher τ) (p : Program α) (s : σ) (b : τ) : Play α σ :=
  let (result, world, _) := (p.run (w.host bus)).run (s, b)
  ⟨result, world, p.passed (w.host bus) (s, b)⟩

/-- But for publishing, the publisher is not asked. -/
theorem host_of_silent {e : Effect} (silent : e.notice? = none) : ∃ x : StateM σ e.Reply,
    ∀ {τ : Type} (bus : Publisher τ), w.host bus e = inside x := by
  cases e with
  | call c => exact ⟨w.answer c, fun _ => rfl⟩
  | publish n => cases silent
  | sleep ms => exact ⟨w.sleep ms, fun _ => rfl⟩
  | giveUp g => exact ⟨w.giveUp g, fun _ => rfl⟩
  | freshId => exact ⟨w.freshId, fun _ => rfl⟩
  | now => exact ⟨w.now, fun _ => rfl⟩

/-- Operations that are played one after the other: each is carried out from where the one before it
has left the world and the publisher. -/
theorem serving_play (bus : Publisher τ) (r : Registry) (settings : LinkSettings)
    (ops : List Operation) (s : σ) (b : τ) :
    ∃ after, Serving (Plays (w.host bus)) r settings (s, b)
      (w.play bus (serveAll r settings ops) s b).result
      ((w.play bus (serveAll r settings ops) s b).world, after) ∧
    (w.play bus (serveAll r settings ops) s b).result.map (·.operation) = ops :=
  ⟨_, serving_of_runsOn (Program.runsOn_passed _ _ _)⟩

end World

/-- The same is asked for, and unless it is to publish something the reply is the same too. -/
def Exchange.Concurs (x y : Exchange) : Prop :=
  x.effect = y.effect ∧ (x.effect.notice? = none → x = y)

theorem Exchange.Concurs.refl (x : Exchange) : x.Concurs x := ⟨rfl, fun _ => rfl⟩

theorem Exchange.concurs_publish (n : Notice) (reply reply' : Except Fault Unit) :
    Exchange.Concurs ⟨.publish n, reply⟩ ⟨.publish n, reply'⟩ := by
  refine ⟨rfl, fun silent => ?_⟩
  cases silent

theorem Trace.effects_eq_of_concurs {t u : Trace} (h : List.Forall₂ Exchange.Concurs t u) :
    t.effects = u.effects := by
  induction h with
  | nil => rfl
  | cons first _ ih => exact congrArg₂ (· :: ·) first.1 ih

/-- The same, but for what the publishers say: the result, the world that is left, the calls with
their documents and what is published, each in its order, and every reply of the world. -/
structure Play.Concurs {α σ : Type} (x y : Play α σ) : Prop where
  result : x.result = y.result
  world : x.world = y.world
  calls : x.passed.calls = y.passed.calls
  notices : x.passed.notices = y.passed.notices
  replies : List.Forall₂ Exchange.Concurs x.passed y.passed

section Heedless

variable {α σ τ τ' : Type} {p : Program α} (w : World σ) (bus : Publisher τ) (bus' : Publisher τ')

/-- A publisher makes no difference to a heedless program, by induction on its effects: what is
inside the world is asked in the same state of it, and what is published is not waited for. -/
theorem Program.Heedless.plays (h : p.Heedless) (s : σ) (b : τ) (b' : τ') :
    (w.play bus p s b).result = (w.play bus' p s b').result ∧
    (w.play bus p s b).world = (w.play bus' p s b').world ∧
    List.Forall₂ Exchange.Concurs (w.play bus p s b).passed (w.play bus' p s b').passed := by
  induction h generalizing s b b' with
  | done a => exact ⟨rfl, rfl, .nil⟩
  | @perform e next silent _ ih =>
    obtain ⟨x, inside⟩ := w.host_of_silent silent
    obtain ⟨result, world, rest⟩ := ih (x.run s).1 (x.run s).2 b b'
    simp only [World.play, Program.run, Program.passed, StateT.run_bind, inside]
    exact ⟨result, world, .cons (.refl _) rest⟩
  | @tell n p _ ih =>
    obtain ⟨result, world, rest⟩ := ih s ((bus n).run b).2 ((bus' n).run b').2
    exact ⟨result, world, .cons (Exchange.concurs_publish n _ _) rest⟩

theorem Program.Heedless.concurs (h : p.Heedless) (s : σ) (b : τ) (b' : τ') :
    (w.play bus p s b).Concurs (w.play bus' p s b') := by
  obtain ⟨result, world, replies⟩ := h.plays w bus bus' s b b'
  obtain ⟨calls, notices⟩ := Trace.calls_eq_of_effects (Trace.effects_eq_of_concurs replies)
  exact ⟨result, world, calls, notices, replies⟩

end Heedless

/-- Whatever becomes of the events, linking a code makes the same calls with the same documents,
comes to the same result or failure, leaves the same store and attempts the same publications. So
does any sequence of operations, where each begins in what the one before it has left. -/
theorem publishing_is_fire_and_forget {σ τ τ' : Type} (w : World σ) (bus : Publisher τ)
    (bus' : Publisher τ') (r : Registry) (settings : LinkSettings) (s : σ) (b : τ) (b' : τ') :
    (∀ (hash : String) (request : LinkRequest),
      (w.play bus (Link.link r settings hash request).run s b).Concurs
        (w.play bus' (Link.link r settings hash request).run s b')) ∧
    ∀ ops : List Operation, (w.play bus (serveAll r settings ops) s b).Concurs
      (w.play bus' (serveAll r settings ops) s b') := by
  refine ⟨fun hash request => ?_, fun ops => ?_⟩
  · have heedless : (Link.link r settings hash request).run.Heedless :=
      (Link.inStep_link settings (fun _ keeps => keeps) hash request).orderly.heedless
    exact heedless.concurs w bus bus' s b b'
  · exact (inStep_serveAll r settings ops).orderly.heedless.concurs w bus bus' s b b'

end CensusLink
