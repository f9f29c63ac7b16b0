import CensusLink.Bench
import CensusLink.Proofs.Services.Indifference

/-!
The service on both backends. Where identifiers and times come from one supply, in their order, the
service is carried out by a host without choices, and what it comes to is one function of what it is
asked. On files that function is the same as in memory: each operation has the same result or the
same failure, up to the order of the cases at an address, and the same events are published under
the same headers.
-/
namespace CensusLink

/-- A host without choices, as one that allows just what it does. -/
def Plays {σ : Type} (host : (e : Effect) → StateM σ e.Reply) (s : σ) (x : Exchange) (s' : σ) :
    Prop := (host x.effect).run s = (x.reply, s')

namespace Program

variable {α σ : Type}

/-- A run on such a host is what the host makes of the program. -/
theorem run_eq_of_runsOn {host : (e : Effect) → StateM σ e.Reply} {p : Program α} {s s' : σ}
    {t : Trace} {a : α} (h : RunsOn (Plays host) p s t a s') : (p.run host).run s = (a, s') := by
  induction p generalizing s t with
  | done b =>
    obtain ⟨runs, carried⟩ := h
    obtain ⟨rfl, rfl⟩ := runs_done_iff.1 runs
    cases carried
    rfl
  | perform e next ih =>
    obtain ⟨runs, carried⟩ := h
    cases runs with | @perform _ _ reply _ _ more =>
    cases carried with | @cons _ s₁ _ _ _ first later =>
    have here : (host e).run s = (reply, s₁) := first
    rw [Program.run, StateT.run_bind, here]
    exact ih reply ⟨more, later⟩

theorem exists_runsOn_plays (host : (e : Effect) → StateM σ e.Reply) (p : Program α) (s : σ) :
    ∃ t, RunsOn (Plays host) p s t ((p.run host).run s).1 ((p.run host).run s).2 := by
  have allowed (e : Effect) (s s' : σ) (same : s = s') : ∃ s₁,
      Plays host s' ⟨e, ((host e).run s).1⟩ s₁ ∧ ((host e).run s).2 = s₁ :=
    ⟨_, congrArg (host e).run same.symm, rfl⟩
  obtain ⟨t, s', run, rfl⟩ := runsOn_run allowed p (rfl : s = s)
  exact ⟨t, run⟩

end Program

/-- Identifiers and times in their order, and what the bus says of an event. -/
structure Supply where
  ids : Nat → Uuid
  times : Nat → Instant
  delivers : OutboundEvent → Except Fault Unit

/-- What a backend keeps, how many identifiers and times have been drawn, and what has been
published. -/
structure Scene (b : Backend) where
  holding : b.Holding
  ids : Nat
  times : Nat
  events : List OutboundEvent

namespace Supply

variable (supply : Supply) (root : String)

/-- Carries out effects on a backend. An event is published under a time and an identifier of its
own. -/
def host (b : Backend) : (e : Effect) → StateM (Scene b) e.Reply
  | .call c => fun s =>
    let (outcome, holding) := b.step root s.holding c
    (outcome, { s with holding })
  | .publish n => fun s =>
    let e : OutboundEvent :=
      ⟨⟨n.type, n.source, n.channel, supply.times s.times, supply.ids s.ids⟩, n.payload⟩
    (supply.delivers e,
      { s with ids := s.ids + 1, times := s.times + 1, events := s.events ++ [e] })
  | .sleep _ => pure ()
  | .giveUp _ => pure ()
  | .freshId => fun s => (supply.ids s.ids, { s with ids := s.ids + 1 })
  | .now => fun s => (supply.times s.times, { s with times := s.times + 1 })

/-- What comes of operations on a backend that nothing has been kept in. -/
def serve (b : Backend) (r : Registry) (settings : LinkSettings) (ops : List Operation) :
    List Served × Scene b :=
  ((serveAll r settings ops).run (supply.host root b)).run ⟨b.blank, 0, 0, []⟩

end Supply

/-- Two backends at the same point: as much has been drawn, the same has been published, and they
hold the same documents. -/
structure Scene.Matches (r : Registry) (root root' : String) {b b' : Backend} (s : Scene b)
    (x : Scene b') : Prop where
  ids : s.ids = x.ids
  times : s.times = x.times
  events : s.events = x.events
  documents : ∃ m, Backend.Holds r root b s.holding m ∧ Backend.Holds r root' b' x.holding m

/-- One backend shadows the other from one such point to the next. -/
theorem Supply.shadows (supply : Supply) {r : Registry} (named : r.WellNamed)
    (root root' : String) (b b' : Backend) :
    Program.Shadows r (Plays (supply.host root b)) (Plays (supply.host root' b'))
      (Scene.Matches r root root') where
  call {s s₁ x c o} proper h first := by
    obtain ⟨m, here, there⟩ := h.documents
    obtain ⟨alike, later⟩ := here.step named proper
    obtain ⟨alike', later'⟩ := there.step named proper
    obtain ⟨rfl, rfl⟩ := Prod.mk.inj
      (show ((b.step root s.holding c).1, { s with holding := (b.step root s.holding c).2 }) =
        (o, s₁) from first)
    exact ⟨m, _, { x with holding := (b'.step root' x.holding c).2 }, here.placed, alike, alike',
      rfl, h.ids, h.times, h.events, _, later, later'⟩
  other {s s₁ x e reply} calls h first := by
    cases e with
    | call c => cases calls
    | publish n =>
      obtain ⟨rfl, rfl⟩ := Prod.mk.inj first
      refine ⟨((supply.host root' b' (.publish n)).run x).2, ?_, ?_⟩
      · simp only [Plays, host, StateT.run, h.ids, h.times]
      · refine ⟨congrArg (· + 1) h.ids, congrArg (· + 1) h.times, ?_, h.documents⟩
        simp only [h.ids, h.times, h.events]
        rfl
    | sleep ms =>
      obtain ⟨_, rfl⟩ := Prod.mk.inj first
      exact ⟨x, rfl, h⟩
    | giveUp g =>
      obtain ⟨_, rfl⟩ := Prod.mk.inj first
      exact ⟨x, rfl, h⟩
    | freshId =>
      obtain ⟨rfl, rfl⟩ := Prod.mk.inj first
      refine ⟨{ x with ids := x.ids + 1 }, ?_, congrArg (· + 1) h.ids, h.times, h.events,
        h.documents⟩
      simp only [Plays, host, StateT.run, h.ids]
    | now =>
      obtain ⟨rfl, rfl⟩ := Prod.mk.inj first
      refine ⟨{ x with times := x.times + 1 }, ?_, h.ids, congrArg (· + 1) h.times, h.events,
        h.documents⟩
      simp only [Plays, host, StateT.run, h.times]

/-- From the same supply the service comes to the same on both backends, whatever it is asked: each
operation has the same result or the same failure, where only the cases at an address may be listed
in another order, and the same events are published. -/
theorem Supply.serve_alike (supply : Supply) {r : Registry} (named : r.WellNamed)
    (settings : LinkSettings) {ops : List Operation} (typed : ∀ o ∈ ops, o.Typed)
    (root root' : String) (b b' : Backend) :
    List.Forall₂ Served.Alike (supply.serve root b r settings ops).1
      (supply.serve root' b' r settings ops).1 ∧
    (supply.serve root b r settings ops).2.events =
      (supply.serve root' b' r settings ops).2.events := by
  have start : Scene.Matches r root root' (⟨b.blank, 0, 0, []⟩ : Scene b)
      (⟨b'.blank, 0, 0, []⟩ : Scene b') :=
    ⟨rfl, rfl, rfl, .empty, Backend.holds_blank r root b, Backend.holds_blank r root' b'⟩
  obtain ⟨t, run⟩ := Program.exists_runsOn_plays (supply.host root b) (serveAll r settings ops)
    ⟨b.blank, 0, 0, []⟩
  obtain ⟨u, served, x, run', alike, later, _⟩ :=
    (agrees_serveAll named settings typed).shadowed (supply.shadows named root root' b b') start run
  have eq : supply.serve root' b' r settings ops = (served, x) := Program.run_eq_of_runsOn run'
  rw [eq]
  exact ⟨alike, later.events⟩

/-! An example: a household that is written first and comes second in the order of ids, and a code
that is linked at their address. -/
namespace Sample

def supply : Supply where
  ids := Bench.serial 0
  times := Bench.tick
  delivers _ := .ok ()

def visit : List Operation :=
  [.writeCode code, .writeCase ((household "b").map Instant.moment),
    .writeCase ((household "a").map Instant.moment), .readCasesAt "100",
    .link "code" (.of "100" "HH")]

end Sample

theorem Supply.serve_alike_sample :
    List.Forall₂ Served.Alike
      (Sample.supply.serve "" .memory Sample.registry .standard Sample.visit).1
      (Sample.supply.serve "docs" .file Sample.registry .standard Sample.visit).1 ∧
    (Sample.supply.serve "" .memory Sample.registry .standard Sample.visit).2.events =
      (Sample.supply.serve "docs" .file Sample.registry .standard Sample.visit).2.events := by
  have typed : ∀ o ∈ Sample.visit, o.Typed := by
    simp [Sample.visit, Operation.Typed]
  exact Sample.supply.serve_alike Sample.wellNamed .standard typed "" "docs" .memory .file

end CensusLink
