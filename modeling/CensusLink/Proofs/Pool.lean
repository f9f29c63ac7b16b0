import CensusLink.Proofs.Interleaving
import Mathlib.Data.List.Nodup

/-!
A pool of programs that run on one host, so many at a time. The programs begin in their order as
there is room for them; those that have begun go on in turns of any kind, and their results come in
as they end. In a complete run each program has run as its share says and has given one result, and
whatever the bound, there is a complete run in which one program is done after the other.
-/
namespace CensusLink

/-- Numbered programs: those that wait, those that have begun, and the results of those that have
ended. -/
structure Pool (α : Type) where
  waiting : List (Nat × Program α)
  running : List (Nat × Program α)
  results : List (Nat × α)

namespace Pool

variable {α σ : Type}

/-- Programs that wait, numbered in their order. -/
def ofPrograms (ps : List (Program α)) : Pool α := ⟨ps.zipIdx.map Prod.swap, [], []⟩

/-- The programs that have not ended. -/
def pending (P : Pool α) : List (Nat × Program α) := P.running ++ P.waiting

/-- One thing that may happen next. A program begins if fewer than the bound are running; a bound of
zero counts as one. -/
inductive Step (bound : Nat) (allows : σ → Exchange → σ → Prop) :
    σ → Pool α → JointTrace Nat → σ → Pool α → Prop
  | begin {s : σ} {i : Nat} {p : Program α} {waiting running : List (Nat × Program α)}
      {results : List (Nat × α)} (room : running.length < Nat.max bound 1) :
    Step bound allows s ⟨(i, p) :: waiting, running, results⟩ [] s
      ⟨waiting, running ++ [(i, p)], results⟩
  | exchange {s s' : σ} {i : Nat} {e : Effect} {next : e.Reply → Program α} {reply : e.Reply}
      {waiting before after : List (Nat × Program α)} {results : List (Nat × α)}
      (allowed : allows s ⟨e, reply⟩ s') :
    Step bound allows s ⟨waiting, before ++ (i, .perform e next) :: after, results⟩
      [(i, ⟨e, reply⟩)] s' ⟨waiting, before ++ (i, next reply) :: after, results⟩
  | finish {s : σ} {i : Nat} {a : α} {waiting before after : List (Nat × Program α)}
      {results : List (Nat × α)} :
    Step bound allows s ⟨waiting, before ++ (i, .done a) :: after, results⟩ [] s
      ⟨waiting, before ++ after, results ++ [(i, a)]⟩

inductive Runs (bound : Nat) (allows : σ → Exchange → σ → Prop) :
    σ → Pool α → JointTrace Nat → σ → Pool α → Prop
  | nil (s : σ) (P : Pool α) : Runs bound allows s P [] s P
  | cons {s s₁ s₂ : σ} {P P₁ P₂ : Pool α} {t u : JointTrace Nat}
      (first : Step bound allows s P t s₁ P₁) (rest : Runs bound allows s₁ P₁ u s₂ P₂) :
    Runs bound allows s P (t ++ u) s₂ P₂

variable {bound : Nat} {allows : σ → Exchange → σ → Prop} {s s' s'' : σ} {P Q R : Pool α}
  {t u : JointTrace Nat} {results : List (Nat × α)}

theorem numbers_ofPrograms (ps : List (Program α)) :
    (ofPrograms ps).pending.map (·.1) = List.range ps.length := by
  have numbers : ps.zipIdx.map Prod.snd = List.range' 0 ps.length := List.zipIdx_map_snd 0 ps
  unfold pending ofPrograms
  rw [List.range_eq_range', List.nil_append, List.map_map]
  exact numbers

theorem Step.carries (step : Step bound allows s P t s' Q) : Carries allows s t.whole s' := by
  cases step with
  | begin _ => exact .nil s
  | exchange allowed => exact .cons allowed (.nil s')
  | finish => exact .nil s

theorem Runs.carries (run : Runs bound allows s P t s' Q) : Carries allows s t.whole s' := by
  induction run with
  | nil s P => exact .nil s
  | cons first _ ih =>
    rw [JointTrace.whole_append]
    exact carries_append_iff.2 ⟨_, first.carries, ih⟩

theorem Runs.append (first : Runs bound allows s P t s' Q)
    (second : Runs bound allows s' Q u s'' R) : Runs bound allows s P (t ++ u) s'' R := by
  induction first with
  | nil s P => exact second
  | cons step _ ih =>
    rw [List.append_assoc]
    exact .cons step (ih second)

/-- What a step does to the programs that have not ended and to the results. -/
inductive Advances (pending : List (Nat × Program α)) (results : List (Nat × α)) :
    JointTrace Nat → List (Nat × Program α) → List (Nat × α) → Prop
  | begin : Advances pending results [] pending results
  | exchange {i : Nat} {e : Effect} {next : e.Reply → Program α} {reply : e.Reply}
      {before after : List (Nat × Program α)}
      (split : pending = before ++ (i, .perform e next) :: after) :
    Advances pending results [(i, ⟨e, reply⟩)] (before ++ (i, next reply) :: after) results
  | finish {i : Nat} {a : α} {before after : List (Nat × Program α)}
      (split : pending = before ++ (i, .done a) :: after) :
    Advances pending results [] (before ++ after) (results ++ [(i, a)])

theorem Step.advances (step : Step bound allows s P t s' Q) :
    Advances P.pending P.results t Q.pending Q.results := by
  cases step with
  | @begin i p waiting running kept room =>
    have same : (running ++ [(i, p)]) ++ waiting = running ++ (i, p) :: waiting := by simp
    simp only [pending, same]
    exact .begin
  | exchange allowed =>
    simp only [pending, List.append_assoc, List.cons_append]
    exact .exchange rfl
  | finish =>
    simp only [pending, List.append_assoc, List.cons_append]
    exact .finish rfl

/-- What becomes of the programs that have not ended, and of the results that have come in. Each
program runs as its share says and gives one result, and nobody else takes part. -/
structure Ends (pending : List (Nat × Program α)) (results : List (Nat × α)) (t : JointTrace Nat)
    (all : List (Nat × α)) : Prop where
  parties : ∀ e ∈ t, e.1 ∈ pending.map (·.1)
  ran : ∀ x ∈ pending, ∃ a, (x.1, a) ∈ all ∧ x.2.Runs (t.share x.1) a
  kept : ∀ x ∈ results, x ∈ all
  numbers : (all.map (·.1)).Perm (pending.map (·.1) ++ results.map (·.1))

variable {pending pending' before after : List (Nat × Program α)} {results' all : List (Nat × α)}
  {i : Nat}

/-- All others have other numbers. -/
theorem ne_of_mem_others {p : Program α}
    (distinct : ((before ++ (i, p) :: after).map (·.1)).Nodup) :
    ∀ x ∈ before ++ after, i ≠ x.1 := by
  rw [List.map_append, List.map_cons, List.nodup_middle, ← List.map_append] at distinct
  intro x hx same
  exact (List.nodup_cons.1 distinct).1 (List.mem_map.2 ⟨x, hx, same.symm⟩)

theorem mem_middle_iff {x y : Nat × Program α} :
    x ∈ before ++ y :: after ↔ x = y ∨ x ∈ before ++ after := by
  rw [List.mem_append, List.mem_cons, List.mem_append]
  exact or_left_comm

namespace Ends

/-- An exchange of one program comes first in its share, and in no other. -/
theorem exchange {e : Effect} {next : e.Reply → Program α} {reply : e.Reply}
    (distinct : ((before ++ (i, .perform e next) :: after).map (·.1)).Nodup)
    (ends : Ends (before ++ (i, next reply) :: after) results u all) :
    Ends (before ++ (i, .perform e next) :: after) results ((i, ⟨e, reply⟩) :: u) all := by
  have same : (before ++ (i, next reply) :: after).map (·.1) =
      (before ++ (i, .perform e next) :: after).map (·.1) := by simp
  refine ⟨?_, ?_, ends.kept, same ▸ ends.numbers⟩
  · intro x hx
    rcases List.mem_cons.1 hx with rfl | later
    · simp
    · exact same ▸ ends.parties x later
  · intro x hx
    rcases mem_middle_iff.1 hx with rfl | other
    · obtain ⟨a, given, ran⟩ := ends.ran (i, next reply) (by simp)
      exact ⟨a, given, (JointTrace.share_cons_self i _ u).symm ▸ .perform ran⟩
    · obtain ⟨a, given, ran⟩ := ends.ran x (mem_middle_iff.2 (.inr other))
      have apart := ne_of_mem_others distinct x other
      exact ⟨a, given, (JointTrace.share_cons_of_ne apart _ u).symm ▸ ran⟩

/-- A program that has ended takes part no more, and its result stays. -/
theorem finish {a : α} (distinct : ((before ++ (i, .done a) :: after).map (·.1)).Nodup)
    (ends : Ends (before ++ after) (results ++ [(i, a)]) u all) :
    Ends (before ++ (i, .done a) :: after) results u all := by
  have idle : u.share i = [] := by
    apply JointTrace.share_eq_nil
    intro x hx same
    obtain ⟨y, other, mine⟩ := List.mem_map.1 (ends.parties x hx)
    exact ne_of_mem_others distinct y other (same.symm.trans mine.symm)
  refine ⟨?_, ?_, fun x hx => ends.kept x (List.mem_append_left _ hx), ends.numbers.trans ?_⟩
  · intro x hx
    obtain ⟨y, other, same⟩ := List.mem_map.1 (ends.parties x hx)
    exact List.mem_map.2 ⟨y, mem_middle_iff.2 (.inr other), same⟩
  · intro x hx
    rcases mem_middle_iff.1 hx with rfl | other
    · exact ⟨a, ends.kept (i, a) (by simp), idle.symm ▸ .done a⟩
    · exact ends.ran x other
  · simp only [List.map_append, List.map_cons, List.map_nil, List.append_assoc, List.cons_append]
    refine List.Perm.append_left _ ?_
    rw [← List.append_assoc]
    exact List.perm_append_singleton i _

end Ends

theorem Advances.ends (step : Advances pending results t pending' results')
    (distinct : (pending.map (·.1)).Nodup) (ends : Ends pending' results' u all) :
    Ends pending results (t ++ u) all := by
  cases step with
  | begin => exact ends
  | exchange split =>
    subst split
    exact ends.exchange distinct
  | finish split =>
    subst split
    exact ends.finish distinct

theorem Advances.nodup (step : Advances pending results t pending' results')
    (distinct : (pending.map (·.1)).Nodup) : (pending'.map (·.1)).Nodup := by
  cases step with
  | begin => exact distinct
  | exchange split => simpa [split] using distinct
  | @finish i a before after split =>
    subst split
    have sublist : (before ++ after).Sublist (before ++ (i, .done a) :: after) := by simp
    exact (sublist.map (·.1)).nodup distinct

/-- In a complete run each program has run as its share says and has given one result. -/
theorem Runs.ends (run : Runs bound allows s P t s' Q) (none : Q.pending = [])
    (distinct : (P.pending.map (·.1)).Nodup) : Ends P.pending P.results t Q.results := by
  induction run with
  | nil s P =>
    rw [none]
    exact ⟨List.forall_mem_nil _, List.forall_mem_nil _, fun x hx => hx, .refl _⟩
  | cons step _ ih =>
    -- what becomes of the rest is known when the first step is put in front of it
    refine step.advances.ends distinct (ih none ?_)
    exact step.advances.nodup distinct

/-- A program that has begun goes on to its end while the others stand still. -/
theorem exists_runs_first (total : ∀ s e, ∃ r s', allows s ⟨e, r⟩ s') (i : Nat) (p : Program α)
    (waiting after : List (Nat × Program α)) (results : List (Nat × α)) (s : σ) :
    ∃ t a s', Runs bound allows s ⟨waiting, (i, p) :: after, results⟩ (JointTrace.solo i t) s'
      ⟨waiting, after, results ++ [(i, a)]⟩ := by
  induction p generalizing s with
  | done a =>
    have ends : Step bound allows s ⟨waiting, [] ++ (i, .done a) :: after, results⟩ [] s
        ⟨waiting, [] ++ after, results ++ [(i, a)]⟩ := .finish
    exact ⟨[], a, s, .cons ends (.nil _ _)⟩
  | perform e next ih =>
    obtain ⟨reply, s₁, allowed⟩ := total s e
    obtain ⟨t, a, s', more⟩ := ih reply s₁
    have goes : Step bound allows s ⟨waiting, [] ++ (i, .perform e next) :: after, results⟩
        [(i, ⟨e, reply⟩)] s₁ ⟨waiting, [] ++ (i, next reply) :: after, results⟩ :=
      .exchange allowed
    exact ⟨⟨e, reply⟩ :: t, a, s', .cons goes more⟩

/-- Wherever a pool stands, it may come to its end, with one program after the other. -/
theorem exists_runs (total : ∀ s e, ∃ r s', allows s ⟨e, r⟩ s') (P : Pool α) (s : σ) :
    ∃ turns s' Q, turns.map (·.1) = P.pending.map (·.1) ∧
      Runs bound allows s P (JointTrace.inTurn turns) s' Q ∧ Q.pending = [] := by
  obtain ⟨waiting, running, results⟩ := P
  induction running generalizing s results with
  | cons first after ih =>
    obtain ⟨i, p⟩ := first
    obtain ⟨t, a, s₁, goes⟩ := exists_runs_first total i p waiting after results s
    obtain ⟨turns, s', Q, same, more, none⟩ := ih s₁ (results ++ [(i, a)])
    exact ⟨(i, t) :: turns, s', Q, congrArg (i :: ·) same, goes.append more, none⟩
  | nil =>
    induction waiting generalizing s results with
    | nil => exact ⟨[], s, _, rfl, .nil _ _, rfl⟩
    | cons first rest ih =>
      obtain ⟨i, p⟩ := first
      have begins : Step bound allows s ⟨(i, p) :: rest, [], results⟩ [] s
          ⟨rest, [(i, p)], results⟩ := .begin (Nat.le_max_right bound 1)
      obtain ⟨t, a, s₁, goes⟩ := exists_runs_first total i p rest [] results s
      obtain ⟨turns, s', Q, same, more, none⟩ := ih s₁ (results ++ [(i, a)])
      exact ⟨(i, t) :: turns, s', Q, congrArg (i :: ·) same, (Runs.cons begins goes).append more,
        none⟩

end Pool
end CensusLink
