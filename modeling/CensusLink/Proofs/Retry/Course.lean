import CensusLink.Proofs.Trace
import CensusLink.Retry.Loop

/-!
The course of a write under a retry policy. The same call is made until one attempt does not meet
contention, or until no attempt is left; after each attempt but the last one there is a wait, and a
last attempt that met contention is reported. The main statement says that these are just the traces
of a write, whatever the store replies.
-/
namespace CensusLink
namespace Write

/-- One attempt and its outcome. -/
def exchange (w : Write) (o : Except Fault Unit) : Exchange :=
  match w with
  | .store schema key d => ⟨.call (.store schema key d), o⟩
  | .delete schema key => ⟨.call (.delete schema key), o⟩

variable (p : RetryPolicy) (w : Write)

/-- Attempts that met contention, numbered from the first of them on, each with its wait. -/
def waits : Nat → List Fault → Trace
  | _, [] => []
  | number, f :: met =>
    w.exchange (.error f) :: ⟨.sleep (p.delayAfter number), ()⟩ :: waits (number + 1) met

def Contended (o : Except Fault Unit) : Prop := ∃ f, o = .error f ∧ f.isContention = true

/-- The report that a write is given up, if its last attempt met contention. -/
def report (attempts : Nat) : Except Fault Unit → Trace
  | .ok () => []
  | .error f => if f.isContention then [⟨.giveUp (w.givenUp attempts f), ()⟩] else []

/-- What passes between a write and its store, and what comes of it: attempts that meet contention,
fewer than the policy allows, and a last one, which meets contention only if it is the last that the
policy allows. The write comes to the outcome of its last attempt. -/
def Persists (t : Trace) (o : Except Fault Unit) : Prop :=
  ∃ met : List Fault, (∀ f ∈ met, f.isContention = true) ∧ met.length < p.attempts ∧
    (Contended o → met.length + 1 = p.attempts) ∧
    t = waits p w 1 met ++ w.exchange o :: w.report (met.length + 1) o

variable {p w} {t : Trace} {o : Except Fault Unit}

theorem runs_attempt_iff : w.attempt.Runs t o ↔ t = [w.exchange o] := by
  cases w with
  | store schema key d => exact Program.runs_of_iff
  | delete schema key => exact Program.runs_of_iff

/-- An attempt, and what is done with its outcome. -/
theorem runs_attempt_bind_iff {rest : Except Fault Unit → Program (Except Fault Unit)} :
    (w.attempt >>= rest).Runs t o ↔ ∃ r u, t = w.exchange r :: u ∧ (rest r).Runs u o := by
  rw [Program.runs_bind_iff]
  constructor
  · rintro ⟨r, t₁, u, rfl, first, second⟩
    rw [runs_attempt_iff.1 first]
    exact ⟨r, u, rfl, second⟩
  · rintro ⟨r, u, rfl, second⟩
    exact ⟨r, _, u, rfl, runs_attempt_iff.2 rfl, second⟩

theorem not_contended_ok : ¬ Contended (.ok ()) := by
  rintro ⟨_, ⟨⟩, _⟩

theorem report_of_not_contended {attempts : Nat} (settled : ¬ Contended o) :
    w.report attempts o = [] := by
  cases o with
  | ok _ => rfl
  | error f => exact if_neg fun contended => settled ⟨f, rfl, contended⟩

/-- What follows an attempt that met contention when no other is left. -/
theorem runs_giveUp_iff {f : Fault} (contended : f.isContention = true) {number : Nat} :
    (Program.of (.giveUp (w.givenUp number f)) >>= fun _ => Program.done (.error f)).Runs t o ↔
      t = w.report number (.error f) ∧ o = .error f := by
  rw [report, if_pos contended, Program.runs_bind_iff]
  constructor
  · rintro ⟨_, t₁, t₂, rfl, told, rest⟩
    obtain ⟨rfl, rfl⟩ := Program.runs_done_iff.1 rest
    exact ⟨by rw [Program.runs_of_iff.1 told, List.append_nil]; rfl, rfl⟩
  · rintro ⟨rfl, rfl⟩
    exact ⟨(), _, [], rfl, Program.runs_of_iff.2 rfl, .done _⟩

theorem runs_sleep_bind_iff {ms : Nat} {q : Program (Except Fault Unit)} :
    (Program.of (.sleep ms) >>= fun _ => q).Runs t o ↔
      ∃ u, t = ⟨.sleep ms, ()⟩ :: u ∧ q.Runs u o := by
  rw [Program.runs_bind_iff]
  constructor
  · rintro ⟨_, t₁, u, rfl, slept, rest⟩
    rw [Program.runs_of_iff.1 slept]
    exact ⟨u, rfl, rest⟩
  · rintro ⟨u, rfl, rest⟩
    exact ⟨(), _, u, rfl, Program.runs_of_iff.2 rfl, rest⟩

/-- The traces of a write that has some attempts left after the one it makes now. -/
def PersistsFrom (p : RetryPolicy) (w : Write) (left number : Nat) (t : Trace)
    (o : Except Fault Unit) : Prop :=
  ∃ met : List Fault, (∀ f ∈ met, f.isContention = true) ∧ met.length ≤ left ∧
    (Contended o → met.length = left) ∧
    t = waits p w number met ++ w.exchange o :: w.report (number + met.length) o

variable {left number : Nat}

theorem persistsFrom_of_settled (settled : ¬ Contended o) :
    PersistsFrom p w left number [w.exchange o] o := by
  refine ⟨[], by simp, Nat.zero_le left, fun contended => absurd contended settled, ?_⟩
  rw [waits, List.nil_append, report_of_not_contended settled]

theorem PersistsFrom.again {f : Fault} (contended : f.isContention = true)
    (rest : PersistsFrom p w left (number + 1) t o) :
    PersistsFrom p w (left + 1) number
      (w.exchange (.error f) :: ⟨.sleep (p.delayAfter number), ()⟩ :: t) o := by
  obtain ⟨met, all, few, last, rfl⟩ := rest
  refine ⟨f :: met, List.forall_mem_cons.2 ⟨contended, all⟩, Nat.succ_le_succ few, ?_, ?_⟩
  · intro h
    rw [List.length_cons, last h]
  · have count : number + 1 + met.length = number + (met.length + 1) := by omega
    rw [waits, List.length_cons, count]
    rfl

/-- A write either ends with an attempt, which may be its last, or it waits and makes another. -/
theorem persistsFrom_iff : PersistsFrom p w left number t o ↔
    (¬ Contended o ∧ t = [w.exchange o]) ∨
    (∃ f, f.isContention = true ∧ left = 0 ∧ o = .error f ∧
      t = w.exchange (.error f) :: w.report number (.error f)) ∨
    ∃ f fewer u, f.isContention = true ∧ left = fewer + 1 ∧
      t = w.exchange (.error f) :: ⟨.sleep (p.delayAfter number), ()⟩ :: u ∧
      PersistsFrom p w fewer (number + 1) u o := by
  constructor
  · rintro ⟨met, all, few, last, rfl⟩
    cases met with
    | nil =>
      by_cases contended : Contended o
      · have none := last contended
        obtain ⟨f, rfl, hf⟩ := contended
        exact .inr (.inl ⟨f, hf, none.symm, rfl, rfl⟩)
      · refine .inl ⟨contended, ?_⟩
        rw [waits, List.nil_append, report_of_not_contended contended]
    | cons f met =>
      obtain ⟨hf, later⟩ := List.forall_mem_cons.1 all
      rw [List.length_cons] at few last
      obtain ⟨fewer, rfl⟩ : ∃ fewer, left = fewer + 1 := ⟨left - 1, by omega⟩
      have count : number + 1 + met.length = number + (met.length + 1) := by omega
      refine .inr (.inr ⟨f, fewer, _, hf, rfl, rfl, met, later, Nat.le_of_succ_le_succ few, ?_, ?_⟩)
      · intro contended
        have := last contended
        omega
      · rw [List.length_cons, count]
        rfl
  · rintro (⟨settled, rfl⟩ | ⟨f, hf, rfl, rfl, rfl⟩ | ⟨f, fewer, u, hf, rfl, rfl, rest⟩)
    · exact persistsFrom_of_settled settled
    · exact ⟨[], by simp, Nat.le_refl 0, fun _ => rfl, rfl⟩
    · exact rest.again hf

/-- The same of the write itself, by what its first attempt meets. -/
theorem runs_persist_cases : (w.persist p left number).Runs t o ↔
    (¬ Contended o ∧ t = [w.exchange o]) ∨
    (∃ f, f.isContention = true ∧ left = 0 ∧ o = .error f ∧
      t = w.exchange (.error f) :: w.report number (.error f)) ∨
    ∃ f fewer u, f.isContention = true ∧ left = fewer + 1 ∧
      t = w.exchange (.error f) :: ⟨.sleep (p.delayAfter number), ()⟩ :: u ∧
      (w.persist p fewer (number + 1)).Runs u o := by
  rw [persist, runs_attempt_bind_iff]
  constructor
  · rintro ⟨r, u, rfl, rest⟩
    match r with
    | .ok () =>
      obtain ⟨rfl, rfl⟩ := Program.runs_done_iff.1 rest
      exact .inl ⟨not_contended_ok, rfl⟩
    | .error f =>
      dsimp only at rest
      split at rest
      next contended =>
        cases left with
        | zero =>
          obtain ⟨rfl, rfl⟩ := (runs_giveUp_iff contended).1 rest
          exact .inr (.inl ⟨f, contended, rfl, rfl, rfl⟩)
        | succ fewer =>
          obtain ⟨v, rfl, more⟩ := runs_sleep_bind_iff.1 rest
          exact .inr (.inr ⟨f, fewer, v, contended, rfl, rfl, more⟩)
      next settled =>
        obtain ⟨rfl, rfl⟩ := Program.runs_done_iff.1 rest
        refine .inl ⟨?_, rfl⟩
        rintro ⟨_, ⟨⟩, contended⟩
        exact settled contended
  · rintro (⟨settled, rfl⟩ | ⟨f, contended, rfl, rfl, rfl⟩ |
      ⟨f, fewer, u, contended, rfl, rfl, more⟩)
    · refine ⟨o, [], rfl, ?_⟩
      match o with
      | .ok () => exact .done _
      | .error f =>
        dsimp only
        rw [if_neg fun contended : f.isRetryable = true => settled ⟨f, rfl, contended⟩]
        exact .done _
    · refine ⟨.error f, _, rfl, ?_⟩
      dsimp only
      rw [if_pos (show f.isRetryable = true from contended)]
      exact (runs_giveUp_iff contended).2 ⟨rfl, rfl⟩
    · refine ⟨.error f, _, rfl, ?_⟩
      dsimp only
      rw [if_pos (show f.isRetryable = true from contended)]
      exact runs_sleep_bind_iff.2 ⟨u, rfl, more⟩

/-- A write runs just as its number of attempts allows. -/
theorem runs_persist_iff :
    (w.persist p left number).Runs t o ↔ PersistsFrom p w left number t o := by
  induction left using Nat.strongRecOn generalizing number t with
  | ind left ih =>
    rw [runs_persist_cases, persistsFrom_iff]
    refine or_congr_right (or_congr_right ?_)
    refine exists_congr fun f => exists_congr fun fewer => exists_congr fun u => ?_
    refine and_congr_right fun _ => and_congr_right fun eq => and_congr_right fun _ => ?_
    exact ih fewer (by omega)

theorem runs_make_iff : (w.make p).run.Runs t o ↔ w.Persists p t o := by
  refine runs_persist_iff.trans (exists_congr fun met => and_congr_right fun _ => ?_)
  have positive : 0 < p.attempts := Nat.le_max_left 1 _
  have few : met.length ≤ p.attempts - 1 ↔ met.length < p.attempts := by omega
  have last : met.length = p.attempts - 1 ↔ met.length + 1 = p.attempts := by omega
  rw [few, last, Nat.add_comm 1 met.length]

/-- The first attempt may succeed. -/
theorem persists_once (p : RetryPolicy) (w : Write) :
    w.Persists p [w.exchange (.ok ())] (.ok ()) :=
  ⟨[], List.forall_mem_nil _, Nat.le_max_left 1 _, fun h => absurd h not_contended_ok, rfl⟩

/-- A write comes to an outcome that an attempt had. -/
theorem Persists.exchange_mem (h : w.Persists p t o) : w.exchange o ∈ t := by
  obtain ⟨met, _, _, _, rfl⟩ := h
  simp

end Write
end CensusLink
