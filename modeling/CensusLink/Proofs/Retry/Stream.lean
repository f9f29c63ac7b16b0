import CensusLink.Proofs.Retry.Course
import CensusLink.Records
import Mathlib.Data.List.Induction

/-!
A write on a store whose outcomes are given in advance, one to each call. The write makes its call
until an outcome is not contention or no attempt is left, waits between any two calls, and reports
only a last attempt that met contention. A counter of 32 bits is enough to count the attempts of any
policy.
-/
namespace CensusLink

/-- A store that has its outcomes in a row: what it has been called so far says what comes next. -/
def AnswersFrom (outcomes : Nat → Except Fault Unit) (calls : Nat) : Exchange → Nat → Prop
  | ⟨.call (.store _ _ _), reply⟩, calls' => reply = outcomes calls ∧ calls' = calls + 1
  | ⟨.call (.delete _ _), reply⟩, calls' => reply = outcomes calls ∧ calls' = calls + 1
  | _, calls' => calls' = calls

theorem exists_answersFrom (outcomes : Nat → Except Fault Unit) (calls : Nat) (e : Effect) :
    ∃ reply calls', AnswersFrom outcomes calls ⟨e, reply⟩ calls' := by
  cases e with
  | call c =>
    cases c with
    | store schema key d => exact ⟨outcomes calls, calls + 1, rfl, rfl⟩
    | delete schema key => exact ⟨outcomes calls, calls + 1, rfl, rfl⟩
    | retrieve schema key => exact ⟨.ok none, calls, rfl⟩
    | search schema path value => exact ⟨.ok [], calls, rfl⟩
  | publish n => exact ⟨.ok (), calls, rfl⟩
  | sleep ms => exact ⟨(), calls, rfl⟩
  | giveUp g => exact ⟨(), calls, rfl⟩
  | freshId => exact ⟨⟨0, by decide⟩, calls, rfl⟩
  | now => exact ⟨⟨⟨1970, 1, 1, 0, 0⟩, by decide⟩, calls, rfl⟩

namespace Write

variable (p : RetryPolicy) (w : Write) (outcomes : Nat → Except Fault Unit)

/-- The first calls of a write, each with the wait behind it. -/
def tries : Nat → Trace
  | 0 => []
  | count + 1 =>
    tries count ++ [w.exchange (outcomes count), ⟨.sleep (p.delayAfter (count + 1)), ()⟩]

/-- How a write ends: with the first outcome that is not contention, if an attempt comes so far, or
else with the outcome of the last attempt, which it reports. -/
inductive Ends : Trace → Except Fault Unit → Prop
  | settled {count : Nat} (allowed : count < p.attempts)
      (before : ∀ i < count, Contended (outcomes i)) (here : ¬ Contended (outcomes count)) :
    Ends (tries p w outcomes count ++ [w.exchange (outcomes count)]) (outcomes count)
  | exhausted {f : Fault} (all : ∀ i < p.attempts, Contended (outcomes i))
      (last : outcomes (p.attempts - 1) = .error f) :
    Ends (tries p w outcomes (p.attempts - 1) ++ [w.exchange (.error f),
      ⟨.giveUp ⟨w.operation, w.schema, w.key, p.attempts, f⟩, ()⟩]) (.error f)

/-- The loop with a counter of 32 bits for its attempts, to make so many rounds at most. It comes to
nothing if it needs more rounds or the counter overflows. -/
def countedLoop : Nat → UInt32 → Program (Option (Except Fault Unit))
  | 0, _ => .done none
  | rounds + 1, attempt => do
    match ← w.attempt with
    | .ok () => .done (some (.ok ()))
    | .error f =>
      if f.isRetryable then
        if max p.maxAttempts 1 ≤ attempt then do
          let _ ← Program.of (.giveUp (w.givenUp attempt.toNat f))
          .done (some (.error f))
        else do
          let _ ← Program.of (.sleep (p.delayAfter attempt.toNat))
          if attempt.toNat + 1 < UInt32.size then countedLoop rounds (attempt + 1)
          else .done none
      else .done (some (.error f))

variable {p w outcomes} {t : Trace} {o : Except Fault Unit} {calls calls' : Nat}

/-- A call of the write gets the next outcome. -/
theorem answersFrom_exchange_iff :
    AnswersFrom outcomes calls (w.exchange o) calls' ↔ o = outcomes calls ∧ calls' = calls + 1 := by
  cases w <;> rfl

theorem waits_append (number : Nat) (met : List Fault) (f : Fault) :
    waits p w number (met ++ [f]) = waits p w number met ++
      [w.exchange (.error f), ⟨.sleep (p.delayAfter (number + met.length)), ()⟩] := by
  induction met generalizing number with
  | nil => rfl
  | cons g rest ih =>
    have count : number + 1 + rest.length = number + (rest.length + 1) := by omega
    rw [List.cons_append, waits, waits, ih, List.length_cons, count]
    rfl

/-- Attempts that met contention have met the first outcomes in their order. -/
theorem tries_of_carries {met : List Fault} (contended : ∀ f ∈ met, f.isContention = true)
    (carried : Carries (AnswersFrom outcomes) 0 (waits p w 1 met) calls) :
    waits p w 1 met = tries p w outcomes met.length ∧ calls = met.length ∧
      ∀ i < met.length, Contended (outcomes i) := by
  induction met using List.reverseRecOn generalizing calls with
  | nil =>
    cases carried
    exact ⟨rfl, rfl, nofun⟩
  | append_singleton met f ih =>
    rw [waits_append] at carried ⊢
    obtain ⟨_, before, after⟩ := carries_append_iff.1 carried
    obtain ⟨same, rfl, all⟩ := ih (fun g hg => contended g (List.mem_append_left _ hg)) before
    cases after with
    | cons called slept =>
      cases carries_singleton_iff.1 slept
      obtain ⟨outcome, rfl⟩ := answersFrom_exchange_iff.1 called
      rw [List.length_append, List.length_singleton, tries, ← same, ← outcome, Nat.add_comm 1]
      refine ⟨rfl, rfl, fun i lt => ?_⟩
      rcases Nat.lt_succ_iff_lt_or_eq.1 lt with lt | rfl
      · exact all i lt
      · exact ⟨f, outcome.symm, contended f (by simp)⟩

/-- What a store of given outcomes makes of a write. -/
theorem Persists.ends (persists : w.Persists p t o)
    (carried : Carries (AnswersFrom outcomes) 0 t calls) : Ends p w outcomes t o := by
  obtain ⟨met, contended, few, last, rfl⟩ := persists
  obtain ⟨_, before, after⟩ := carries_append_iff.1 carried
  obtain ⟨same, rfl, all⟩ := tries_of_carries contended before
  cases after with
  | cons called reported =>
    obtain ⟨rfl, rfl⟩ := answersFrom_exchange_iff.1 called
    rw [same]
    by_cases here : Contended (outcomes met.length)
    · have count := last here
      obtain ⟨f, outcome, retryable⟩ := here
      have exact : met.length = p.attempts - 1 := by omega
      have every : ∀ i < p.attempts, Contended (outcomes i) := by
        intro i lt
        rcases Nat.lt_or_eq_of_le (show i ≤ met.length by omega) with lt | rfl
        · exact all i lt
        · exact ⟨f, outcome, retryable⟩
      rw [outcome, report, if_pos retryable, count, exact]
      exact .exhausted every (exact ▸ outcome)
    · rw [report_of_not_contended here]
      exact .settled few all here

theorem toNat_max_one (p : RetryPolicy) : (max p.maxAttempts 1).toNat = p.attempts := by
  change (if p.maxAttempts ≤ 1 then 1 else p.maxAttempts).toNat = max 1 p.maxAttempts.toNat
  split
  next le =>
    have le := UInt32.le_iff_toNat_le.1 le
    exact (Nat.max_eq_left le).symm
  next gt =>
    have gt := mt UInt32.le_iff_toNat_le.2 gt
    exact (Nat.max_eq_right (Nat.le_of_not_le gt)).symm

theorem attempts_lt (p : RetryPolicy) : p.attempts < UInt32.size := by
  rw [← toNat_max_one]
  exact UInt32.toNat_lt_size _

/-- A counter of 32 bits tells the attempts of a policy apart. -/
theorem countedLoop_eq {left extra : Nat} {attempt : UInt32}
    (count : attempt.toNat + left = p.attempts) :
    countedLoop p w (left + 1 + extra) attempt = some <$> w.persist p left attempt.toNat := by
  have bound := attempts_lt p
  induction left generalizing attempt with
  | zero =>
    have reached : max p.maxAttempts 1 ≤ attempt := by
      rw [UInt32.le_iff_toNat_le, toNat_max_one]
      omega
    rw [Nat.zero_add, Nat.add_comm, countedLoop, persist, map_bind]
    refine bind_congr fun r => ?_
    cases r with
    | ok _ => rfl
    | error f =>
      dsimp only
      by_cases contended : f.isRetryable
      · rw [if_pos contended, if_pos contended, if_pos reached, map_bind]
        rfl
      · rw [if_neg contended, if_neg contended]
        rfl
  | succ left ih =>
    have more : ¬ max p.maxAttempts 1 ≤ attempt := by
      rw [UInt32.le_iff_toNat_le, toNat_max_one]
      omega
    have room : attempt.toNat + 1 < UInt32.size := by omega
    have next : (attempt + 1).toNat = attempt.toNat + 1 := by
      rw [UInt32.toNat_add]
      exact Nat.mod_eq_of_lt room
    have rounds : left + 1 + 1 + extra = left + 1 + extra + 1 := by omega
    rw [rounds, countedLoop, persist, map_bind]
    refine bind_congr fun r => ?_
    cases r with
    | ok _ => rfl
    | error f =>
      dsimp only
      by_cases contended : f.isRetryable
      · rw [if_pos contended, if_pos contended, if_neg more, map_bind]
        refine bind_congr fun _ => ?_
        rw [if_pos room, ih (by omega), next]
      · rw [if_neg contended, if_neg contended]
        rfl

end Write

/-- A write as it is asked for. -/
def Records.write (p : RetryPolicy) : Write → Service Unit
  | .store schema key d => putDocument p schema key (.ok d)
  | .delete schema key => remove p schema key

theorem Records.write_eq (p : RetryPolicy) (w : Write) : write p w = w.make p := by
  cases w <;> rfl

/-- A write comes to an end on whatever outcomes its store has, and it makes the calls, the waits
and the report that they call for. For any policy a counter of 32 bits is enough to count its
attempts. What has no JSON form is not even tried to be kept. -/
theorem Records.write_ends (p : RetryPolicy) (w : Write) (outcomes : Nat → Except Fault Unit) :
    (∃ t o calls, Program.RunsOn (AnswersFrom outcomes) (write p w).run 0 t o calls) ∧
    (∀ t o calls, Program.RunsOn (AnswersFrom outcomes) (write p w).run 0 t o calls →
      w.Ends p outcomes t o) ∧
    (∀ rounds, p.attempts ≤ rounds → w.countedLoop p rounds 1 = some <$> (write p w).run) ∧
    ∀ schema key reason t o, (putDocument p schema key (.error reason)).run.Runs t o ↔
      t = [] ∧ o = .error (unwritable schema key reason) := by
  refine ⟨?_, ?_, ?_, ?_⟩
  · exact Program.exists_runsOn (exists_answersFrom outcomes) _ _
  · rintro t o calls ⟨runs, carried⟩
    rw [write_eq] at runs
    exact (Write.runs_make_iff.1 runs).ends carried
  · intro rounds enough
    have some_attempt : 0 < p.attempts := Nat.le_max_left 1 _
    obtain ⟨extra, rfl⟩ := Nat.exists_eq_add_of_le enough
    have one : (1 : UInt32).toNat = 1 := rfl
    have count : (1 : UInt32).toNat + (p.attempts - 1) = p.attempts := by omega
    have same := @Write.countedLoop_eq p w (p.attempts - 1) extra 1 count
    rw [Nat.sub_add_cancel some_attempt] at same
    rw [same, write_eq]
    rfl
  · intro schema key reason t o
    exact Program.runs_done_iff

/-! An example: a store that is shut for two calls. -/
namespace Sample

def withdrawal : Write := .delete "case" "a"

def shut : Fault := .contention "shut"

def shutTwice (calls : Nat) : Except Fault Unit := if calls < 2 then .error shut else .ok ()

end Sample

/-- Five attempts are enough in the example, and one is not. -/
theorem Records.write_ends_sample :
    (∃ calls,
      Program.RunsOn (AnswersFrom Sample.shutTwice) (write .standard Sample.withdrawal).run 0
      [Sample.withdrawal.exchange (.error Sample.shut),
        ⟨.sleep (RetryPolicy.standard.delayAfter 1), ()⟩,
        Sample.withdrawal.exchange (.error Sample.shut),
        ⟨.sleep (RetryPolicy.standard.delayAfter 2), ()⟩,
        Sample.withdrawal.exchange (.ok ())] (.ok ()) calls) ∧
    ∃ calls, Program.RunsOn (AnswersFrom Sample.shutTwice) (write .once Sample.withdrawal).run 0
      [Sample.withdrawal.exchange (.error Sample.shut),
        ⟨.giveUp (Sample.withdrawal.givenUp 1 Sample.shut), ()⟩]
      (.error Sample.shut) calls := by
  have contended : ∀ calls, calls < 2 → Write.Contended (Sample.shutTwice calls) := by
    intro calls lt
    exact ⟨Sample.shut, if_pos lt, rfl⟩
  have settled : ∀ calls, 2 ≤ calls → ¬ Write.Contended (Sample.shutTwice calls) := by
    intro calls le
    rw [Sample.shutTwice, if_neg (by omega)]
    exact Write.not_contended_ok
  constructor
  · obtain ⟨⟨t, o, calls, run⟩, ends, _⟩ := write_ends .standard Sample.withdrawal Sample.shutTwice
    cases id (ends t o calls run) with
    | @settled count _ before here =>
      have le : ¬ count < 2 := fun lt => here (contended count lt)
      have ge : ¬ 2 < count := fun lt => settled 2 (Nat.le_refl 2) (before 2 lt)
      obtain rfl : count = 2 := by omega
      exact ⟨calls, run⟩
    | exhausted all last => cases last
  · obtain ⟨⟨t, o, calls, run⟩, ends, _⟩ := write_ends .once Sample.withdrawal Sample.shutTwice
    cases id (ends t o calls run) with
    | @settled count few before here =>
      have first : count = 0 := Nat.lt_one_iff.1 few
      exact absurd (contended count (by omega)) here
    | exhausted all last =>
      cases last
      exact ⟨calls, run⟩

end CensusLink
