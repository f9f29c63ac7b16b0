import CensusLink.Proofs.Services.Operations

/-!
Contention that is absorbed. A call that meets contention changes nothing, and a write is made again
until it gets through. So as long as no write meets contention as often in a row as its policy has
attempts, what is served is what is served without the failed attempts and the waits after them.
Reads are not made again: one that meets contention fails.
-/
namespace CensusLink

section Hosts

variable {σ : Type} (step : σ → (c : StoreCall) → c.Outcome × σ)

/-- A store as a host. Some calls may also meet contention, and then they change nothing. -/
def Serves (meets : StoreCall → Prop) (s : σ) : Exchange → σ → Prop
  | ⟨.call c, reply⟩, s' => step s c = (reply, s') ∨
      (meets c ∧ (∃ f, reply = .error f ∧ f.isContention = true) ∧ s' = s)
  | ⟨.publish _, _⟩, s' => s' = s
  | ⟨.sleep _, _⟩, s' => s' = s
  | ⟨.giveUp _, _⟩, s' => s' = s
  | ⟨.freshId, _⟩, s' => s' = s
  | ⟨.now, _⟩, s' => s' = s

theorem certain_serves : Certain (Serves step fun _ => False) where
  answers := by
    rintro s s₁ s₂ c o o' (first | ⟨never, _⟩) (second | ⟨never, _⟩)
    · rw [first] at second
      exact Prod.mk.inj second
    · exact never.elim
    · exact never.elim
    · exact never.elim
  still := by
    rintro s s' e r other allowed
    cases e with
    | call c => cases other
    | _ => exact allowed

end Hosts

def Exchange.givenUp? : Exchange → Option GivenUp
  | ⟨.giveUp g, _⟩ => some g
  | _ => none

namespace Trace

/-- The writes that are reported as given up. -/
def givenUp (t : Trace) : List GivenUp := t.filterMap Exchange.givenUp?

@[simp]
theorem givenUp_append (t u : Trace) : givenUp (t ++ u) = t.givenUp ++ u.givenUp :=
  List.filterMap_append

/-- An attempt to write that met contention, or a wait. -/
def isAbsorbed : Exchange → Bool
  | ⟨.call c, .error f⟩ => c.isWrite && f.isContention
  | ⟨.sleep _, _⟩ => true
  | _ => false

/-- A trace without what is absorbed. -/
def settled (t : Trace) : Trace := t.filter fun x => !isAbsorbed x

@[simp]
theorem settled_append (t u : Trace) : settled (t ++ u) = t.settled ++ u.settled :=
  List.filter_append ..

theorem settled_cons {x : Exchange} (plain : isAbsorbed x = false) (t : Trace) :
    settled (x :: t) = x :: t.settled := List.filter_cons_of_pos (by simp [plain])

/-- What is absorbed is neither a notice nor drawn. -/
theorem notices_settled (t : Trace) : t.settled.notices = t.notices := by
  rw [settled, notices, List.filterMap_filter]
  refine List.filterMap_congr fun x _ => ?_
  obtain ⟨e, r⟩ := x
  cases e with
  | call c => exact ite_self none
  | _ => rfl

theorem drawn_settled (t : Trace) : t.settled.drawn = t.drawn := by
  rw [settled, drawn, List.filter_filter]
  refine List.filter_congr fun x _ => ?_
  obtain ⟨e, r⟩ := x
  cases e <;> rfl

/-- Attempts of one write, all of which met contention. -/
def row (w : Write) (met : List Fault) : Trace := met.map fun f => w.exchange (.error f)

/-- Among the calls of a trace, none is a write that meets contention so often in a row. A write
that gets through, or is refused for another reason, ends its row. -/
def Spared (limit : Nat) (t : Trace) : Prop :=
  ∀ w met, (∀ f ∈ met, f.isContention = true) → row w met <:+: t.filter (·.call?.isSome) →
    met.length < limit

variable {limit : Nat} {t u : Trace}

theorem Spared.left (h : Spared limit (t ++ u)) : t.Spared limit := by
  intro w met contended inside
  refine h w met contended (inside.trans ?_)
  rw [List.filter_append]
  exact List.infix_append_left ..

theorem Spared.right (h : Spared limit (t ++ u)) : u.Spared limit := by
  intro w met contended inside
  refine h w met contended (inside.trans ?_)
  rw [List.filter_append]
  exact List.infix_append_right ..

theorem spared_of_length_lt (few : t.length < limit) : t.Spared limit := by
  intro w met _ inside
  have short := inside.length_le
  rw [row, List.length_map] at short
  exact Nat.lt_of_le_of_lt (Nat.le_trans short (List.length_filter_le ..)) few

end Trace

namespace Write

theorem isAbsorbed_contended (w : Write) {f : Fault} (contended : f.isContention = true) :
    Trace.isAbsorbed (w.exchange (.error f)) = true := by
  cases w <;> exact contended

theorem not_isAbsorbed (w : Write) {o : Except Fault Unit} (settled : ¬ Contended o) :
    Trace.isAbsorbed (w.exchange o) = false := by
  cases o with
  | ok _ => cases w <;> rfl
  | error f =>
    have calm : f.isContention = false := by
      simpa using fun contended : f.isContention = true => settled ⟨f, rfl, contended⟩
    cases w <;> exact calm

variable {p : RetryPolicy} {w : Write}

theorem settled_waits {number : Nat} {met : List Fault}
    (all : ∀ f ∈ met, f.isContention = true) : (waits p w number met).settled = [] := by
  induction met generalizing number with
  | nil => rfl
  | cons f met ih =>
    obtain ⟨contended, later⟩ := List.forall_mem_cons.1 all
    rw [waits, Trace.settled, List.filter_cons_of_neg (by simp [w.isAbsorbed_contended contended])]
    exact ih later

theorem givenUp_exchange (w : Write) (o : Except Fault Unit) : (w.exchange o).givenUp? = none := by
  cases w <;> rfl

theorem givenUp_waits (number : Nat) (met : List Fault) : (waits p w number met).givenUp = [] := by
  induction met generalizing number with
  | nil => rfl
  | cons f met ih =>
    rw [← ih (number + 1)]
    exact List.filterMap_cons_none (w.givenUp_exchange _)

/-- The calls of attempts that met contention are a row. -/
theorem calls_of_waits (number : Nat) (met : List Fault) :
    (waits p w number met).filter (·.call?.isSome) = Trace.row w met := by
  induction met generalizing number with
  | nil => rfl
  | cons f met ih =>
    rw [waits, List.filter_cons_of_pos (by simp)]
    exact congrArg _ (ih (number + 1))

end Write

section Absorption

variable {σ : Type} {step : σ → (c : StoreCall) → c.Outcome × σ}
  (calm : ∀ s c f, (step s c).1 = .error f → f.isContention = false)
  {meets fewer : StoreCall → Prop} {s s' : σ} {t : Trace}

include calm

/-- A call that meets contention changes nothing. -/
theorem Serves.eq_of_contended {c : StoreCall} {f : Fault} (contended : f.isContention = true)
    (h : Serves step meets s ⟨.call c, .error f⟩ s') : s' = s := by
  rcases h with answer | ⟨_, _, eq⟩
  · have quiet := calm s c f (congrArg Prod.fst answer)
    rw [contended] at quiet
    cases quiet
  · exact eq

theorem Serves.eq_of_waits {p : RetryPolicy} {w : Write} {number : Nat} {met : List Fault}
    (all : ∀ f ∈ met, f.isContention = true)
    (h : Carries (Serves step meets) s (Write.waits p w number met) s') : s' = s := by
  induction met generalizing number s with
  | nil =>
    cases h
    rfl
  | cons f met ih =>
    obtain ⟨contended, later⟩ := List.forall_mem_cons.1 all
    cases h with | @cons _ s₁ _ _ _ failed more =>
    cases more with | cons slept more =>
    have same : s₁ = s := by
      cases w with
      | store schema key d => exact Serves.eq_of_contended calm contended failed
      | delete schema key => exact Serves.eq_of_contended calm contended failed
    cases slept
    rw [← same]
    exact ih later more

omit calm in
/-- A call that does not meet contention is answered by the store. -/
theorem Serves.of_settled {w : Write} {o : Except Fault Unit} (settled : ¬ Write.Contended o)
    (h : Serves step meets s (w.exchange o) s') :
    Serves step fewer s (w.exchange o) s' := by
  cases w with
  | store schema key d =>
    rcases h with answer | ⟨_, contended, _⟩
    · exact .inl answer
    · exact absurd contended settled
  | delete schema key =>
    rcases h with answer | ⟨_, contended, _⟩
    · exact .inl answer
    · exact absurd contended settled

omit calm in
/-- The attempts of a write that is spared are fewer than its policy has. -/
theorem Write.not_contended_of_spared {p : RetryPolicy} {w : Write} {met : List Fault}
    {o : Except Fault Unit} (all : ∀ f ∈ met, f.isContention = true)
    (last : Contended o → met.length + 1 = p.attempts)
    (spared : Trace.Spared p.attempts
      (waits p w 1 met ++ w.exchange o :: w.report (met.length + 1) o)) : ¬ Contended o := by
  rintro ⟨f, rfl, contended⟩
  -- with the last attempt the row would be as long as it must not be
  have long : Trace.row w (met ++ [f]) <:+: Trace.row w met ++
      (w.exchange (.error f) :: w.report (met.length + 1) (.error f)).filter (·.call?.isSome) := by
    rw [Trace.row, List.map_append, List.filter_cons_of_pos (by simp)]
    exact ((List.prefix_append_right_inj _).2 ((List.prefix_cons_inj _).2 List.nil_prefix)).isInfix
  have few := spared w (met ++ [f]) ?_ ?_
  · have count := last ⟨f, rfl, contended⟩
    simp only [List.length_append, List.length_singleton] at few
    omega
  · simpa [or_imp, forall_and, contended] using all
  · rwa [List.filter_append, calls_of_waits]

/-- A write that is spared comes to the outcome of its last attempt, as if that were its only
one. -/
theorem Write.absorbs {p : RetryPolicy} {w : Write} {o : Except Fault Unit}
    (run : Program.RunsOn (Serves step meets) (w.make p).run s t o s')
    (spared : t.Spared p.attempts) :
    t.givenUp = [] ∧ t.settled = [w.exchange o] ∧
      Program.RunsOn (Serves step fewer) (w.make p).run s [w.exchange o] o s' := by
  obtain ⟨runs, carried⟩ := run
  obtain ⟨met, all, few, last, rfl⟩ := runs_make_iff.1 runs
  have settled := not_contended_of_spared all last spared
  rw [report_of_not_contended settled] at *
  obtain ⟨s₁, waited, ended⟩ := carries_append_iff.1 carried
  obtain rfl := Serves.eq_of_waits calm all waited
  refine ⟨?_, ?_, ?_, ?_⟩
  · rw [Trace.givenUp_append, givenUp_waits, List.nil_append]
    exact List.filterMap_cons_none (w.givenUp_exchange o)
  · rw [Trace.settled_append, settled_waits all, Trace.settled, List.nil_append]
    exact List.filter_cons_of_pos (by simp [w.not_isAbsorbed settled])
  · refine runs_make_iff.2
      ⟨[], by simp, Nat.zero_lt_of_lt few, fun contended => absurd contended settled, ?_⟩
    rw [waits, report_of_not_contended settled, List.nil_append]
  · exact carries_singleton_iff.2 (.of_settled settled (carries_singleton_iff.1 ended))

/-- What an orderly program does on a store, it does without the attempts that were absorbed. -/
theorem Program.Orderly.absorbs {α : Type} {policy : RetryPolicy} {p : Program α}
    (h : p.Orderly policy) {a : α} (run : RunsOn (Serves step meets) p s t a s')
    (spared : t.Spared policy.attempts) :
    t.givenUp = [] ∧ RunsOn (Serves step fun c => meets c ∧ c.isWrite = false) p s t.settled a
      s' := by
  induction h generalizing s t with
  | done b =>
    obtain ⟨rfl, rfl⟩ := runs_done_iff.1 run.1
    cases run.2
    exact ⟨rfl, .done _, .nil _⟩
  | @read c next reads _ ih =>
    obtain ⟨runs, carried⟩ := run
    cases runs with | @perform _ _ o t _ rest =>
    cases carried with | cons first more =>
    obtain ⟨kept, runs, carried⟩ := ih o ⟨rest, more⟩ (Trace.Spared.right (t := [_]) spared)
    have plain : Trace.isAbsorbed ⟨.call c, o⟩ = false := by
      cases o with
      | error f => simp [Trace.isAbsorbed, reads]
      | ok _ => rfl
    rw [Trace.settled_cons plain]
    exact ⟨kept, .perform runs, .cons (first.imp_right fun met => ⟨⟨met.1, reads⟩, met.2⟩) carried⟩
  | draw _ ih =>
    obtain ⟨runs, carried⟩ := run
    cases runs with | perform rest =>
    cases carried with | cons first more =>
    obtain ⟨kept, runs, carried⟩ := ih _ ⟨rest, more⟩ (Trace.Spared.right (t := [_]) spared)
    exact ⟨kept, .perform runs, .cons first carried⟩
  | time _ ih =>
    obtain ⟨runs, carried⟩ := run
    cases runs with | perform rest =>
    cases carried with | cons first more =>
    obtain ⟨kept, runs, carried⟩ := ih _ ⟨rest, more⟩ (Trace.Spared.right (t := [_]) spared)
    exact ⟨kept, .perform runs, .cons first carried⟩
  | tell _ ih =>
    obtain ⟨runs, carried⟩ := run
    cases runs with | perform rest =>
    cases carried with | cons first more =>
    obtain ⟨kept, runs, carried⟩ := ih ⟨rest, more⟩ (Trace.Spared.right (t := [_]) spared)
    exact ⟨kept, .perform runs, .cons first carried⟩
  | @write w next _ ih =>
    obtain ⟨o, t₁, s₁, t₂, rfl, first, second⟩ := runsOn_bind_iff.1 run
    obtain ⟨kept₁, settled, first⟩ := Write.absorbs calm first spared.left
    obtain ⟨kept₂, second⟩ := ih o second spared.right
    refine ⟨by rw [Trace.givenUp_append, kept₁, kept₂]; rfl, ?_⟩
    rw [Trace.settled_append, settled]
    exact runsOn_bind_iff.2 ⟨o, _, s₁, _, rfl, first, second⟩

/-- What is served while writes meet contention, but none of them so often in a row as it may be
attempted: no write is given up, and all is as in the run without the failed attempts and the waits
after them. If no read meets contention then that is the run in which no call fails: with the same
identifiers and times every such run serves the same, leaves the same store and publishes the
same. -/
theorem spared_writes_are_absorbed (r : Registry) (settings : LinkSettings) (ops : List Operation)
    {served : List Served}
    (run : Program.RunsOn (Serves step fun _ => True) (serveAll r settings ops) s t served s')
    (spared : t.Spared r.policy.attempts) :
    t.givenUp = [] ∧ t.settled.notices = t.notices ∧ t.settled.drawn = t.drawn ∧
    Program.RunsOn (Serves step fun c => c.isWrite = false) (serveAll r settings ops) s t.settled
      served s' ∧
    ((∀ c f, c.isWrite = false → f.isContention = true → (⟨.call c, .error f⟩ : Exchange) ∉ t) →
      Program.RunsOn (Serves step fun _ => False) (serveAll r settings ops) s t.settled served s' ∧
      ∀ {u : Trace} {served' : List Served} {s'' : σ},
        Program.RunsOn (Serves step fun _ => False) (serveAll r settings ops) s u served' s'' →
        u.drawn = t.drawn →
        served' = served ∧ s'' = s' ∧ u.notices = t.notices ∧ u.calls = t.settled.calls) := by
  have orderly := (inStep_serveAll r settings ops).orderly
  obtain ⟨kept, settled⟩ := orderly.absorbs calm run spared
  refine ⟨kept, t.notices_settled, t.drawn_settled, ?_, fun unread => ?_⟩
  · simpa only [true_and] using settled
  -- of what is left only reads might have met contention
  have quiet : Program.RunsOn (Serves step fun _ => False) (serveAll r settings ops) s t.settled
      served s' := by
    refine ⟨settled.1, settled.2.mono fun x hx s₁ s₂ allowed => ?_⟩
    obtain ⟨e, reply⟩ := x
    cases e with
    | call c =>
      rcases allowed with answer | ⟨⟨_, reads⟩, ⟨f, rfl, contended⟩, _⟩
      · exact .inl answer
      · exact absurd (List.mem_filter.1 hx).1 (unread c f reads contended)
    | _ => exact allowed
  refine ⟨quiet, fun other same => ?_⟩
  obtain ⟨result, store, effects⟩ := orderly.heedless.unique (certain_serves step) other quiet
    (same.trans t.drawn_settled.symm)
  obtain ⟨calls, notices⟩ := Trace.calls_eq_of_effects effects
  exact ⟨result, store, notices.trans t.notices_settled, calls⟩

end Absorption

/-- A store in memory refuses calls, but never for contention. -/
theorem MemoryStore.not_isContention_of_step (s : MemoryStore) (c : StoreCall) (f : Fault)
    (refused : (s.step c).1 = .error f) : f.isContention = false := by
  rw [step, Schema.check] at refused
  split at refused
  next g check =>
    obtain rfl := Except.error.inj refused
    split at check
    · cases check
      rfl
    · split at check
      · cases check
      · cases check
        rfl
  next => cases refused

/-! An example: a code is written and read, and the first attempt to write it meets contention. -/
namespace Sample

def busy : Fault := .contention "busy"

def asked : List Operation := [.writeCode code, .readCode "code"]

def keeping : Write := registry.codeWrite code

def contended : Trace :=
  [keeping.exchange (.error busy), ⟨.sleep (registry.policy.delayAfter 1), ()⟩,
    keeping.exchange (.ok ()),
    ⟨.call (.retrieve "uac" "code"), .ok (some (Wire.toDocument code))⟩]

theorem runs_contended : Program.RunsOn (Serves MemoryStore.step fun _ => True)
    (serveAll registry .standard asked) .empty contended
    [⟨.writeCode code, .ok ()⟩, ⟨.readCode "code", .ok (some code)⟩]
    (MemoryStore.empty.undergo (.ofCode registry code)) := by
  have writes : Program.RunsOn (Serves MemoryStore.step fun _ => True)
      (registry.writeCode code).run .empty (contended.take 3) (.ok ())
      (MemoryStore.empty.undergo (.ofCode registry code)) := by
    refine ⟨Write.runs_make_iff.2 ⟨[busy], by simp [busy, Fault.contention, Fault.isContention],
      by decide, fun h => absurd h Write.not_contended_ok, rfl⟩, ?_⟩
    exact .cons (.inr ⟨trivial, ⟨busy, rfl, rfl⟩, rfl⟩) (.cons rfl (.cons (.inl rfl) (.nil _)))
  have kept := registry.lookup_ofCode .empty code
  have reads : Program.RunsOn (Serves MemoryStore.step fun _ => True)
      (registry.readCode "code").run (MemoryStore.empty.undergo (.ofCode registry code))
      (contended.drop 3) (.ok (some code))
      (MemoryStore.empty.undergo (.ofCode registry code)) := by
    refine ⟨Service.runs_call_bind_iff.2 (.inr ⟨some (Wire.toDocument code), [], rfl, ?_⟩), ?_⟩
    · simp only [Registry.ofDocument_code]
      exact Service.runs_pure_iff.2 ⟨rfl, rfl⟩
    · refine carries_singleton_iff.2 (.inl ?_)
      rw [← kept]
      rfl
  refine Program.runsOn_bind_iff.2 ⟨.ok (), contended.take 3, _, contended.drop 3, rfl, writes, ?_⟩
  refine Program.runsOn_bind_iff.2 ⟨_, contended.drop 3, _, [], rfl, ?_, .done _, .nil _⟩
  exact Program.runsOn_bind_iff.2 ⟨_, contended.drop 3, _, [], rfl, reads, .done _, .nil _⟩

theorem spared_contended : contended.Spared registry.policy.attempts :=
  Trace.spared_of_length_lt (by decide)

end Sample

/-- In the example the failed attempt makes no difference. -/
theorem spared_writes_are_absorbed_sample :
    Program.RunsOn (Serves MemoryStore.step fun _ => True)
      (serveAll Sample.registry .standard Sample.asked) .empty Sample.contended
      [⟨.writeCode Sample.code, .ok ()⟩, ⟨.readCode "code", .ok (some Sample.code)⟩]
      (MemoryStore.empty.undergo (.ofCode Sample.registry Sample.code)) ∧
    Sample.contended.Spared Sample.registry.policy.attempts ∧
    Sample.contended.givenUp = [] ∧
    ∀ u served s', Program.RunsOn (Serves MemoryStore.step fun _ => False)
        (serveAll Sample.registry .standard Sample.asked) .empty u served s' →
      u.drawn = [] →
      served = [⟨.writeCode Sample.code, .ok ()⟩, ⟨.readCode "code", .ok (some Sample.code)⟩] ∧
        s' = MemoryStore.empty.undergo (.ofCode Sample.registry Sample.code) := by
  obtain ⟨kept, _, _, _, absorbed⟩ := spared_writes_are_absorbed
    MemoryStore.not_isContention_of_step Sample.registry .standard Sample.asked
    Sample.runs_contended Sample.spared_contended
  refine ⟨Sample.runs_contended, Sample.spared_contended, kept, fun u served s' run none => ?_⟩
  have unread (c : StoreCall) (f : Fault) (reads : c.isWrite = false)
      (contended : f.isContention = true) :
      (⟨.call c, .error f⟩ : Exchange) ∉ Sample.contended := by
    intro h
    simp only [Sample.contended, List.mem_cons, List.not_mem_nil, or_false] at h
    rcases h with eq | eq | eq | eq
    · cases eq
      cases reads
    all_goals cases eq
  obtain ⟨result, store, _⟩ := (absorbed unread).2 run none
  exact ⟨result, store⟩

/-- A read that meets contention is not made again, and its failure is seen. -/
theorem contention_of_reads_is_seen :
    ¬ ∀ (t u : Trace) (served served' : List Served) (s' s'' : MemoryStore),
      Program.RunsOn (Serves MemoryStore.step fun _ => True)
        (serveAll Sample.registry .standard [.readCode "code"]) .empty t served s' →
      t.Spared Sample.registry.policy.attempts →
      Program.RunsOn (Serves MemoryStore.step fun _ => False)
        (serveAll Sample.registry .standard [.readCode "code"]) .empty u served' s'' →
      u.drawn = t.drawn → served' = served := by
  intro claim
  let asks (o : Except Fault (Option Document)) : Trace := [⟨.call (.retrieve "uac" "code"), o⟩]
  have seen := claim (asks (.error Sample.busy)) (asks (.ok none))
    [⟨.readCode "code", .error Sample.busy⟩] [⟨.readCode "code", .ok none⟩] .empty .empty
    ⟨.perform (.done _), .cons (.inr ⟨trivial, ⟨_, rfl, rfl⟩, rfl⟩) (.nil _)⟩
    (Trace.spared_of_length_lt (by decide))
    ⟨.perform (.done _), .cons (.inl rfl) (.nil _)⟩ rfl
  cases seen

end CensusLink
