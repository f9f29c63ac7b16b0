import CensusLink.Proofs.Trace
import CensusLink.Retry.Loop
import CensusLink.Store.Memory

/-!
Services on a store in memory, by their deeds: the writes that got through and the notices that were
handed on, in their order. The store after a run is the one that the deeds lead to, so a run is told
by its deeds and its outcome. A call may also fail, with any fault, and then it changes nothing.
-/
namespace CensusLink

/-- What may happen in a run: which calls may fail, and which identifiers may be drawn. -/
structure Conditions where
  mayFail : StoreCall → Prop
  mayDraw : MemoryStore → Uuid → Prop

/-- No call fails, and there is always an identifier to be drawn. -/
structure Conditions.Steady (k : Conditions) : Prop where
  sure : ∀ c, ¬ k.mayFail c
  draws : ∀ s, ∃ id, k.mayDraw s id

/-- No call fails, and any identifier may be drawn. -/
def Conditions.calm : Conditions := ⟨fun _ => False, fun _ _ => True⟩

theorem Conditions.steady_calm : calm.Steady where
  sure _ never := never
  draws _ := ⟨⟨0, by decide⟩, trivial⟩

/-- The store in memory as a host. -/
def Conditions.Allows (k : Conditions) (s : MemoryStore) : Exchange → MemoryStore → Prop
  | ⟨.call c, reply⟩, s' =>
    s.step c = (reply, s') ∨ (k.mayFail c ∧ (∃ f, reply = .error f) ∧ s' = s)
  | ⟨.freshId, id⟩, s' => k.mayDraw s id ∧ s' = s
  | ⟨.publish _, _⟩, s' => s' = s
  | ⟨.sleep _, _⟩, s' => s' = s
  | ⟨.giveUp _, _⟩, s' => s' = s
  | ⟨.now, _⟩, s' => s' = s

/-- Every effect gets a reply. -/
theorem Conditions.exists_allows {k : Conditions} (draws : ∀ s, ∃ id, k.mayDraw s id)
    (s : MemoryStore) (e : Effect) : ∃ r s', k.Allows s ⟨e, r⟩ s' := by
  cases e with
  | call c => exact ⟨(s.step c).1, (s.step c).2, .inl rfl⟩
  | publish n => exact ⟨.ok (), s, rfl⟩
  | sleep ms => exact ⟨(), s, rfl⟩
  | giveUp g => exact ⟨(), s, rfl⟩
  | freshId =>
    obtain ⟨id, drawn⟩ := draws s
    exact ⟨id, s, drawn, rfl⟩
  | now => exact ⟨⟨⟨1970, 1, 1, 0, 0⟩, by decide⟩, s, rfl⟩

inductive Deed
  | kept (schema key : String) (document : Document)
  | removed (schema key : String)
  | told (n : Notice)

/-- What a call does when it gets through. -/
def StoreCall.deeds : StoreCall → List Deed
  | .store schema key d => [.kept schema key d]
  | .retrieve _ _ => []
  | .search _ _ _ => []
  | .delete schema key => [.removed schema key]

/-- A notice counts as told whether or not it goes out. -/
def Exchange.deeds : Exchange → List Deed
  | ⟨.call c, .ok _⟩ => c.deeds
  | ⟨.publish n, _⟩ => [.told n]
  | _ => []

def Trace.deeds (t : Trace) : List Deed := t.flatMap Exchange.deeds

@[simp]
theorem Trace.deeds_append (t u : Trace) : Trace.deeds (t ++ u) = t.deeds ++ u.deeds :=
  List.flatMap_append

namespace MemoryStore

def undergo (s : MemoryStore) : Deed → MemoryStore
  | .kept schema key d => (s.apply (.store schema key d)).2
  | .removed schema key => (s.apply (.delete schema key)).2
  | .told _ => s

/-- The store that deeds lead to. -/
def after (s : MemoryStore) (ds : List Deed) : MemoryStore := ds.foldl undergo s

@[simp]
theorem after_nil (s : MemoryStore) : s.after [] = s := rfl

@[simp]
theorem after_append (s : MemoryStore) (ds es : List Deed) :
    s.after (ds ++ es) = (s.after ds).after es := List.foldl_append

end MemoryStore

theorem Conditions.Allows.eq_after {k : Conditions} {s s' : MemoryStore} {x : Exchange}
    (h : k.Allows s x s') : s' = s.after x.deeds := by
  obtain ⟨e, reply⟩ := x
  cases e with
  | call c =>
    rcases h with step | ⟨_, ⟨f, rfl⟩, rfl⟩
    · rw [MemoryStore.step] at step
      split at step
      · cases step
        cases c <;> rfl
      · cases step
        cases c <;> rfl
    · cases c <;> rfl
  | publish n => exact h
  | sleep ms => exact h
  | giveUp g => exact h
  | freshId => exact h.2
  | now => exact h

/-- What a call answers, if it does not fail, is what the store has for it. -/
theorem Conditions.Allows.reply_eq {k : Conditions} {s s' : MemoryStore} {c : StoreCall}
    {a : c.Reply} (valid : Schema.check c.schema = .ok ())
    (h : k.Allows s ⟨.call c, .ok a⟩ s') : a = (s.apply c).1 ∧ s' = (s.apply c).2 := by
  have step : s.step c = (.ok (s.apply c).1, (s.apply c).2) := by simp [MemoryStore.step, valid]
  rcases h with answer | ⟨_, ⟨_, eq⟩, _⟩
  · rw [step] at answer
    obtain ⟨reply, store⟩ := Prod.mk.inj answer
    exact ⟨(Except.ok.inj reply).symm, store.symm⟩
  · cases eq

/-- Along a trace the store goes through the deeds. -/
theorem Carries.eq_after {k : Conditions} {s s' : MemoryStore} {t : Trace}
    (h : Carries k.Allows s t s') : s' = s.after t.deeds := by
  induction h with
  | nil s => rfl
  | @cons s s₁ s₂ x t first _ ih =>
    rw [ih, first.eq_after, ← MemoryStore.after_append]
    rfl

namespace Service

variable {α β : Type} {k : Conditions} {s : MemoryStore} {ds : List Deed}

/-- A service does some deeds on a store and comes to an outcome. -/
def Does (k : Conditions) (x : Service α) (s : MemoryStore) (ds : List Deed)
    (o : Except Fault α) : Prop :=
  ∃ t, Program.RunsOn k.Allows x.run s t o (s.after ds) ∧ t.deeds = ds

theorem does_of_runsOn {x : Service α} {t : Trace} {o : Except Fault α} {s' : MemoryStore}
    (h : Program.RunsOn k.Allows x.run s t o s') : x.Does k s t.deeds o ∧ s' = s.after t.deeds := by
  have eq := h.2.eq_after
  exact ⟨⟨t, eq ▸ h, rfl⟩, eq⟩

theorem does_of_iff {r o : Except Fault α} :
    Does k (Service.of r) s ds o ↔ ds = [] ∧ o = r := by
  constructor
  · rintro ⟨t, ⟨runs, _⟩, rfl⟩
    obtain ⟨rfl, rfl⟩ := Program.runs_done_iff.1 runs
    exact ⟨rfl, rfl⟩
  · rintro ⟨rfl, rfl⟩
    exact ⟨[], ⟨.done o, .nil s⟩, rfl⟩

theorem does_pure_iff {a : α} {o : Except Fault α} :
    Does k (pure a) s ds o ↔ ds = [] ∧ o = .ok a := does_of_iff

theorem does_throw_iff {f : Fault} {o : Except Fault α} :
    Does k (throw f) s ds o ↔ ds = [] ∧ o = .error f := does_of_iff

/-- The deeds of a step and of what follows its outcome. -/
theorem does_mk_bind_iff {x : Service α} {g : Except Fault α → Program (Except Fault β)}
    {o : Except Fault β} : Does k (ExceptT.mk (x.run >>= g)) s ds o ↔
      ∃ r ds₁ ds₂, ds = ds₁ ++ ds₂ ∧ x.Does k s ds₁ r ∧
        Does k (ExceptT.mk (g r)) (s.after ds₁) ds₂ o := by
  constructor
  · rintro ⟨t, run, rfl⟩
    obtain ⟨r, t₁, s₁, t₂, rfl, first, second⟩ := Program.runsOn_bind_iff.1 run
    obtain rfl := first.2.eq_after
    rw [Trace.deeds_append, MemoryStore.after_append] at second
    exact ⟨r, t₁.deeds, t₂.deeds, t₁.deeds_append t₂, ⟨t₁, first, rfl⟩, ⟨t₂, second, rfl⟩⟩
  · rintro ⟨r, _, _, rfl, ⟨t₁, first, rfl⟩, ⟨t₂, second, rfl⟩⟩
    refine ⟨t₁ ++ t₂, Program.runsOn_bind_iff.2 ⟨r, t₁, _, t₂, rfl, first, ?_⟩, by simp⟩
    rw [MemoryStore.after_append]
    exact second

/-- The deeds of two steps, of which the second is not made if the first fails. -/
theorem does_bind_iff {x : Service α} {f : α → Service β} {o : Except Fault β} :
    Does k (x >>= f) s ds o ↔ (∃ e, x.Does k s ds (.error e) ∧ o = .error e) ∨
      ∃ a ds₁ ds₂, ds = ds₁ ++ ds₂ ∧ x.Does k s ds₁ (.ok a) ∧
        (f a).Does k (s.after ds₁) ds₂ o := by
  refine Iff.trans does_mk_bind_iff ⟨?_, ?_⟩
  · rintro ⟨r, ds₁, ds₂, rfl, first, second⟩
    cases r with
    | error e =>
      obtain ⟨rfl, rfl⟩ := does_of_iff.1 second
      exact .inl ⟨e, by rwa [List.append_nil], rfl⟩
    | ok a => exact .inr ⟨a, ds₁, ds₂, rfl, first, second⟩
  · rintro (⟨e, first, rfl⟩ | ⟨a, ds₁, ds₂, rfl, first, second⟩)
    · exact ⟨.error e, ds, [], by simp, first, does_of_iff.2 ⟨rfl, rfl⟩⟩
    · exact ⟨.ok a, ds₁, ds₂, rfl, first, second⟩

theorem does_attempt_iff {x : Service α} {o : Except Fault (Except Fault α)} :
    Does k x.attempt s ds o ↔ ∃ r, o = .ok r ∧ x.Does k s ds r := by
  refine Iff.trans does_mk_bind_iff ⟨?_, ?_⟩
  · rintro ⟨r, ds₁, ds₂, rfl, first, second⟩
    obtain ⟨rfl, rfl⟩ := does_of_iff.1 second
    exact ⟨r, rfl, by rwa [List.append_nil]⟩
  · rintro ⟨r, rfl, first⟩
    exact ⟨r, ds, [], by simp, first, does_of_iff.2 ⟨rfl, rfl⟩⟩

/-- A step that has one result and then has done its deeds, or fails and does nothing. -/
def Yields (k : Conditions) (x : Service α) (s : MemoryStore) (a : α) (done : List Deed)
    (mayFail : Prop) : Prop :=
  ∀ ds o, x.Does k s ds o ↔
    (o = .ok a ∧ ds = done) ∨ (mayFail ∧ (∃ f, o = .error f) ∧ ds = [])

section Steps

variable {x : Service α} {f : α → Service β} {a : α} {done : List Deed} {mayFail : Prop}

theorem Yields.bind_iff (h : x.Yields k s a done mayFail) {o : Except Fault β} :
    Does k (x >>= f) s ds o ↔ (mayFail ∧ (∃ f, o = .error f) ∧ ds = []) ∨
      ∃ ds', ds = done ++ ds' ∧ (f a).Does k (s.after done) ds' o := by
  rw [does_bind_iff]
  constructor
  · rintro (⟨e, first, rfl⟩ | ⟨b, ds₁, ds₂, rfl, first, second⟩)
    · rcases (h ds _).1 first with ⟨eq, _⟩ | ⟨may, _, rfl⟩
      · cases eq
      · exact .inl ⟨may, ⟨e, rfl⟩, rfl⟩
    · rcases (h ds₁ _).1 first with ⟨eq, rfl⟩ | ⟨_, ⟨_, eq⟩, _⟩
      · cases eq
        exact .inr ⟨ds₂, rfl, second⟩
      · cases eq
  · rintro (⟨may, ⟨e, rfl⟩, rfl⟩ | ⟨ds', rfl, second⟩)
    · exact .inl ⟨e, (h [] _).2 (.inr ⟨may, ⟨e, rfl⟩, rfl⟩), rfl⟩
    · exact .inr ⟨a, done, ds', rfl, (h done _).2 (.inl ⟨rfl, rfl⟩), second⟩

/-- Making something of the result of a step. -/
theorem Yields.bind_pure (h : x.Yields k s a done mayFail) {b : β} (eq : f a = pure b) :
    Service.Yields k (x >>= f) s b done mayFail := by
  intro ds o
  rw [h.bind_iff, eq, or_comm]
  refine or_congr_left ⟨?_, ?_⟩
  · rintro ⟨ds', rfl, second⟩
    obtain ⟨rfl, rfl⟩ := does_pure_iff.1 second
    exact ⟨rfl, List.append_nil _⟩
  · rintro ⟨rfl, rfl⟩
    exact ⟨[], (List.append_nil _).symm, does_pure_iff.2 ⟨rfl, rfl⟩⟩

/-- A step followed by one that cannot fail. -/
theorem Yields.bind_sure (h : x.Yields k s a done mayFail) {b : β} {more : List Deed}
    (sure : (f a).Yields k (s.after done) b more False) :
    Service.Yields k (x >>= f) s b (done ++ more) mayFail := by
  intro ds o
  rw [h.bind_iff, or_comm]
  refine or_congr_left ⟨?_, ?_⟩
  · rintro ⟨ds', rfl, second⟩
    rcases (sure ds' o).1 second with ⟨rfl, rfl⟩ | ⟨never, _⟩
    · exact ⟨rfl, rfl⟩
    · exact never.elim
  · rintro ⟨rfl, rfl⟩
    exact ⟨more, rfl, (sure more _).2 (.inl ⟨rfl, rfl⟩)⟩

end Steps

theorem pure_yields (a : α) : (pure a : Service α).Yields k s a [] False := by
  intro ds o
  rw [does_pure_iff, and_comm]
  exact ⟨.inl, fun h => h.elim id fun never => never.1.elim⟩

theorem call_yields {c : StoreCall} (valid : Schema.check c.schema = .ok ()) :
    (Service.call c).Yields k s (s.apply c).1 c.deeds (k.mayFail c) := by
  have step : s.step c = (.ok (s.apply c).1, (s.apply c).2) := by simp [MemoryStore.step, valid]
  intro ds o
  constructor
  · rintro ⟨t, run, rfl⟩
    obtain ⟨rfl, allowed⟩ := Program.runsOn_of_iff.1 run
    rcases allowed with answer | ⟨fails, ⟨f, rfl⟩, _⟩
    · rw [step] at answer
      obtain ⟨rfl, _⟩ := Prod.mk.inj answer
      exact .inl ⟨rfl, List.append_nil _⟩
    · exact .inr ⟨fails, ⟨f, rfl⟩, rfl⟩
  · rintro (⟨rfl, rfl⟩ | ⟨fails, ⟨f, rfl⟩, rfl⟩)
    · refine ⟨_, Program.runsOn_of_iff.2 ⟨rfl, .inl ?_⟩, List.append_nil _⟩
      rw [step]
      cases c <;> rfl
    · exact ⟨_, Program.runsOn_of_iff.2 ⟨rfl, .inr ⟨fails, ⟨f, rfl⟩, rfl⟩⟩, rfl⟩

/-- An effect that leaves the store alone and does no deed, and what follows its reply. -/
theorem does_quiet_bind_iff (e : Effect) (may : e.Reply → Prop)
    (still : ∀ r s', k.Allows s ⟨e, r⟩ s' ↔ may r ∧ s' = s)
    (quiet : ∀ r, Exchange.deeds ⟨e, r⟩ = []) {g : e.Reply → Program (Except Fault α)}
    {o : Except Fault α} :
    Does k (ExceptT.mk (Program.of e >>= g)) s ds o ↔
      ∃ r, may r ∧ Does k (ExceptT.mk (g r)) s ds o := by
  have none (r : e.Reply) : Trace.deeds [⟨e, r⟩] = [] := by simp [Trace.deeds, quiet]
  constructor
  · rintro ⟨t, run, rfl⟩
    obtain ⟨r, t₁, s₁, t₂, rfl, first, second⟩ := Program.runsOn_bind_iff.1 run
    obtain ⟨rfl, allowed⟩ := Program.runsOn_of_iff.1 first
    obtain ⟨hr, rfl⟩ := (still r s₁).1 allowed
    rw [Trace.deeds_append, none] at *
    exact ⟨r, hr, t₂, second, rfl⟩
  · rintro ⟨r, hr, t, run, rfl⟩
    refine ⟨[⟨e, r⟩] ++ t, Program.runsOn_bind_iff.2 ⟨r, _, s, t, rfl, ?_, run⟩, ?_⟩
    · exact Program.runsOn_of_iff.2 ⟨rfl, (still r s).2 ⟨hr, rfl⟩⟩
    · rw [Trace.deeds_append, none, List.nil_append]

theorem does_freshId_iff {o : Except Fault Uuid} :
    Does k Service.freshId s ds o ↔ ∃ id, k.mayDraw s id ∧ ds = [] ∧ o = .ok id := by
  refine (does_quiet_bind_iff .freshId (k.mayDraw s) (fun _ _ => Iff.rfl) fun _ => rfl).trans ?_
  exact exists_congr fun id => and_congr_right fun _ => does_of_iff

theorem does_freshId_bind_iff {f : Uuid → Service α} {o : Except Fault α} :
    Does k (Service.freshId >>= f) s ds o ↔ ∃ id, k.mayDraw s id ∧ (f id).Does k s ds o := by
  rw [does_bind_iff]
  constructor
  · rintro (⟨e, first, _⟩ | ⟨id, ds₁, ds₂, rfl, first, second⟩)
    · obtain ⟨_, _, _, eq⟩ := does_freshId_iff.1 first
      cases eq
    · obtain ⟨_, drawn, rfl, eq⟩ := does_freshId_iff.1 first
      cases eq
      exact ⟨id, drawn, second⟩
  · rintro ⟨id, drawn, second⟩
    exact .inr ⟨id, [], ds, rfl, does_freshId_iff.2 ⟨id, drawn, rfl, rfl⟩, second⟩

theorem does_now_iff {o : Except Fault Instant} :
    Does k Service.now s ds o ↔ ∃ time, ds = [] ∧ o = .ok time := by
  refine (does_quiet_bind_iff .now (fun _ => True) (fun _ _ => Iff.of_eq (true_and _).symm)
    fun _ => rfl).trans ?_
  exact exists_congr fun time => (Iff.of_eq (true_and _)).trans does_of_iff

theorem does_now_bind_iff {f : Instant → Service α} {o : Except Fault α} :
    Does k (Service.now >>= f) s ds o ↔ ∃ time, (f time).Does k s ds o := by
  rw [does_bind_iff]
  constructor
  · rintro (⟨e, first, _⟩ | ⟨time, ds₁, ds₂, rfl, first, second⟩)
    · obtain ⟨_, _, eq⟩ := does_now_iff.1 first
      cases eq
    · obtain ⟨_, rfl, eq⟩ := does_now_iff.1 first
      cases eq
      exact ⟨time, second⟩
  · rintro ⟨time, second⟩
    exact .inr ⟨time, [], ds, rfl, does_now_iff.2 ⟨time, rfl, rfl⟩, second⟩

theorem does_of_bind_iff {r : Except Fault α} {f : α → Service β} {o : Except Fault β} :
    Does k (Service.of r >>= f) s ds o ↔
      (∃ e, r = .error e ∧ ds = [] ∧ o = .error e) ∨ ∃ a, r = .ok a ∧ (f a).Does k s ds o := by
  rw [does_bind_iff]
  constructor
  · rintro (⟨e, first, rfl⟩ | ⟨a, ds₁, ds₂, rfl, first, second⟩)
    · obtain ⟨rfl, rfl⟩ := does_of_iff.1 first
      exact .inl ⟨e, rfl, rfl, rfl⟩
    · obtain ⟨rfl, rfl⟩ := does_of_iff.1 first
      exact .inr ⟨a, rfl, second⟩
  · rintro (⟨e, rfl, rfl, rfl⟩ | ⟨a, rfl, second⟩)
    · exact .inl ⟨e, does_of_iff.2 ⟨rfl, rfl⟩, rfl⟩
    · exact .inr ⟨a, [], ds, rfl, does_of_iff.2 ⟨rfl, rfl⟩, second⟩

theorem does_sleep_bind_iff {ms : Nat} {q : Program (Except Fault α)} {o : Except Fault α} :
    Does k (ExceptT.mk (Program.of (.sleep ms) >>= fun _ => q)) s ds o ↔
      Does k (ExceptT.mk q) s ds o := by
  refine (does_quiet_bind_iff (.sleep ms) (fun _ => True)
    (fun _ _ => Iff.of_eq (true_and _).symm) fun _ => rfl).trans ?_
  exact ⟨fun ⟨_, _, h⟩ => h, fun h => ⟨(), trivial, h⟩⟩

theorem does_giveUp_bind_iff {g : GivenUp} {q : Program (Except Fault α)} {o : Except Fault α} :
    Does k (ExceptT.mk (Program.of (.giveUp g) >>= fun _ => q)) s ds o ↔
      Does k (ExceptT.mk q) s ds o := by
  refine (does_quiet_bind_iff (.giveUp g) (fun _ => True)
    (fun _ _ => Iff.of_eq (true_and _).symm) fun _ => rfl).trans ?_
  exact ⟨fun ⟨_, _, h⟩ => h, fun h => ⟨(), trivial, h⟩⟩

theorem does_publish_iff {n : Notice} {o : Except Fault Unit} :
    Does k (Service.publish n) s ds o ↔ ds = [.told n] := by
  constructor
  · rintro ⟨t, run, rfl⟩
    obtain ⟨rfl, _⟩ := Program.runsOn_of_iff.1 run
    rfl
  · rintro rfl
    exact ⟨_, Program.runsOn_of_iff.2 ⟨rfl, rfl⟩, rfl⟩

end Service

/-- The call that a write makes. -/
def Write.toCall : Write → StoreCall
  | .store schema key d => .store schema key d
  | .delete schema key => .delete schema key

namespace Write

variable {k : Conditions} {s : MemoryStore} {w : Write}

theorem attempt_yields (valid : Schema.check w.schema = .ok ()) :
    Service.Yields k (ExceptT.mk w.attempt) s () w.toCall.deeds (k.mayFail w.toCall) := by
  cases w with
  | store schema key d => exact @Service.call_yields k s (.store schema key d) valid
  | delete schema key => exact @Service.call_yields k s (.delete schema key) valid

/-- What is done after a failure makes no difference if it ends like the write itself. -/
theorem attempt_bind_yields (valid : Schema.check w.schema = .ok ())
    {rest : Fault → Program (Except Fault Unit)}
    (sound : ∀ f ds o, k.mayFail w.toCall → Service.Does k (ExceptT.mk (rest f)) s ds o →
      (o = .ok () ∧ ds = w.toCall.deeds) ∨ ((∃ f, o = .error f) ∧ ds = []))
    (complete : ∀ f, k.mayFail w.toCall → Service.Does k (ExceptT.mk (rest f)) s [] (.error f)) :
    Service.Yields k (ExceptT.mk (w.attempt >>= fun
      | .ok () => .done (.ok ())
      | .error f => rest f)) s () w.toCall.deeds (k.mayFail w.toCall) := by
  intro ds o
  refine Iff.trans (@Service.does_mk_bind_iff _ _ k s ds (ExceptT.mk w.attempt) _ o) ⟨?_, ?_⟩
  · rintro ⟨r, ds₁, ds₂, rfl, first, second⟩
    rcases (attempt_yields valid ds₁ r).1 first with ⟨rfl, rfl⟩ | ⟨fails, ⟨f, rfl⟩, rfl⟩
    · obtain ⟨rfl, rfl⟩ := Service.does_of_iff.1 second
      exact .inl ⟨rfl, List.append_nil _⟩
    · exact (sound f ds₂ o fails second).imp_right fun h => ⟨fails, h⟩
  · rintro (⟨rfl, rfl⟩ | ⟨fails, ⟨f, rfl⟩, rfl⟩)
    · refine ⟨.ok (), _, [], (List.append_nil _).symm, ?_, Service.does_of_iff.2 ⟨rfl, rfl⟩⟩
      exact (attempt_yields valid _ _).2 (.inl ⟨rfl, rfl⟩)
    · refine ⟨.error f, [], [], rfl, ?_, complete f fails⟩
      exact (attempt_yields valid _ _).2 (.inr ⟨fails, ⟨f, rfl⟩, rfl⟩)

theorem persist_yields (valid : Schema.check w.schema = .ok ()) (p : RetryPolicy)
    (left number : Nat) :
    Service.Yields k (ExceptT.mk (w.persist p left number)) s () w.toCall.deeds
      (k.mayFail w.toCall) := by
  have stop {f : Fault} {ds : List Deed} {o : Except Fault Unit}
      (h : Service.Does k (ExceptT.mk (.done (.error f))) s ds o) :
      (o = .ok () ∧ ds = w.toCall.deeds) ∨ ((∃ f, o = .error f) ∧ ds = []) := by
    obtain ⟨rfl, rfl⟩ := Service.does_of_iff.1 h
    exact .inr ⟨⟨f, rfl⟩, rfl⟩
  induction left generalizing number with
  | zero =>
    rw [persist]
    refine attempt_bind_yields valid (fun f ds o _ h => ?_) fun f _ => ?_
    · split at h
      · exact stop (Service.does_giveUp_bind_iff.1 h)
      · exact stop h
    · split
      · exact Service.does_giveUp_bind_iff.2 (Service.does_of_iff.2 ⟨rfl, rfl⟩)
      · exact Service.does_of_iff.2 ⟨rfl, rfl⟩
  | succ left ih =>
    rw [persist]
    refine attempt_bind_yields valid (fun f ds o _ h => ?_) fun f fails => ?_
    · split at h
      · dsimp only at h
        exact ((ih (number + 1) ds o).1 (Service.does_sleep_bind_iff.1 h)).imp_right And.right
      · exact stop h
    · split
      · refine Service.does_sleep_bind_iff.2 ((ih (number + 1) _ _).2 ?_)
        exact .inr ⟨fails, ⟨f, rfl⟩, rfl⟩
      · exact Service.does_of_iff.2 ⟨rfl, rfl⟩

/-- However often a write is made, it gets through once, or it fails and changes nothing. -/
theorem make_yields (valid : Schema.check w.schema = .ok ()) {p : RetryPolicy} :
    (w.make p).Yields k s () w.toCall.deeds (k.mayFail w.toCall) := persist_yields valid p _ _

end Write
end CensusLink
