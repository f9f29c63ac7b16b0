import CensusLink.Proofs.Inbound.Handling
import CensusLink.Proofs.Registry.Catalogue

/-!
Messages on a store that does not fail. Whether a message is accepted is settled by its text, and so
is what it writes: an accepted message makes its one write, a rejected one does nothing. So what is
left after messages that are handled one after the other is what their writes leave in their order,
and the rejected ones make no difference.
-/
namespace CensusLink

/-- Codes and cases have schemas with valid names. It may be the same one. -/
structure Registry.Storable (r : Registry) : Prop where
  code : Schema.check r.schemas.accessCode = .ok ()
  case : Schema.check r.schemas.case = .ok ()

theorem StoreCall.Alike.exists_ok : ∀ {c : StoreCall} {o : c.Outcome} {a : c.Reply},
    c.Alike o (.ok a) → ∃ found, o = .ok found
  | .search _ _ _, .ok found, _, _ => ⟨found, rfl⟩
  | .search _ _ _, .error _, _, h => nomatch h
  | .store _ _ _, _, a, h => ⟨a, h⟩
  | .retrieve _ _, _, a, h => ⟨a, h⟩
  | .delete _ _, _, a, h => ⟨a, h⟩

/-- No call in it fails. -/
def Trace.Smooth (t : Trace) : Prop :=
  ∀ (c : StoreCall) (f : Fault), ⟨.call c, (.error f : c.Outcome)⟩ ∉ t

theorem Trace.Smooth.cons {x : Exchange} {t : Trace} (later : t.Smooth)
    (here : ∀ (c : StoreCall) (f : Fault), x ≠ ⟨.call c, (.error f : c.Outcome)⟩) :
    Trace.Smooth (x :: t) := by
  intro c f failed
  rcases List.mem_cons.1 failed with same | failed
  · exact here c f same.symm
  · exact later c f failed

/-- A call to a schema of valid name that puts nothing into a file that cannot be read back. -/
structure StoreCall.Sound (c : StoreCall) : Prop where
  valid : Schema.check c.schema = .ok ()
  fileable : c.Fileable

/-- Along such calls a backend goes on to show a store in memory, and none of them fails. -/
theorem Backend.Shows.carried {root : String} {b : Backend} {s s' : b.Holding} {m : MemoryStore}
    {t : Trace} (shows : Shows root b s m) (ordered : m.Ordered)
    (carried : Carries (Serves (b.step root) fun _ => False) s t s')
    (sound : ∀ c ∈ t.calls, c.Sound) : Shows root b s' (m.after t.deeds) ∧ t.Smooth := by
  induction carried generalizing m with
  | nil s => exact ⟨shows, fun _ _ => List.not_mem_nil⟩
  | @cons s s₁ s₂ x t first _ ih =>
    have deeds : Trace.deeds (x :: t) = x.deeds ++ Trace.deeds t := List.flatMap_cons
    rw [deeds, MemoryStore.after_append]
    obtain ⟨e, reply⟩ := x
    cases e with
    | call c =>
      have calls : Trace.calls (⟨.call c, reply⟩ :: t) = c :: t.calls := rfl
      rw [calls] at sound
      obtain ⟨here, later⟩ := List.forall_mem_cons.1 sound
      obtain ⟨alike, shows⟩ := shows.step ordered here.fileable
      rw [serves_iff.1 first, m.step_of_valid here.valid] at alike shows
      obtain ⟨found, rfl⟩ := alike.exists_ok
      obtain ⟨shows, smooth⟩ := ih shows (ordered.after _) later
      refine ⟨shows, smooth.cons ?_⟩
      intro d f same
      injection same with same reply
      cases same
      cases reply
    | _ =>
      obtain rfl : s₁ = s := first
      obtain ⟨shows, smooth⟩ := ih shows ordered sound
      refine ⟨shows, smooth.cons ?_⟩
      intro d f same
      cases same

namespace Inbound

variable (r : Registry)

/-- What a message is told, whatever is kept. -/
def verdict (text : String) : Except Fault EventType :=
  ((asksFor r text).map (·.1)).mapError Refusal.fault

def accepts (text : String) : Bool := (verdict r text).isOk

/-- What a message does on a store that does not fail. -/
def writing (text : String) : Trace :=
  match asksFor r text with
  | .ok (_, w) => [w.exchange (.ok ())]
  | .error _ => []

/-- What messages do one after the other. -/
def writings (texts : List String) : Trace := texts.flatMap (writing r)

def accepted (texts : List String) : List String := texts.filter (accepts r)

variable {r} {text : String} {t : Trace} {o : Except Fault EventType}

theorem writing_of_rejected (rejected : accepts r text = false) : writing r text = [] := by
  unfold accepts verdict at rejected
  unfold writing
  cases asked : asksFor r text with
  | ok a =>
    rw [asked] at rejected
    cases rejected
  | error why => rfl

theorem writings_accepted (texts : List String) :
    writings r (accepted r texts) = writings r texts := by
  induction texts with
  | nil => rfl
  | cons text rest ih =>
    unfold writings accepted at ih ⊢
    cases taken : accepts r text with
    | true => rw [List.filter_cons_of_pos taken, List.flatMap_cons, List.flatMap_cons, ih]
    | false =>
      rw [List.filter_cons_of_neg (ne_true_of_eq_false taken), List.flatMap_cons,
        writing_of_rejected taken, List.nil_append, ih]

/-- What a message asks for keeps a document in its place. -/
theorem store_of_asksFor (storable : r.Storable) {type : EventType} {w : Write}
    (asks : asksFor r text = .ok (type, w)) :
    w.toCall.Sound ∧ ∃ schema key d, w = .store schema key d := by
  rcases asksFor_cases asks with ⟨code, _, rfl⟩ | ⟨_, c, rfl⟩
  · exact ⟨⟨storable.code, Document.fileable_code code⟩, _, _, _, rfl⟩
  · exact ⟨⟨storable.case, Document.fileable_case c⟩, _, _, _, rfl⟩

theorem sound_of_runs (storable : r.Storable) (runs : (handleMessage r text).run.Runs t o) :
    ∀ c ∈ t.calls, c.Sound := by
  intro c hc
  rcases runs_handleMessage_iff.1 runs with ⟨_, _, rfl, _⟩ | ⟨type, w, q, asks, persists, _⟩
  · cases hc
  · obtain ⟨n, _, _, calls⟩ := persists.calls
    rw [calls] at hc
    rw [List.eq_of_mem_replicate hc]
    exact (store_of_asksFor storable asks).1

/-- If no call fails, a message does what it always does and is told what it is always told. -/
theorem eq_writing_of_smooth (runs : (handleMessage r text).run.Runs t o) (smooth : t.Smooth) :
    t = writing r text ∧ o = verdict r text := by
  unfold writing verdict
  rcases runs_handleMessage_iff.1 runs with
    ⟨why, refused, rfl, rfl⟩ | ⟨type, w, q, asks, persists, rfl⟩
  · rw [refused]
    exact ⟨rfl, rfl⟩
  · rw [asks]
    have kept : ∀ f, w.exchange (.error f) ∉ t := by
      intro f
      cases w with
      | store schema key d => exact smooth (.store schema key d) f
      | delete schema key => exact smooth (.delete schema key) f
    obtain ⟨rfl, rfl⟩ := persists.eq_of_kept kept
    exact ⟨rfl, rfl⟩

theorem runs_writing (r : Registry) (text : String) :
    (handleMessage r text).run.Runs (writing r text) (verdict r text) := by
  apply runs_handleMessage_iff.2
  unfold writing verdict
  cases asked : asksFor r text with
  | error why => exact .inl ⟨why, rfl, rfl, rfl⟩
  | ok a =>
    obtain ⟨type, w⟩ := a
    exact .inr ⟨type, w, .ok (), rfl, Write.persists_once _ w, rfl⟩

/-- Messages are handled one after the other, and all of them are accepted. -/
inductive Replays {σ : Type} (allows : σ → Exchange → σ → Prop) (r : Registry) :
    σ → List String → σ → Prop
  | nil (s : σ) : Replays allows r s [] s
  | cons {s s₁ s₂ : σ} {text : String} {rest : List String} {t : Trace} {type : EventType}
      (run : Program.RunsOn allows (handleMessage r text).run s t (.ok type) s₁)
      (later : Replays allows r s₁ rest s₂) : Replays allows r s (text :: rest) s₂

variable {root : String} {b : Backend} {s s' : b.Holding} {m : MemoryStore}

/-- What is left after a message, and what it is told, on either backend. -/
theorem left_alone (storable : r.Storable) (ordered : m.Ordered) (shows : b.Shows root s m)
    (run : Program.RunsOn (Serves (b.step root) fun _ => False) (handleMessage r text).run
      s t o s') :
    o = verdict r text ∧ t = writing r text ∧ b.Shows root s' (m.after (writing r text).deeds) := by
  obtain ⟨runs, carried⟩ := run
  obtain ⟨left, smooth⟩ := shows.carried ordered carried (sound_of_runs storable runs)
  obtain ⟨rfl, rfl⟩ := eq_writing_of_smooth runs smooth
  exact ⟨rfl, rfl, left⟩

/-- A rejected message leaves everything as it is. -/
theorem left_rejected (storable : r.Storable) (ordered : m.Ordered) (shows : b.Shows root s m)
    (rejected : accepts r text = false)
    (run : Program.RunsOn (Serves (b.step root) fun _ => False) (handleMessage r text).run
      s t o s') :
    t = [] ∧ s' = s := by
  obtain ⟨_, rfl, _⟩ := left_alone storable ordered shows run
  have carried := run.2
  rw [writing_of_rejected rejected] at carried ⊢
  cases carried
  exact ⟨rfl, rfl⟩

/-- On any store that does not fail the message can be handled; it is told its verdict, and if that
is a rejection nothing happens. -/
def StandsAlone (r : Registry) (text : String) : Prop :=
  ∀ (root : String) (b : Backend) (s : b.Holding) (m : MemoryStore), m.Ordered → b.Shows root s m →
    (∃ t o s', Program.RunsOn (Serves (b.step root) fun _ => False) (handleMessage r text).run
      s t o s') ∧
    ∀ t o s', Program.RunsOn (Serves (b.step root) fun _ => False) (handleMessage r text).run
      s t o s' → o = verdict r text ∧ (accepts r text = false → t = [] ∧ s' = s)

theorem standsAlone (storable : r.Storable) (text : String) : StandsAlone r text := by
  intro root b s m ordered shows
  constructor
  · exact Program.exists_runsOn (Backend.exists_serves root b) _ s
  · intro t o s' run
    exact ⟨(left_alone storable ordered shows run).1,
      fun rejected => left_rejected storable ordered shows rejected run⟩

theorem Replays.shows (storable : r.Storable) (ordered : m.Ordered) (shows : b.Shows root s m)
    {texts : List String}
    (replays : Replays (Serves (b.step root) fun _ => False) r s texts s') :
    b.Shows root s' (m.after (writings r texts).deeds) := by
  induction replays generalizing m with
  | nil s => exact shows
  | @cons s s₁ s₂ text rest t type run _ ih =>
    have split : writings r (text :: rest) = writing r text ++ writings r rest := List.flatMap_cons
    rw [split, Trace.deeds_append, MemoryStore.after_append]
    exact ih (ordered.after _) (left_alone storable ordered shows run).2.2

theorem exists_replays (storable : r.Storable) (ordered : m.Ordered) (shows : b.Shows root s m)
    {texts : List String} (all : ∀ text ∈ texts, accepts r text) :
    ∃ s', Replays (Serves (b.step root) fun _ => False) r s texts s' := by
  induction texts generalizing s m with
  | nil => exact ⟨s, .nil s⟩
  | cons text rest ih =>
    obtain ⟨here, later⟩ := List.forall_mem_cons.1 all
    obtain ⟨t, o, s₁, run⟩ :=
      Program.exists_runsOn (Backend.exists_serves root b) (handleMessage r text).run s
    obtain ⟨rfl, _, shows⟩ := left_alone storable ordered shows run
    obtain ⟨s', more⟩ := ih (ordered.after _) shows later
    unfold accepts at here
    cases told : verdict r text with
    | error f =>
      rw [told] at here
      cases here
    | ok type =>
      rw [told] at run
      exact ⟨s', .cons run more⟩

end Inbound
end CensusLink
