import CensusLink.Proofs.Linking.Growth

/-!
Links one after the other on one store. A session is a list of episodes, each of them the run of one
link from the store that the one before it left. The main statements say that the store stays in
place along a session, and that a case which stands for an address at any time is the case of every
later link there.
-/
namespace CensusLink
namespace Link

/-- One link of a session. -/
structure Episode where
  hash : String
  request : LinkRequest
  trace : Trace
  outcome : Except Fault CodeView

def Episode.deeds (e : Episode) : List Deed := e.trace.deeds

section Runs

variable (r : Registry) (settings : LinkSettings)

/-- An episode is a run of its link from one store to another. -/
def Episode.Leads (k : Conditions) (s : MemoryStore) (e : Episode) (s' : MemoryStore) : Prop :=
  Program.RunsOn k.Allows (link r settings e.hash e.request).run s e.trace e.outcome s'

/-- An episode gets so far as to find out its case. -/
def Episode.Finds (e : Episode) (l : Located) : Prop :=
  ∃ t u, e.trace = t ++ u ∧ (locate r settings e.hash e.request).run.Runs t (.ok l)

/-- Links from one store to another. -/
inductive Session (k : Conditions) : MemoryStore → List Episode → MemoryStore → Prop
  | nil (s : MemoryStore) : Session k s [] s
  | cons {s s₁ s₂ : MemoryStore} {e : Episode} {rest : List Episode}
      (run : e.Leads r settings k s s₁) (more : Session k s₁ rest s₂) :
    Session k s (e :: rest) s₂

end Runs

/-- All deeds of a session. -/
def deedsOf (es : List Episode) : List Deed := es.flatMap Episode.deeds

variable {r : Registry} {settings : LinkSettings} {k : Conditions} {s s' : MemoryStore}
  {e : Episode} {es fs : List Episode} {l : Located}

@[simp]
theorem deedsOf_nil : deedsOf [] = [] := rfl

@[simp]
theorem deedsOf_cons (e : Episode) (es : List Episode) :
    deedsOf (e :: es) = e.deeds ++ deedsOf es := List.flatMap_cons

theorem session_append_iff : Session r settings k s (es ++ fs) s' ↔
    ∃ s₁, Session r settings k s es s₁ ∧ Session r settings k s₁ fs s' := by
  constructor
  · intro h
    induction es generalizing s with
    | nil => exact ⟨s, .nil s, h⟩
    | cons e rest ih =>
      cases h with
      | cons run more =>
        obtain ⟨s₁, before, after⟩ := ih more
        exact ⟨s₁, .cons run before, after⟩
  · rintro ⟨s₁, before, after⟩
    induction before with
    | nil => exact after
    | cons run _ ih => exact .cons run (ih after)

theorem Episode.Leads.eq_after (run : e.Leads r settings k s s') : s' = s.after e.deeds :=
  (Service.does_of_runsOn run).2

/-- An episode that finds out its case writes as the rest of a link does. -/
theorem Episode.Finds.completes (named : r.WellNamed) (placed : r.Placed s)
    (run : e.Leads r settings k s s') (finds : e.Finds r settings l) :
    Locates r settings k s e.hash e.request (.ok l) ∧ Completes r k s l e.deeds e.outcome := by
  obtain ⟨t, u, split, found⟩ := finds
  rw [Leads, link_eq] at run
  obtain ⟨a, t₁, s₁, t₂, split', first, second⟩ := Program.runsOn_bind_iff.1 run
  obtain ⟨rfl, rfl⟩ := first.1.unique found (split'.symm.trans split)
  obtain ⟨does, rfl⟩ := Service.does_of_runsOn first
  obtain ⟨none, locates⟩ := Locates.of_does named placed does
  have completes := (does_complete_iff named).1 (Service.does_of_runsOn second).1
  rw [none, MemoryStore.after_nil] at completes
  have deeds : e.deeds = t₂.deeds := by
    rw [Episode.deeds, split', Trace.deeds_append, none, List.nil_append]
  exact ⟨locates, deeds ▸ completes⟩

/-- An episode writes as the rest of a link does, or does not find out its case and does nothing. -/
theorem Episode.Leads.completes_or_idle (named : r.WellNamed) (placed : r.Placed s)
    (run : e.Leads r settings k s s') :
    (∃ l, e.Finds r settings l ∧ Locates r settings k s e.hash e.request (.ok l) ∧
      Completes r k s l e.deeds e.outcome) ∨ ((∃ f, e.outcome = .error f) ∧ e.deeds = []) := by
  have whole := run
  rw [Leads, link_eq] at run
  obtain ⟨a, t₁, s₁, t₂, split, first, second⟩ := Program.runsOn_bind_iff.1 run
  cases a with
  | ok l =>
    have finds : e.Finds r settings l := ⟨t₁, t₂, split, first.1⟩
    exact .inl ⟨l, finds, finds.completes named placed whole⟩
  | error f =>
    obtain ⟨none, _⟩ := Locates.of_does named placed (Service.does_of_runsOn first).1
    obtain ⟨rfl, outcome⟩ := Program.runs_done_iff.1 second.1
    refine .inr ⟨⟨f, outcome⟩, ?_⟩
    rw [Episode.deeds, split, List.append_nil]
    exact none

/-- Every way for a link to go is that of an episode. -/
theorem exists_episode (named : r.WellNamed) (placed : r.Placed s) {hash : String}
    {request : LinkRequest} {ds : List Deed} {o : Except Fault CodeView}
    (found : Locates r settings k s hash request (.ok l)) (ends : Completes r k s l ds o) :
    ∃ e : Episode, (e.hash = hash ∧ e.request = request) ∧ (e.deeds = ds ∧ e.outcome = o) ∧
      e.Finds r settings l ∧ e.Leads r settings k s (s.after ds) := by
  obtain ⟨t, first, none⟩ := found.does named placed
  obtain ⟨u, second, deeds⟩ := (does_complete_iff named).2 ends
  refine ⟨⟨hash, request, t ++ u, o⟩, ⟨rfl, rfl⟩, ⟨?_, rfl⟩, ⟨t, u, rfl, first.1⟩, ?_⟩
  · rw [Episode.deeds, Trace.deeds_append, none, deeds, List.nil_append]
  · rw [Episode.Leads, link_eq]
    exact Program.runsOn_bind_iff.2 ⟨_, t, s, u, rfl, first, second⟩

/-- An episode keeps the store in place, however it ends. -/
theorem Episode.Leads.placed (named : r.WellNamed) (placed : r.Placed s)
    (run : e.Leads r settings k s s') : r.Placed s' := by
  rw [run.eq_after]
  rcases run.completes_or_idle named placed with ⟨l, _, _, ends⟩ | ⟨_, idle⟩
  · exact placed.after named ends.proper
  · rwa [idle]

theorem Session.placed (named : r.WellNamed) (placed : r.Placed s)
    (session : Session r settings k s es s') : r.Placed s' := by
  induction session with
  | nil s => exact placed
  | cons run _ ih => exact ih (run.placed named placed)

theorem Episode.Leads.stands (named : r.WellNamed) (placed : r.Placed s) (fresh : k.DrawsNew r)
    (run : e.Leads r settings k s s') {uprn : String} {c : CollectionCase}
    (stands : Stands (r.casesIn s uprn) c) : Stands (r.casesIn s' uprn) c := by
  rw [run.eq_after]
  rcases run.completes_or_idle named placed with ⟨l, _, found, ends⟩ | ⟨_, idle⟩
  · exact ends.stands_after named placed fresh found stands
  · rwa [idle]

theorem Episode.Finds.subject_eq (named : r.WellNamed) (placed : r.Placed s)
    (run : e.Leads r settings k s s') (finds : e.Finds r settings l) {c : CollectionCase}
    (stands : Stands (r.casesIn s e.request.place) c) : l.subject = c ∧ l.isNew = false := by
  rcases ((finds.completes named placed run).1.stands_or_new placed).2 with
    ⟨old, subject⟩ | ⟨_, vacant, _⟩
  · exact ⟨stands_unique (r.nodup_ids_casesIn placed _) subject stands, old⟩
  · rw [vacant] at stands
    cases stands.mem

/-- The case that stands for an address is the case of every link there. -/
theorem Session.subject_eq (named : r.WellNamed) (placed : r.Placed s) (fresh : k.DrawsNew r)
    (session : Session r settings k s es s') {uprn : String} {c : CollectionCase}
    (stands : Stands (r.casesIn s uprn) c) (he : e ∈ es) (here : e.request.place = uprn)
    (finds : e.Finds r settings l) : l.subject = c ∧ l.isNew = false := by
  induction session with
  | nil s => cases he
  | cons run _ ih =>
    rcases List.mem_cons.1 he with rfl | he
    · exact finds.subject_eq named placed run (here ▸ stands)
    · exact ih (run.placed named placed) (run.stands named placed fresh stands) he

end Link
/-! An example: a code for a person of a household is linked at an address where no case stands. The
first link stops before the code is kept, and the second goes through. -/
namespace Sample

open Link

/-- Writes may fail, and identifiers are drawn that no case has and the code is not linked to. -/
def rough : Conditions where
  mayFail
    | .store _ _ _ => True
    | _ => False
  mayDraw s id := registry.Fresh s id ∧
    ∀ code, registry.codeIn s "code" = some code → code.caseId ≠ some id.text

theorem drawsNew : rough.DrawsNew registry := fun _ _ drawn => drawn.1

theorem mayDraw {s : MemoryStore} {id : Uuid} (fresh : registry.Fresh s id)
    (found : registry.codeIn s "code" = some code) : rough.mayDraw s id := by
  refine ⟨fresh, fun c hc => ?_⟩
  rw [found] at hc
  obtain rfl := Option.some.inj hc
  exact nofun

def request : LinkRequest := .of " 200 " "HH"

theorem valid_start : Civil.Valid ⟨1970, 1, 1, 0, 0⟩ := by decide

def start : Instant := ⟨⟨1970, 1, 1, 0, 0⟩, valid_start⟩

def subject : CollectionCase :=
  reportedCase ⟨0, by decide⟩ start code request .household .standard

def person (id : Uuid) : CollectionCase := individualCase id start subject

def first : Located := ⟨code, registry.casesIn store request.place, subject, true⟩

/-- What the first link has done when it stops. -/
def stopped : List Deed := first.reports registry ++ [.ofCase registry (person ⟨1, by decide⟩)]

def second : Located :=
  ⟨code, registry.casesIn (store.after stopped) request.place, subject, false⟩

def finished : List Deed :=
  second.reports registry ++ [.ofCase registry (person ⟨2, by decide⟩)] ++
    second.links registry (some (person ⟨2, by decide⟩))

theorem locates_first : Locates registry .standard rough store "code" request (.ok first) := by
  have fresh : registry.Fresh store ⟨0, by decide⟩ := by
    rw [Registry.Fresh]
    decide +kernel
  exact .vacant codeIn_store rfl (resolve_eq_vacant_iff.2 (by decide +kernel))
    (mayDraw fresh codeIn_store)

theorem completes_first (f : Fault) :
    Completes registry rough store first stopped (.error f) := by
  have fresh : registry.Fresh (store.after (first.reports registry)) ⟨1, by decide⟩ := by
    rw [Registry.Fresh]
    decide +kernel
  have found := (codeIn_reports wellNamed store first "code").trans codeIn_store
  exact .unlinked rfl (.anew rfl rfl (mayDraw fresh found)) trivial

theorem codeIn_stopped : registry.codeIn (store.after stopped) "code" = some code :=
  ((completes_first (unknownCode "")).codeIn_of_error wellNamed "code").trans codeIn_store

theorem locates_second :
    Locates registry .standard rough (store.after stopped) "code" request (.ok second) := by
  have ends := completes_first (unknownCode "")
  have stands := ends.stands_of_kept wellNamed placed drawsNew locates_first
    (.inr (by decide +kernel))
  have ids := registry.nodup_ids_casesIn (placed.after wellNamed ends.proper) request.place
  exact .settled codeIn_stopped rfl ((resolve_eq_settled_iff ids).2 stands)

theorem completes_second :
    ∃ v, Completes registry rough (store.after stopped) second finished (.ok v) := by
  have fresh : registry.Fresh ((store.after stopped).after (second.reports registry))
      ⟨2, by decide⟩ := by
    rw [Registry.Fresh]
    decide +kernel
  have found := (codeIn_reports wellNamed (store.after stopped) second "code").trans codeIn_stopped
  exact ⟨_, .linked rfl (.anew rfl rfl (mayDraw fresh found))⟩

theorem exists_session : ∃ e₁ e₂ s', Session registry .standard rough store [e₁, e₂] s' ∧
    (∀ e ∈ [e₁, e₂], e.hash = "code" ∧ e.request = request) ∧
    ((∃ f, e₁.outcome = .error f) ∧ e₁.deeds = stopped ∧ e₁.Finds registry .standard first) ∧
    (∃ v, e₂.outcome = .ok v) ∧ e₂.deeds = finished ∧ e₂.Finds registry .standard second := by
  have ends := completes_first (unknownCode "")
  obtain ⟨e₁, link₁, ⟨did₁, out₁⟩, finds₁, leads₁⟩ :=
    exists_episode wellNamed placed locates_first ends
  obtain ⟨v, ends'⟩ := completes_second
  obtain ⟨e₂, link₂, ⟨did₂, out₂⟩, finds₂, leads₂⟩ :=
    exists_episode wellNamed (placed.after wellNamed ends.proper) locates_second ends'
  refine ⟨e₁, e₂, _, .cons leads₁ (.cons leads₂ (.nil _)), ?_, ⟨⟨_, out₁⟩, did₁, finds₁⟩,
    ⟨v, out₂⟩, did₂, finds₂⟩
  intro e he
  simp only [List.mem_cons, List.not_mem_nil, or_false] at he
  rcases he with rfl | rfl
  · exact link₁
  · exact link₂

end Sample
end CensusLink
