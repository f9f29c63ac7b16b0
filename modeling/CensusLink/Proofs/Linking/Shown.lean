import CensusLink.Proofs.Linking.Concurrent
import CensusLink.Proofs.Linking.Settled
import CensusLink.Proofs.Registry.Catalogue
import CensusLink.Proofs.Store.Calm
import CensusLink.Queries

/-!
What is seen of a code after it has been linked. A link that succeeds leaves its code kept next to
the case it is linked to. Links of other codes write neither of the two, however they end, so the
code is seen from then on as the link has shown it.
-/
namespace CensusLink

namespace Service

variable {α β : Type} {k : Conditions} {s : MemoryStore} {x : Service α} {f : α → Service β} {a : α}
  {mayFail : Prop}

/-- What follows a step that does nothing may fail as well as the step itself. -/
theorem Yields.bind_idle (h : x.Yields k s a [] mayFail) {b : β} {done : List Deed}
    {mayFail' : Prop} (more : (f a).Yields k s b done mayFail') :
    Service.Yields k (x >>= f) s b done (mayFail ∨ mayFail') := by
  intro ds o
  rw [h.bind_iff]
  constructor
  · rintro (⟨may, failed⟩ | ⟨_, rfl, second⟩)
    · exact .inr ⟨.inl may, failed⟩
    · exact ((more _ o).1 second).imp_right fun ⟨may, failed⟩ => ⟨.inr may, failed⟩
  · rintro (ends | ⟨may | may, failed⟩)
    · exact .inr ⟨ds, rfl, (more ds o).2 (.inl ends)⟩
    · exact .inl ⟨may, failed⟩
    · exact .inr ⟨ds, rfl, (more ds o).2 (.inr ⟨may, failed⟩)⟩

/-- A step that changes nothing and may not fail has its one result. -/
theorem Yields.gives (h : x.Yields k s a [] mayFail) (sure : ¬ mayFail) : x.Gives k.Allows s a := by
  constructor
  · obtain ⟨t, run, _⟩ := (h [] (.ok a)).2 (.inl ⟨rfl, rfl⟩)
    exact ⟨t, run⟩
  · intro t o s' run
    obtain ⟨does, eq⟩ := Service.does_of_runsOn run
    rcases (h t.deeds o).1 does with ⟨rfl, idle⟩ | ⟨may, _⟩
    · rw [eq, idle, MemoryStore.after_nil]
      exact ⟨rfl, rfl⟩
    · exact absurd may sure

end Service

namespace Link

/-- A code is kept, and so is the case that it is linked to. -/
structure Attached (r : Registry) (s : MemoryStore) (code : AccessCode) (c : CollectionCase) :
    Prop where
  linked : code.caseId = some c.id
  code : r.codeIn s code.hash = some code
  case : r.caseIn s c.id = some c

variable {r : Registry} {settings : LinkSettings} {k : Conditions} {s s' : MemoryStore}
  {ds : List Deed} {l : Located} {hash uprn : String} {request : LinkRequest}
  {o : Except Fault CodeView} {code : AccessCode} {c : CollectionCase}
  {individual : Option CollectionCase} {e : Episode} {es : List Episode}

theorem Settled.attached (placed : r.Placed s) (h : Settled r s uprn code c individual) :
    Attached r s code (individual.getD c) where
  code := h.codeIn_eq
  linked := h.linked
  case := by
    cases needed : needsIndividual code c with
    | false =>
      rw [h.alone needed]
      exact r.caseIn_of_mem_casesIn placed h.stands.mem
    | true =>
      obtain ⟨i, here, _, rfl⟩ := h.person needed
      exact r.caseIn_of_mem_casesIn placed here

/-- A code that is kept next to its case is seen merged with it, unless one of them is not read. -/
theorem Attached.code_yields (named : r.WellNamed) (placed : r.Placed s)
    (h : Attached r s code c) : (Queries.code r code.hash).Yields k s (.merged c code) []
      (k.mayFail (.retrieve r.schemas.accessCode code.hash) ∨
        k.mayFail (.retrieve r.schemas.case c.id)) := by
  have case := r.readCase_yields (k := k) named placed c.id
  refine (findCode_yields named placed h.code).bind_idle ?_
  rw [h.linked]
  exact case.bind_pure (by rw [h.case])

/-- A link writes to no code but its own. -/
theorem Completes.codeIn_of_ne (named : r.WellNamed) (h : Completes r k s l ds o)
    (other : hash ≠ l.code.hash) : r.codeIn (s.after ds) hash = r.codeIn s hash := by
  cases o with
  | error f => exact h.codeIn_of_error named hash
  | ok v =>
    cases h with | @linked individual accompanied _ company =>
    rw [MemoryStore.after_append, MemoryStore.after_append]
    have linked (s : MemoryStore) :
        r.codeIn (s.after (l.links r individual)) hash = r.codeIn s hash :=
      (r.codeIn_ofCode s (l.linkedCode individual) hash).trans (if_neg other)
    rw [linked, Registry.codeIn, company.documents_eq named.distinct]
    exact codeIn_reports named s l hash

/-- A link takes no case away and writes over none. -/
theorem Episode.Leads.caseIn_eq (named : r.WellNamed) (placed : r.Placed s) (fresh : k.DrawsNew r)
    (run : e.Leads r settings k s s') {id : String} (kept : r.caseIn s id = some c) :
    r.caseIn s' id = some c := by
  rw [run.eq_after]
  rcases run.completes_or_idle named placed with ⟨l, _, found, ends⟩ | ⟨_, idle⟩
  · obtain ⟨d, there, read⟩ := Option.bind_eq_some_iff.1 kept
    have novel := ends.novel named fresh (found.novel_reports fresh)
    have later := r.lookup_after named ends.proper novel there
    rw [Registry.caseIn, later]
    exact read
  · rw [idle]
    exact kept

theorem Episode.Leads.codeIn_eq (named : r.WellNamed) (placed : r.Placed s)
    (run : e.Leads r settings k s s') (other : hash ≠ e.hash) :
    r.codeIn s' hash = r.codeIn s hash := by
  rw [run.eq_after]
  rcases run.completes_or_idle named placed with ⟨l, _, found, ends⟩ | ⟨_, idle⟩
  · have own : l.code.hash = e.hash := r.hash_of_codeIn placed found.codeIn_eq
    exact ends.codeIn_of_ne named (own ▸ other)
  · rw [idle, MemoryStore.after_nil]

namespace Attached

/-- A link of another code leaves a code with its case as they are. -/
theorem leads (named : r.WellNamed) (placed : r.Placed s) (fresh : k.DrawsNew r)
    (h : Attached r s code c) (run : e.Leads r settings k s s') (other : e.hash ≠ code.hash) :
    Attached r s' code c where
  code := (run.codeIn_eq named placed other.symm).trans h.code
  linked := h.linked
  case := run.caseIn_eq named placed fresh h.case

theorem session (named : r.WellNamed) (placed : r.Placed s) (fresh : k.DrawsNew r)
    (h : Attached r s code c) (session : Session r settings k s es s')
    (others : ∀ e ∈ es, e.hash ≠ code.hash) : Attached r s' code c := by
  induction session with
  | nil s => exact h
  | cons run _ ih =>
    obtain ⟨here, later⟩ := List.forall_mem_cons.1 others
    exact ih (run.placed named placed) (h.leads named placed fresh run here) later

end Attached

/-- What a link shows is what is seen of its code from then on, whatever becomes of links of other
codes in the meantime. -/
theorem shown_is_seen (named : r.WellNamed) (placed : r.Placed s) (fresh : k.DrawsNew r)
    {s₁ s₂ : MemoryStore} (first : e.Leads r settings k s s₁) {v : CodeView}
    (succeeds : e.outcome = .ok v) (later : Session r settings k s₁ es s₂)
    (others : ∀ f ∈ es, f.hash ≠ e.hash) :
    (Queries.code r e.hash).Gives Conditions.calm.Allows s₂ v := by
  obtain ⟨code, c, individual, hash_eq, settled, rfl, _⟩ :=
    first.settled named placed fresh succeeds
  have placed₁ := first.placed named placed
  rw [← hash_eq] at others ⊢
  have attached := (settled.attached placed₁).session named placed₁ fresh later others
  exact (attached.code_yields named (later.placed named placed₁)).gives (by simp [Conditions.calm])

end Link
/-! An example: when the code of one household has been linked, the other code is linked to the same
case. -/
namespace Sample

open Link

def late : Located :=
  ⟨neighbour false, registry.casesIn (unoccupied.after (done true)) request.place,
    (early true).subject, false⟩

theorem drawsNew_careful : careful.DrawsNew registry := fun _ _ drawn => drawn

theorem locates_late : Locates registry .standard careful (unoccupied.after (done true))
    (neighbour false).hash request (.ok late) := by
  have ends := completes_early true unoccupied
  have found : registry.codeIn (unoccupied.after (done true)) (neighbour false).hash =
      some (neighbour false) := by
    decide +kernel
  have stands := ends.stands_of_kept wellNamed placed_unoccupied drawsNew_careful
    (locates_early true) (ends.subject_kept wellNamed ends.ne_nil_of_ok)
  have ids := registry.nodup_ids_casesIn (placed_unoccupied.after wellNamed ends.proper)
    request.place
  exact .settled found rfl ((resolve_eq_settled_iff ids).2 stands)

theorem completes_late (s : MemoryStore) :
    ∃ ds v, Completes registry careful s late ds (.ok v) := ⟨_, _, .linked rfl (.alone rfl)⟩

end Sample

namespace Link

/-- In the example the first code is still seen as it was linked. -/
theorem shown_is_seen_sample : ∃ (e f : Episode) (s₁ s₂ : MemoryStore),
    e.Leads Sample.registry .standard Sample.careful Sample.unoccupied s₁ ∧
    e.outcome = .ok (Sample.view true) ∧
    Session Sample.registry .standard Sample.careful s₁ [f] s₂ ∧
    f.hash ≠ e.hash ∧ f.request = e.request ∧ (∃ v, f.outcome = .ok v) ∧
    (Queries.code Sample.registry e.hash).Gives Conditions.calm.Allows s₂ (Sample.view true) := by
  have ends := Sample.completes_early true Sample.unoccupied
  have placed := Sample.placed_unoccupied.after Sample.wellNamed ends.proper
  obtain ⟨ds, v, ends'⟩ := Sample.completes_late (Sample.unoccupied.after (Sample.done true))
  obtain ⟨e, ⟨hash, request⟩, ⟨_, shown⟩, _, first⟩ :=
    exists_episode Sample.wellNamed Sample.placed_unoccupied (Sample.locates_early true) ends
  obtain ⟨f, ⟨hash', request'⟩, ⟨_, shown'⟩, _, second⟩ :=
    exists_episode Sample.wellNamed placed Sample.locates_late ends'
  have other : f.hash ≠ e.hash := by
    rw [hash, hash']
    decide
  have later := Session.cons second (.nil _)
  refine ⟨e, f, _, _, first, shown, later, other, request'.trans request.symm, ⟨v, shown'⟩, ?_⟩
  exact shown_is_seen Sample.wellNamed Sample.placed_unoccupied Sample.drawsNew_careful first shown
    later (List.forall_mem_singleton.2 other)

end Link
end CensusLink
