import CensusLink.Proofs.Linking.Session

/-!
Codes that are linked already. A link that succeeds leaves its code settled: kept as it was shown,
with its cases at the address. Linking a settled code again finds the same cases, so it keeps the
code as it is and tells of it, or it stops before that. In neither case does it change the store.
-/
namespace CensusLink.Link

/-- A code is kept as linked to the case of an address, or to an individual case next to it. -/
structure Settled (r : Registry) (s : MemoryStore) (uprn : String) (code : AccessCode)
    (c : CollectionCase) (individual : Option CollectionCase) : Prop where
  kept : (s.documents r.schemas.accessCode).lookup code.hash = some (Wire.toDocument code)
  stands : Stands (r.casesIn s uprn) c
  allowed : Pairing.check code c = .ok ()
  linked : code.caseId = some (individual.getD c).id
  alone : needsIndividual code c = false → individual = none
  person : needsIndividual code c = true →
    ∃ i ∈ r.casesIn s uprn, i.type = .individual ∧ individual = some i

variable {r : Registry} {settings : LinkSettings} {k : Conditions} {s s' : MemoryStore}
  {ds : List Deed} {l : Located} {hash uprn : String} {request : LinkRequest}
  {o : Except Fault CodeView} {code : AccessCode} {c : CollectionCase}
  {individual : Option CollectionCase} {e : Episode} {es : List Episode}

/-- What a link does for a code that is settled. -/
def confirmation (r : Registry) (code : AccessCode) (c : CollectionCase)
    (individual : Option CollectionCase) : List Deed :=
  [.ofCode r code, .told (linkNotice code c individual)]

theorem type_of_told_reports {n : Notice} (h : .told n ∈ l.reports r) :
    n.type = .newAddressReported := by
  rw [Located.reports] at h
  split at h
  · rcases List.mem_pair.1 h with eq | eq
    · rw [Deed.ofCase] at eq
      cases eq
    · rw [Deed.told.inj eq]
      rfl
  · cases h

theorem Accompanies.silent {n : Notice} (h : Accompanies r k s l individual ds) :
    .told n ∉ ds := by
  cases h <;> simp [Deed.ofCase]

/-- The individual case of a link is at its address from then on. -/
theorem Accompanies.mem_cases (h : Accompanies r k s l individual ds)
    (needed : needsIndividual l.code l.subject = true) :
    ∃ i ∈ keptCases r ds ++ l.cases, i.type = .individual ∧ individual = some i := by
  cases h with
  | alone needless => simp [needed] at needless
  | again _ linked =>
    obtain ⟨member, type, _⟩ := of_linkedIndividual? linked
    exact ⟨_, List.mem_append_right _ member, type, rfl⟩
  | @anew id created _ _ _ =>
    refine ⟨individualCase id created l.subject, ?_, by simp [individualCase], rfl⟩
    rw [keptCases_cons, Deed.case?_ofCase]
    exact List.mem_append_left _ (List.mem_singleton_self _)

/-- A link that succeeds ends by keeping a code, which is settled then. -/
theorem Completes.settled (named : r.WellNamed) (placed : r.Placed s) (fresh : k.DrawsNew r)
    (found : Locates r settings k s hash request (.ok l)) {v : CodeView}
    (h : Completes r k s l ds (.ok v)) :
    ∃ individual,
      Settled r (s.after ds) request.place (l.linkedCode individual) l.subject individual ∧
      v = CodeView.merged (individual.getD l.subject) (l.linkedCode individual) ∧
      ∃ before, ds = before ++ confirmation r (l.linkedCode individual) l.subject individual ∧
        ∀ n, .told n ∈ before → n.type = .newAddressReported := by
  have here := h.casesIn_here_perm named placed fresh found
  cases id h with
  | @linked individual accompanied check company =>
    have stands := h.stands_of_kept named placed fresh found
      (h.subject_kept named (by simp [Located.links]))
    refine ⟨individual, ?_, rfl, _, rfl, fun n told => ?_⟩
    · refine ⟨?_, stands, check, rfl, fun needless => ?_, fun needed => ?_⟩
      · rw [MemoryStore.after_append]
        exact r.lookup_ofCode _ (l.linkedCode individual)
      · cases company with
        | alone _ => rfl
        | again needed _ => exact absurd (needed.symm.trans needless) (by decide)
        | anew needed _ _ => exact absurd (needed.symm.trans needless) (by decide)
      · obtain ⟨i, member, type, eq⟩ := company.mem_cases needed
        refine ⟨i, here.mem_iff.2 ?_, type, eq⟩
        rw [found.cases_eq] at member
        simp only [keptCases_append, List.mem_append] at member ⊢
        exact member.imp_left fun hi => .inl (.inr hi)
    · rcases List.mem_append.1 told with told | told
      · exact type_of_told_reports told
      · exact absurd told company.silent

/-- An episode that succeeds leaves its code settled. -/
theorem Episode.Leads.settled (named : r.WellNamed) (placed : r.Placed s) (fresh : k.DrawsNew r)
    (run : e.Leads r settings k s s') {v : CodeView} (succeeds : e.outcome = .ok v) :
    ∃ code c individual, code.hash = e.hash ∧ Settled r s' e.request.place code c individual ∧
      v = CodeView.merged (individual.getD c) code ∧
      ∃ before, e.deeds = before ++ confirmation r code c individual ∧
        ∀ n, .told n ∈ before → n.type = .newAddressReported := by
  rw [run.eq_after]
  rcases run.completes_or_idle named placed with ⟨l, _, found, ends⟩ | ⟨⟨f, failed⟩, _⟩
  · rw [succeeds] at ends
    obtain ⟨individual, settled, view, told⟩ := ends.settled named placed fresh found
    have hash_eq : l.code.hash = e.hash := r.hash_of_codeIn placed found.codeIn_eq
    exact ⟨l.linkedCode individual, l.subject, individual, hash_eq, settled, view, told⟩
  · rw [succeeds] at failed
    cases failed

theorem keptCases_confirmation (named : r.WellNamed) (code : AccessCode) (c : CollectionCase)
    (individual : Option CollectionCase) : keptCases r (confirmation r code c individual) = [] := by
  simp [confirmation, keptCases_cons, Deed.case?_ofCode named]

namespace Settled

theorem codeIn_eq (h : Settled r s uprn code c individual) :
    r.codeIn s code.hash = some code := by
  rw [Registry.codeIn, h.kept, Option.bind_some, Registry.read?_toDocument_code]

/-- Keeping a settled code once more changes nothing. -/
theorem after_confirmation (placed : r.Placed s) (h : Settled r s uprn code c individual) :
    s.after (confirmation r code c individual) = s :=
  MemoryStore.undergo_kept_eq_self placed.ordered h.kept

/-- A settled code does not get another individual case. -/
theorem accompanies (placed : r.Placed s) (h : Settled r s uprn code c individual)
    {other : Option CollectionCase}
    (company : Accompanies r k s ⟨code, r.casesIn s uprn, c, false⟩ other ds) :
    other = individual ∧ ds = [] := by
  cases company with
  | alone needless => exact ⟨(h.alone needless).symm, rfl⟩
  | again needed linked =>
    obtain ⟨member, _, same⟩ := of_linkedIndividual? linked
    obtain ⟨i, there, _, rfl⟩ := h.person needed
    refine ⟨congrArg some ?_, rfl⟩
    have ids : i.id = _ := Option.some.inj (h.linked.symm.trans same)
    exact List.inj_on_of_nodup_map (r.nodup_ids_casesIn placed uprn) member there ids.symm
  | anew needed unlinked _ =>
    obtain ⟨i, there, type, rfl⟩ := h.person needed
    exact absurd h.linked (linkedIndividual?_eq_none_iff.1 unlinked i there type)

theorem located (placed : r.Placed s)
    (h : Settled r s request.place code c individual)
    (found : Locates r settings k s code.hash request (.ok l)) :
    l = ⟨code, r.casesIn s request.place, c, false⟩ := by
  have same := Option.some.inj (found.codeIn_eq.symm.trans h.codeIn_eq)
  have cases_eq := found.cases_eq
  rcases (found.stands_or_new placed).2 with ⟨old, subject⟩ | ⟨_, vacant, _⟩
  · have subject_eq := stands_unique (r.nodup_ids_casesIn placed _) subject h.stands
    cases l
    simp_all
  · have stands := h.stands
    rw [vacant] at stands
    cases stands.mem

/-- Linking a settled code again confirms it, or fails and does nothing. -/
theorem completes (placed : r.Placed s)
    (h : Settled r s uprn code c individual)
    (ends : Completes r k s ⟨code, r.casesIn s uprn, c, false⟩ ds o) :
    (ds = [] ∧ ∃ f, o = .error f) ∨ (ds = confirmation r code c individual ∧
      o = .ok (CodeView.merged (individual.getD c) code)) := by
  have same : linkedTo (individual.getD c) code = code := by
    rw [linkedTo, ← h.linked]
  cases ends with
  | refused _ => exact .inl ⟨rfl, _, rfl⟩
  | unreported _ _ _ => exact .inl ⟨rfl, _, rfl⟩
  | unaccompanied _ _ _ _ _ => exact .inl ⟨rfl, _, rfl⟩
  | unlinked _ company _ =>
    obtain ⟨rfl, rfl⟩ := h.accompanies placed company
    exact .inl ⟨rfl, _, rfl⟩
  | linked _ company =>
    obtain ⟨rfl, rfl⟩ := h.accompanies placed company
    refine .inr ⟨?_, ?_⟩
    · simp [confirmation, Located.reports, Located.links, Located.linkedCode, same]
    · simp [Located.linkedCode, same]

/-- Linking a settled code again leaves the store as it is, and says the same if it succeeds. -/
theorem again (named : r.WellNamed) (placed : r.Placed s)
    (h : Settled r s uprn code c individual) (run : e.Leads r settings k s s')
    (same : e.hash = code.hash) (here : e.request.place = uprn) :
    s' = s ∧ ((e.deeds = [] ∧ ∃ f, e.outcome = .error f) ∨
      (e.deeds = confirmation r code c individual ∧
        e.outcome = .ok (CodeView.merged (individual.getD c) code))) := by
  subst here
  have idle_or_confirms : (e.deeds = [] ∧ ∃ f, e.outcome = .error f) ∨
      (e.deeds = confirmation r code c individual ∧
        e.outcome = .ok (CodeView.merged (individual.getD c) code)) := by
    rcases run.completes_or_idle named placed with ⟨l, _, found, ends⟩ | ⟨failed, idle⟩
    · rw [same] at found
      rw [h.located placed found] at ends
      exact h.completes placed ends
    · exact .inl ⟨idle, failed⟩
  refine ⟨?_, idle_or_confirms⟩
  rw [run.eq_after]
  rcases idle_or_confirms with ⟨idle, _⟩ | ⟨confirms, _⟩
  · rw [idle, MemoryStore.after_nil]
  · rw [confirms, h.after_confirmation placed]

/-- However often a settled code is linked again, its store is left as it is. -/
theorem session (named : r.WellNamed) (placed : r.Placed s)
    (h : Settled r s uprn code c individual) (session : Session r settings k s es s')
    (same : ∀ e ∈ es, e.hash = code.hash ∧ e.request.place = uprn) :
    s' = s ∧ ∀ e ∈ es, e.Leads r settings k s s := by
  induction session with
  | nil s => exact ⟨rfl, by simp⟩
  | cons run _ ih =>
    obtain ⟨here, later⟩ := List.forall_mem_cons.1 same
    obtain ⟨rfl, _⟩ := h.again named placed run here.1 here.2
    obtain ⟨rfl, rest⟩ := ih placed h later
    exact ⟨rfl, List.forall_mem_cons.2 ⟨run, rest⟩⟩

end Settled

end CensusLink.Link
