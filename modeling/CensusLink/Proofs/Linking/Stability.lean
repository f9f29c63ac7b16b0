import CensusLink.Proofs.Linking.Session

/-!
An address is reported at most once. Reporting a case needs an address where none stands, and from
then on one stands there, so of a session only one link can report a case for an address. The main
statement puts this together with the case of an address being the same for all links once it is
there, whichever of the links fail and wherever they stop.
-/
namespace CensusLink

/-- The cases that deeds keep and that are not for a person of a household. -/
def reportedCases (r : Registry) (ds : List Deed) : List CollectionCase :=
  (keptCases r ds).filter fun c => c.type ≠ .individual

theorem reportedCases_append (r : Registry) (ds es : List Deed) :
    reportedCases r (ds ++ es) = reportedCases r ds ++ reportedCases r es := by
  rw [reportedCases, keptCases_append, List.filter_append]
  rfl

/-- The reported cases with a property reference number. -/
def reportedAt (r : Registry) (uprn : String) (ds : List Deed) : List CollectionCase :=
  (reportedCases r ds).filter (·.uprn = uprn)

theorem reportedAt_append (r : Registry) (uprn : String) (ds es : List Deed) :
    reportedAt r uprn (ds ++ es) = reportedAt r uprn ds ++ reportedAt r uprn es := by
  rw [reportedAt, reportedCases_append, List.filter_append]
  rfl

/-- What is announced of new addresses with a property reference number. -/
def announcedAt (uprn : String) (ds : List Deed) : List NewCase :=
  (newAddresses ds).filter (·.address.uprn = uprn)

namespace Link

variable {r : Registry} {settings : LinkSettings} {k : Conditions} {s s' : MemoryStore}
  {e : Episode} {es : List Episode} {l : Located} {ds : List Deed} {hash : String}
  {request : LinkRequest} {o : Except Fault CodeView}

/-- Only a new case is reported, and what is reported is announced. -/
theorem Completes.reports (named : r.WellNamed) (placed : r.Placed s)
    (found : Locates r settings k s hash request (.ok l)) (h : Completes r k s l ds o) :
    newAddresses ds = (reportedCases r ds).map NewCase.ofCase ∧
      (reportedCases r ds = [] ∨ l.isNew = true ∧ reportedCases r ds = [l.subject] ∧
        l.subject ∈ keptCases r ds) := by
  rcases h.idle_or_joins named with rfl | ⟨joined, joins, kept, announced⟩
  · exact ⟨rfl, .inl rfl⟩
  have split : reportedCases r ds = l.reported.filter fun c => c.type ≠ .individual := by
    rw [reportedCases, kept, List.filter_append, joins.filter_ne_individual, List.append_nil]
  rw [announced, split, kept, Located.reported]
  rcases (found.stands_or_new placed).2 with ⟨old, _⟩ | ⟨new, _, type⟩
  · simp [old]
  · simp [new, type]

/-- An episode announces what it reports. -/
theorem Episode.Leads.newAddresses_eq (named : r.WellNamed) (placed : r.Placed s)
    (run : e.Leads r settings k s s') :
    newAddresses e.deeds = (reportedCases r e.deeds).map NewCase.ofCase := by
  rcases run.completes_or_idle named placed with ⟨l, _, found, ends⟩ | ⟨_, idle⟩
  · exact (ends.reports named placed found).1
  · rw [idle]
    rfl

/-- An episode reports nothing for an address, or the one case that stands there from then on, and
then nothing stood there before. -/
theorem Episode.Leads.reportedAt_eq (named : r.WellNamed) (placed : r.Placed s)
    (fresh : k.DrawsNew r) (run : e.Leads r settings k s s') (uprn : String) :
    reportedAt r uprn e.deeds = [] ∨ r.casesIn s uprn = [] ∧
      ∃ c, reportedAt r uprn e.deeds = [c] ∧ Stands (r.casesIn s' uprn) c := by
  rw [run.eq_after]
  rcases run.completes_or_idle named placed with ⟨l, _, found, ends⟩ | ⟨_, idle⟩
  · rcases (ends.reports named placed found).2 with none | ⟨new, one, kept⟩
    · exact .inl (by rw [reportedAt, none, List.filter_nil])
    by_cases here : l.subject.uprn = uprn
    · obtain ⟨there, rest⟩ := found.stands_or_new placed
      obtain rfl := here.symm.trans there
      rcases rest with ⟨old, _⟩ | ⟨_, vacant, _⟩
      · simp [new] at old
      refine .inr ⟨vacant, l.subject, by simp [reportedAt, one, here], ?_⟩
      exact ends.stands_of_kept named placed fresh found (.inr kept)
    · exact .inl (by simp [reportedAt, one, here])
  · exact .inl (by rw [idle]; rfl)

/-- No case of an address goes away. -/
theorem Episode.Leads.casesIn_ne_nil (named : r.WellNamed) (placed : r.Placed s)
    (fresh : k.DrawsNew r) (run : e.Leads r settings k s s') {uprn : String}
    (h : r.casesIn s uprn ≠ []) : r.casesIn s' uprn ≠ [] := by
  obtain ⟨c, hc⟩ := List.exists_mem_of_ne_nil _ h
  suffices c ∈ r.casesIn s' uprn from List.ne_nil_of_mem this
  rw [run.eq_after]
  rcases run.completes_or_idle named placed with ⟨l, _, found, ends⟩ | ⟨_, idle⟩
  · have novel := ends.novel named fresh (found.novel_reports fresh)
    have grown := r.casesIn_after_perm named ends.proper novel uprn
    exact grown.mem_iff.2 (List.mem_append_right _ hc)
  · rwa [idle]

theorem Session.newAddresses_eq (named : r.WellNamed) (placed : r.Placed s)
    (session : Session r settings k s es s') :
    newAddresses (deedsOf es) = (reportedCases r (deedsOf es)).map NewCase.ofCase := by
  induction session with
  | nil s => rfl
  | cons run _ ih =>
    rw [deedsOf_cons, newAddresses_append, reportedCases_append, List.map_append,
      ih (run.placed named placed), run.newAddresses_eq named placed]

/-- At an address with a case nothing is reported. -/
theorem Session.reportedAt_eq_nil (named : r.WellNamed) (placed : r.Placed s)
    (fresh : k.DrawsNew r) (session : Session r settings k s es s') {uprn : String}
    (h : r.casesIn s uprn ≠ []) : reportedAt r uprn (deedsOf es) = [] := by
  induction session with
  | nil s => rfl
  | cons run _ ih =>
    have later := ih (run.placed named placed) (run.casesIn_ne_nil named placed fresh h)
    rw [deedsOf_cons, reportedAt_append, later, List.append_nil]
    rcases run.reportedAt_eq named placed fresh uprn with none | ⟨vacant, _⟩
    · exact none
    · exact absurd vacant h

theorem Session.reportedAt_length_le (named : r.WellNamed) (placed : r.Placed s)
    (fresh : k.DrawsNew r) (session : Session r settings k s es s') (uprn : String) :
    (reportedAt r uprn (deedsOf es)).length ≤ 1 := by
  induction session with
  | nil s => exact Nat.zero_le 1
  | cons run more ih =>
    have placed' := run.placed named placed
    rw [deedsOf_cons, reportedAt_append]
    rcases run.reportedAt_eq named placed fresh uprn with none | ⟨_, c, one, stands⟩
    · rw [none]
      exact ih placed'
    · have later := more.reportedAt_eq_nil named placed' fresh (List.ne_nil_of_mem stands.mem)
      rw [one, later]
      exact Nat.le_refl 1

theorem announcedAt_eq (h : newAddresses ds = (reportedCases r ds).map NewCase.ofCase)
    (uprn : String) : announcedAt uprn ds = (reportedAt r uprn ds).map NewCase.ofCase := by
  rw [announcedAt, h, List.filter_map]
  rfl

/-- Once the case of a link is in the store, it is the case of every later link at its address, also
if the link itself has failed after that. Over a whole session an address is reported and announced
at most once, and not at all if a case stood there from the start. -/
theorem address_is_settled_once (named : r.WellNamed) (placed : r.Placed s) (fresh : k.DrawsNew r)
    (session : Session r settings k s es s') :
    (∀ before e after l, es = before ++ e :: after → e.Finds r settings l →
      (l.isNew = false ∨ l.subject ∈ keptCases r e.deeds) →
      ∀ e' ∈ after, e'.request.place = e.request.place → ∀ l', e'.Finds r settings l' →
        l'.subject = l.subject ∧ l'.isNew = false) ∧
    ∀ uprn, (reportedAt r uprn (deedsOf es)).length ≤ 1 ∧
      (announcedAt uprn (deedsOf es)).length ≤ 1 ∧
      (r.casesIn s uprn ≠ [] →
        reportedAt r uprn (deedsOf es) = [] ∧ announcedAt uprn (deedsOf es) = []) := by
  constructor
  · rintro before e after l rfl finds there e' he' same l' finds'
    obtain ⟨s₁, first, second⟩ := session_append_iff.1 session
    have placed₁ := first.placed named placed
    cases second with
    | cons run more =>
      obtain ⟨found, ends⟩ := finds.completes named placed₁ run
      have stands := ends.stands_of_kept named placed₁ fresh found there
      rw [← run.eq_after] at stands
      exact more.subject_eq named (run.placed named placed₁) fresh stands he' same finds'
  · intro uprn
    have one := session.reportedAt_length_le named placed fresh uprn
    rw [announcedAt_eq (session.newAddresses_eq named placed), List.length_map]
    refine ⟨one, one, fun h => ?_⟩
    rw [session.reportedAt_eq_nil named placed fresh h]
    exact ⟨rfl, rfl⟩

/-- In the example the second link comes to the case that the first has reported. -/
theorem address_is_settled_once_sample :
    ∃ e₁ e₂ s', Session Sample.registry .standard Sample.rough Sample.store [e₁, e₂] s' ∧
      Sample.registry.WellNamed ∧ Sample.registry.Placed Sample.store ∧
      Sample.rough.DrawsNew Sample.registry ∧
      (∃ f, e₁.outcome = .error f) ∧ e₁.Finds Sample.registry .standard Sample.first ∧
      (∀ l, e₂.Finds Sample.registry .standard l → l.subject = Sample.first.subject) ∧
      (reportedAt Sample.registry "200" (deedsOf [e₁, e₂])).length ≤ 1 := by
  obtain ⟨e₁, e₂, s', session, same, ⟨failed, did, finds⟩, _⟩ := Sample.exists_session
  obtain ⟨settled, once⟩ := address_is_settled_once Sample.wellNamed Sample.placed
    Sample.drawsNew session
  refine ⟨e₁, e₂, s', session, Sample.wellNamed, Sample.placed, Sample.drawsNew, failed, finds,
    fun l finds' => ?_, (once "200").1⟩
  have kept : Sample.first.subject ∈ keptCases Sample.registry e₁.deeds := by
    rw [did]
    decide +kernel
  have there : e₂.request.place = e₁.request.place := by
    rw [(same e₁ (by simp)).2, (same e₂ (by simp)).2]
  exact (settled [] e₁ [e₂] _ rfl finds (.inr kept) e₂ (by simp) there l finds').1

end Link
end CensusLink
