import CensusLink.Proofs.Linking.Settled

/-!
Attempts at one link. A link that is made again finds the case that an earlier attempt has reported,
but the individual case of an earlier attempt only if that attempt also got as far as to keep the
code. So an attempt that stops in between leaves an individual case behind, and the attempt that
goes through makes another one. The main statement says that this is the only way for attempts to
make more than one.
-/
namespace CensusLink

/-- The cases for persons of a household that deeds keep. -/
def individualCases (r : Registry) (ds : List Deed) : List CollectionCase :=
  (keptCases r ds).filter (·.type = .individual)

@[simp]
theorem individualCases_nil (r : Registry) : individualCases r [] = [] := rfl

theorem individualCases_append (r : Registry) (ds es : List Deed) :
    individualCases r (ds ++ es) = individualCases r ds ++ individualCases r es := by
  rw [individualCases, keptCases_append, List.filter_append]
  rfl

/-- No identifier is drawn that the code is linked to. -/
def Conditions.DrawsApart (r : Registry) (k : Conditions) (hash : String) : Prop :=
  ∀ s id, k.mayDraw s id → ∀ code, r.codeIn s hash = some code → code.caseId ≠ some id.text

namespace Link

/-- A link of the code that goes through makes an individual case. -/
structure Wanting (r : Registry) (s : MemoryStore) (uprn : String) (code : AccessCode)
    (c : CollectionCase) : Prop where
  found : r.codeIn s code.hash = some code
  stands : Stands (r.casesIn s uprn) c
  needed : needsIndividual code c = true
  unlinked : linkedIndividual? code (r.casesIn s uprn) = none

variable {r : Registry} {settings : LinkSettings} {k : Conditions} {s s' : MemoryStore}
  {ds : List Deed} {l : Located} {hash uprn : String} {request : LinkRequest}
  {o : Except Fault CodeView} {code : AccessCode} {c : CollectionCase} {e : Episode}
  {es : List Episode}

/-- A link makes at most one individual case, and only if the code is not linked to one there. -/
theorem Completes.individualCases_eq (named : r.WellNamed) (placed : r.Placed s)
    (found : Locates r settings k s hash request (.ok l)) (h : Completes r k s l ds o) :
    individualCases r ds = [] ∨ ∃ i id, individualCases r ds = [i] ∧ i.id = id.text ∧
      k.mayDraw (s.after (l.reports r)) id ∧ needsIndividual l.code l.subject = true ∧
      linkedIndividual? l.code l.cases = none := by
  rcases h.idle_or_joins named with rfl | ⟨joined, joins, kept, _⟩
  · exact .inl rfl
  have reported : l.reported.filter (·.type = .individual) = [] := by
    rw [Located.reported]
    rcases (found.stands_or_new placed).2 with ⟨old, _⟩ | ⟨new, _, type⟩
    · simp [old]
    · simp [new, type]
  rw [individualCases, kept, List.filter_append, reported, List.nil_append]
  cases joins with
  | nobody => exact .inl rfl
  | individual needed unlinked drawn named type _ =>
    refine .inr ⟨_, _, ?_, named, drawn, needed, unlinked⟩
    rw [List.filter_cons_of_pos (by simpa using type), List.filter_nil]

/-- A link that succeeds has made the individual case that was wanting. -/
theorem Completes.individualCases_ne_nil {v : CodeView} (h : Completes r k s l ds (.ok v))
    (needed : needsIndividual l.code l.subject = true)
    (unlinked : linkedIndividual? l.code l.cases = none) : individualCases r ds ≠ [] := by
  cases h with
  | linked _ company =>
    cases company with
    | alone needless => simp [needed] at needless
    | again _ linked => simp [unlinked] at linked
    | @anew id created _ _ _ =>
      refine List.ne_nil_of_mem (a := individualCase id created l.subject) ?_
      refine List.mem_filter.2 ⟨mem_keptCases_of_ofCase ?_, by simp [individualCase]⟩
      simp

/-- A link that fails once its case is there has not linked the code to an individual case. -/
theorem Completes.wanting (named : r.WellNamed) (placed : r.Placed s) (fresh : k.DrawsNew r)
    (apart : k.DrawsApart r hash) (found : Locates r settings k s hash request (.ok l))
    {f : Fault} (h : Completes r k s l ds (.error f))
    (there : l.isNew = false ∨ l.subject ∈ keptCases r ds)
    (needed : needsIndividual l.code l.subject = true)
    (unlinked : linkedIndividual? l.code l.cases = none) :
    Wanting r (s.after ds) request.place l.code l.subject := by
  have kept := found.codeIn_eq
  refine ⟨?_, h.stands_of_kept named placed fresh found there, needed, ?_⟩
  · rw [h.codeIn_of_error named, r.hash_of_codeIn placed kept, kept]
  rw [found.cases_eq] at unlinked
  refine linkedIndividual?_eq_none_iff.2 fun d hd type => ?_
  rcases List.mem_append.1 ((h.casesIn_here_perm named placed fresh found).mem_iff.1 hd) with
    new | old
  · have member : d ∈ individualCases r ds := List.mem_filter.2 ⟨new, by simpa using type⟩
    rcases h.individualCases_eq named placed found with none | ⟨i, id, one, eq, drawn, _⟩
    · simp [none] at member
    · rw [one] at member
      rw [List.mem_singleton.1 member, eq]
      exact apart _ _ drawn _ ((codeIn_reports named s l hash).trans kept)
  · exact linkedIndividual?_eq_none_iff.1 unlinked d old type

/-- An attempt makes at most one individual case. -/
theorem Episode.Leads.individualCases_length_le (named : r.WellNamed) (placed : r.Placed s)
    (run : e.Leads r settings k s s') : (individualCases r e.deeds).length ≤ 1 := by
  rcases run.completes_or_idle named placed with ⟨l, _, found, ends⟩ | ⟨_, idle⟩
  · rcases ends.individualCases_eq named placed found with none | ⟨i, _, one, _⟩
    · simp [none]
    · simp [one]
  · simp [idle]

/-- An attempt that makes an individual case and then fails leaves the next one wanting. -/
theorem Episode.Leads.wanting (named : r.WellNamed) (placed : r.Placed s) (fresh : k.DrawsNew r)
    (apart : k.DrawsApart r e.hash) (run : e.Leads r settings k s s') {f : Fault}
    (failed : e.outcome = .error f) (made : individualCases r e.deeds ≠ []) :
    ∃ code c, code.hash = e.hash ∧ Wanting r s' e.request.place code c := by
  rw [run.eq_after]
  rcases run.completes_or_idle named placed with ⟨l, _, found, ends⟩ | ⟨_, idle⟩
  · rcases ends.individualCases_eq named placed found with none | ⟨_, _, _, _, _, needed, unlinked⟩
    · exact absurd none made
    have busy : e.deeds ≠ [] := fun idle => made (by rw [idle, individualCases_nil])
    have there := ends.subject_kept named busy
    rw [failed] at ends
    exact ⟨l.code, l.subject, r.hash_of_codeIn placed found.codeIn_eq,
      ends.wanting named placed fresh apart found there needed unlinked⟩
  · exact absurd (by rw [idle, individualCases_nil]) made

/-- A link of a code that wants an individual case makes one, or fails and leaves it wanting. -/
theorem Wanting.again (named : r.WellNamed) (placed : r.Placed s) (fresh : k.DrawsNew r)
    (apart : k.DrawsApart r code.hash) (h : Wanting r s uprn code c)
    (run : e.Leads r settings k s s') (same : e.hash = code.hash) (here : e.request.place = uprn) :
    (∀ f, e.outcome = .error f → Wanting r s' uprn code c) ∧
      ∀ v, e.outcome = .ok v → individualCases r e.deeds ≠ [] := by
  subst here
  rw [run.eq_after]
  rcases run.completes_or_idle named placed with
    ⟨l, finds, found, ends⟩ | ⟨⟨f, failed⟩, idle⟩
  · obtain ⟨rfl, old⟩ := finds.subject_eq named placed run h.stands
    rw [same] at found
    obtain rfl := Option.some.inj (found.codeIn_eq.symm.trans h.found)
    have unlinked := h.unlinked
    rw [← found.cases_eq] at unlinked
    constructor
    · intro f failed
      rw [failed] at ends
      exact ends.wanting named placed fresh apart found (.inl old) h.needed unlinked
    · intro v succeeds
      rw [succeeds] at ends
      exact ends.individualCases_ne_nil h.needed unlinked
  · refine ⟨fun _ _ => by rwa [idle], fun v succeeds => ?_⟩
    rw [succeeds] at failed
    cases failed

theorem Wanting.session (named : r.WellNamed) (placed : r.Placed s) (fresh : k.DrawsNew r)
    (apart : k.DrawsApart r code.hash) (h : Wanting r s uprn code c)
    (session : Session r settings k s es s')
    (same : ∀ e ∈ es, e.hash = code.hash ∧ e.request.place = uprn)
    (fails : ∀ e ∈ es, ∃ f, e.outcome = .error f) : Wanting r s' uprn code c := by
  induction session with
  | nil s => exact h
  | cons run _ ih =>
    obtain ⟨here, later⟩ := List.forall_mem_cons.1 same
    obtain ⟨⟨f, failed⟩, rest⟩ := List.forall_mem_cons.1 fails
    have wanting := (h.again named placed fresh apart run here.1 here.2).1 f failed
    exact ih (run.placed named placed) wanting later rest

theorem individualCases_deedsOf_append (r : Registry) (es fs : List Episode) :
    individualCases r (deedsOf (es ++ fs)) =
      individualCases r (deedsOf es) ++ individualCases r (deedsOf fs) := by
  rw [deedsOf, List.flatMap_append, individualCases_append]
  rfl

theorem individualCases_deedsOf_cons (r : Registry) (e : Episode) (es : List Episode) :
    individualCases r (deedsOf (e :: es)) =
      individualCases r e.deeds ++ individualCases r (deedsOf es) := by
  rw [deedsOf_cons, individualCases_append]

theorem individualCases_deedsOf_eq_nil_iff :
    individualCases r (deedsOf es) = [] ↔ ∀ e ∈ es, individualCases r e.deeds = [] := by
  induction es with
  | nil => simp
  | cons e rest ih =>
    rw [individualCases_deedsOf_cons, List.append_eq_nil_iff, ih, List.forall_mem_cons]

/-- No individual case is made for a code that is settled. -/
theorem Settled.individualCases_eq_nil (named : r.WellNamed) (placed : r.Placed s)
    {individual : Option CollectionCase} (h : Settled r s uprn code c individual)
    (session : Session r settings k s es s')
    (same : ∀ e ∈ es, e.hash = code.hash ∧ e.request.place = uprn) :
    individualCases r (deedsOf es) = [] := by
  refine individualCases_deedsOf_eq_nil_iff.2 fun e he => ?_
  have run := (h.session named placed session same).2 e he
  rcases (h.again named placed run (same e he).1 (same e he).2).2 with ⟨idle, _⟩ | ⟨confirms, _⟩
  · rw [idle, individualCases_nil]
  · rw [confirms, individualCases, keptCases_confirmation named, List.filter_nil]

/-- Once an attempt has succeeded no other makes an individual case. -/
theorem Episode.Leads.individualCases_after (named : r.WellNamed) (placed : r.Placed s)
    (fresh : k.DrawsNew r) {s₁ : MemoryStore} (run : e.Leads r settings k s s₁) {v : CodeView}
    (succeeds : e.outcome = .ok v) (more : Session r settings k s₁ es s')
    (same : ∀ f ∈ es, f.hash = e.hash ∧ f.request.place = e.request.place) :
    individualCases r (deedsOf es) = [] := by
  obtain ⟨code, c, individual, hash_eq, settled, _⟩ := run.settled named placed fresh succeeds
  rw [← hash_eq] at same
  exact settled.individualCases_eq_nil named (run.placed named placed) more same

theorem Session.individualCases_length_le_iff (named : r.WellNamed) (placed : r.Placed s)
    (fresh : k.DrawsNew r) (session : Session r settings k s es s')
    (same : ∀ e ∈ es, e.hash = hash ∧ e.request.place = uprn) :
    (individualCases r (deedsOf es)).length ≤ 1 ↔
      ∀ before e after, es = before ++ e :: after → individualCases r e.deeds ≠ [] →
        (∃ f, e.outcome = .error f) → individualCases r (deedsOf after) = [] := by
  constructor
  · rintro few before e after rfl made _
    have pos := List.length_pos_of_ne_nil made
    rw [individualCases_deedsOf_append, individualCases_deedsOf_cons, List.length_append,
      List.length_append] at few
    exact List.length_eq_zero_iff.1 (by omega)
  · intro stops
    induction session with
    | nil s => exact Nat.zero_le 1
    | @cons s s₁ s₂ e rest run more ih =>
      obtain ⟨here, later⟩ := List.forall_mem_cons.1 same
      have one := run.individualCases_length_le named placed
      rw [individualCases_deedsOf_cons, List.length_append]
      by_cases made : individualCases r e.deeds = []
      · rw [made, List.length_nil, Nat.zero_add]
        refine ih (run.placed named placed) later fun before e' after split => ?_
        exact stops (e :: before) e' after (by rw [split, List.cons_append])
      have none : individualCases r (deedsOf rest) = [] := by
        cases outcome : e.outcome with
        | error f => exact stops [] e rest rfl made ⟨f, outcome⟩
        | ok v =>
          refine run.individualCases_after named placed fresh outcome more fun f hf => ?_
          rw [here.1, here.2]
          exact later f hf
      rw [none, List.length_nil, Nat.add_zero]
      exact one

/-- After an attempt that makes an individual case and fails, one is wanting until one succeeds. -/
theorem Session.wanting (named : r.WellNamed) (placed : r.Placed s) (fresh : k.DrawsNew r)
    (apart : k.DrawsApart r hash) (session : Session r settings k s es s')
    (same : ∀ e ∈ es, e.hash = hash ∧ e.request.place = uprn)
    (fails : ∀ e ∈ es, ∃ f, e.outcome = .error f) (he : e ∈ es)
    (made : individualCases r e.deeds ≠ []) :
    ∃ code c, code.hash = hash ∧ Wanting r s' uprn code c := by
  induction session with
  | nil s => cases he
  | cons run more ih =>
    obtain ⟨here, later⟩ := List.forall_mem_cons.1 same
    obtain ⟨⟨f, failed⟩, rest⟩ := List.forall_mem_cons.1 fails
    rcases List.mem_cons.1 he with rfl | he
    · obtain ⟨code, c, hash_eq, wanting⟩ :=
        run.wanting named placed fresh (here.1 ▸ apart) failed made
      obtain rfl : code.hash = hash := hash_eq.trans here.1
      rw [here.2] at wanting
      exact ⟨code, c, rfl,
        wanting.session named (run.placed named placed) fresh apart more later rest⟩
    · exact ih (run.placed named placed) later rest he

/-- An attempt that succeeds makes a second individual case if one was made before it. -/
theorem Session.individualCases_of_failed (named : r.WellNamed) (placed : r.Placed s)
    (fresh : k.DrawsNew r) (apart : k.DrawsApart r hash) {failed more : List Episode}
    {last : Episode} (session : Session r settings k s (failed ++ last :: more) s')
    (same : ∀ e ∈ failed ++ last :: more, e.hash = hash ∧ e.request.place = uprn)
    (fails : ∀ e ∈ failed, ∃ f, e.outcome = .error f) {v : CodeView}
    (succeeds : last.outcome = .ok v) :
    (individualCases r (deedsOf (failed ++ last :: more))).length ≤ 1 ↔
      ∀ e ∈ failed, individualCases r e.deeds = [] := by
  obtain ⟨s₁, earlier, rest⟩ := session_append_iff.1 session
  have placed₁ := earlier.placed named placed
  obtain ⟨sameFailed, sameRest⟩ := List.forall_mem_append.1 same
  obtain ⟨sameLast, sameMore⟩ := List.forall_mem_cons.1 sameRest
  rw [individualCases_deedsOf_append, individualCases_deedsOf_cons, List.length_append,
    List.length_append]
  cases rest with
  | cons run later =>
    constructor
    · intro few e he
      by_contra made
      obtain ⟨code, c, rfl, wanting⟩ :=
        earlier.wanting named placed fresh apart sameFailed fails he made
      have again := (wanting.again named placed₁ fresh apart run sameLast.1 sameLast.2).2 v succeeds
      have one : individualCases r (deedsOf failed) ≠ [] :=
        fun none => made (individualCases_deedsOf_eq_nil_iff.1 none e he)
      have pos := List.length_pos_of_ne_nil one
      have pos' := List.length_pos_of_ne_nil again
      omega
    · intro none
      have done := run.individualCases_after named placed₁ fresh succeeds later
        fun f hf => by rw [sameLast.1, sameLast.2]; exact sameMore f hf
      have one := run.individualCases_length_le named placed₁
      rw [individualCases_deedsOf_eq_nil_iff.2 none, done]
      simpa using one

/-- What attempts make is at their address, next to what stood there. -/
theorem Session.individuals_at (named : r.WellNamed) (placed : r.Placed s) (fresh : k.DrawsNew r)
    (session : Session r settings k s es s') (same : ∀ e ∈ es, e.request.place = uprn) :
    ((r.casesIn s' uprn).filter (·.type = .individual)).length =
      ((r.casesIn s uprn).filter (·.type = .individual)).length +
        (individualCases r (deedsOf es)).length := by
  induction session with
  | nil s => rfl
  | @cons s s₁ s₂ e rest run more ih =>
    obtain ⟨here, later⟩ := List.forall_mem_cons.1 same
    have grown : ((r.casesIn s₁ uprn).filter (·.type = .individual)).length =
        ((r.casesIn s uprn).filter (·.type = .individual)).length +
          (individualCases r e.deeds).length := by
      rw [run.eq_after, ← here]
      rcases run.completes_or_idle named placed with ⟨l, _, found, ends⟩ | ⟨_, idle⟩
      · have perm := ends.casesIn_here_perm named placed fresh found
        rw [(perm.filter _).length_eq, List.filter_append, List.length_append, Nat.add_comm]
        rfl
      · rw [idle]
        rfl
    rw [ih (run.placed named placed) later, grown, individualCases_deedsOf_cons,
      List.length_append, Nat.add_assoc]

/-- Attempts at one link make more than one individual case exactly if one of them fails after it
has made its own and another is made by a later one. If an attempt succeeds, that is so exactly if
an attempt before it has failed after making one. What they make is all that is added to the
individual cases at the address. -/
theorem individual_cases_of_attempts (named : r.WellNamed) (placed : r.Placed s)
    (fresh : k.DrawsNew r) (apart : k.DrawsApart r hash) (session : Session r settings k s es s')
    (same : ∀ e ∈ es, e.hash = hash ∧ e.request.place = uprn) :
    ((individualCases r (deedsOf es)).length ≤ 1 ↔
      ∀ before e after, es = before ++ e :: after → individualCases r e.deeds ≠ [] →
        (∃ f, e.outcome = .error f) → individualCases r (deedsOf after) = []) ∧
    (∀ failed last more, es = failed ++ last :: more →
      (∀ e ∈ failed, ∃ f, e.outcome = .error f) → (∃ v, last.outcome = .ok v) →
        ((individualCases r (deedsOf es)).length ≤ 1 ↔
          ∀ e ∈ failed, individualCases r e.deeds = [])) ∧
    ((r.casesIn s' uprn).filter (·.type = .individual)).length =
      ((r.casesIn s uprn).filter (·.type = .individual)).length +
        (individualCases r (deedsOf es)).length := by
  refine ⟨session.individualCases_length_le_iff named placed fresh same, ?_,
    session.individuals_at named placed fresh fun e he => (same e he).2⟩
  rintro failed last more rfl fails ⟨v, succeeds⟩
  exact session.individualCases_of_failed named placed fresh apart same fails succeeds

/-- In the example an attempt has failed after making an individual case, so there are two. -/
theorem individual_cases_of_attempts_sample :
    ∃ e₁ e₂ s', Session Sample.registry .standard Sample.rough Sample.store [e₁, e₂] s' ∧
      Sample.registry.WellNamed ∧ Sample.registry.Placed Sample.store ∧
      Sample.rough.DrawsNew Sample.registry ∧ Sample.rough.DrawsApart Sample.registry "code" ∧
      (∀ e ∈ [e₁, e₂], e.hash = "code" ∧ e.request.place = Sample.request.place) ∧
      ¬ (individualCases Sample.registry (deedsOf [e₁, e₂])).length ≤ 1 := by
  obtain ⟨e₁, e₂, s', session, same, ⟨failed, did, _⟩, succeeds, _⟩ := Sample.exists_session
  have attempts : ∀ e ∈ [e₁, e₂], e.hash = "code" ∧ e.request.place = Sample.request.place :=
    fun e he => (same e he).imp_right fun eq => by rw [eq]
  have apart : Sample.rough.DrawsApart Sample.registry "code" := fun _ _ drawn => drawn.2
  obtain ⟨_, first, _⟩ := individual_cases_of_attempts Sample.wellNamed Sample.placed
    Sample.drawsNew apart session attempts
  refine ⟨e₁, e₂, s', session, Sample.wellNamed, Sample.placed, Sample.drawsNew, apart, attempts,
    fun few => ?_⟩
  have none := (first [e₁] e₂ [] rfl (by simpa using failed) succeeds).1 few e₁ (by simp)
  rw [did] at none
  have made : individualCases Sample.registry Sample.stopped ≠ [] := by decide +kernel
  exact made none

/-- Attempts of which one fails to keep the code may make two individual cases. -/
theorem attempts_may_make_two :
    ¬ ∀ es s', Session Sample.registry .standard Sample.rough Sample.store es s' →
      (∀ e ∈ es, e.hash = "code" ∧ e.request = Sample.request) →
        (individualCases Sample.registry (deedsOf es)).length ≤ 1 := by
  intro claim
  obtain ⟨e₁, e₂, s', session, same, ⟨_, did₁, _⟩, _, did₂, _⟩ := Sample.exists_session
  have few := claim [e₁, e₂] s' session same
  rw [deedsOf_cons, deedsOf_cons, did₁, did₂] at few
  revert few
  decide +kernel

end Link
end CensusLink
