import CensusLink.Proofs.Linking.Session
import CensusLink.Proofs.Linking.Meaning

/-!
Sound stores: each linked code refers to a case that is kept and that it may be paired with, or to
an individual case next to a household that it may be paired with, and no two codes share an
individual case. Keeping a new case keeps a store sound, and so does keeping a code that refers to
its own case. So links keep a store sound at each of their steps, also where a call fails.
-/
namespace CensusLink

/-- A code may be linked to a case: by itself, or as a person next to a household. -/
inductive Refers (r : Registry) (s : MemoryStore) (code : AccessCode) (c : CollectionCase) : Prop
  | direct (allowed : ⟨code.form, code.caseType, c.type⟩ ∈ Pairing.allowed)
      (apart : ¬ (code.form = .individual ∧ c.type = .household)) : Refers r s code c
  | person {id : String} {h : CollectionCase} (form : code.form = .individual)
      (allowed : ⟨.individual, code.caseType, .household⟩ ∈ Pairing.allowed)
      (type : c.type = .individual) (kept : r.caseIn s id = some h)
      (household : h.type = .household) (near : h.uprn = c.uprn) : Refers r s code c

structure Sound (r : Registry) (s : MemoryStore) : Prop where
  placed : r.Placed s
  refers : ∀ hash code id, r.codeIn s hash = some code → code.caseId = some id →
    ∃ c, r.caseIn s id = some c ∧ Refers r s code c
  apart : ∀ hash hash' code code' id c, r.codeIn s hash = some code →
    r.codeIn s hash' = some code' → code.caseId = some id → code'.caseId = some id →
    r.caseIn s id = some c → c.type = .individual → hash = hash'

/-- The store is sound before deeds and after each of them. -/
def SoundAlong (r : Registry) : MemoryStore → List Deed → Prop
  | s, [] => Sound r s
  | s, d :: ds => Sound r s ∧ SoundAlong r (s.undergo d) ds

variable {r : Registry} {settings : LinkSettings} {k : Conditions} {s s' : MemoryStore}
  {ds es : List Deed} {code : AccessCode} {c : CollectionCase}

theorem SoundAlong.first (h : SoundAlong r s ds) : Sound r s := by
  cases ds with
  | nil => exact h
  | cons d rest => exact h.1

theorem SoundAlong.last (h : SoundAlong r s ds) : Sound r (s.after ds) := by
  induction ds generalizing s with
  | nil => exact h
  | cons d rest ih => exact ih h.2

theorem soundAlong_append_iff :
    SoundAlong r s (ds ++ es) ↔ SoundAlong r s ds ∧ SoundAlong r (s.after ds) es := by
  induction ds generalizing s with
  | nil => exact ⟨fun h => ⟨h.first, h⟩, And.right⟩
  | cons d rest ih => exact (and_congr_right fun _ => ih).trans and_assoc.symm

/-- A store in place is sound as long as no code is linked. -/
theorem sound_of_unlinked (placed : r.Placed s)
    (unlinked : ∀ hash code, r.codeIn s hash = some code → code.caseId = none) : Sound r s := by
  refine ⟨placed, fun hash code id found linked => ?_, fun hash _ code _ id _ found _ linked => ?_⟩
  all_goals
    rw [unlinked hash code found] at linked
    cases linked

/-- More cases give a code no less to refer to. -/
theorem Refers.mono (more : ∀ id c, r.caseIn s id = some c → r.caseIn s' id = some c)
    (h : Refers r s code c) : Refers r s' code c := by
  cases h with
  | direct allowed apart => exact .direct allowed apart
  | person form allowed type kept household near =>
    exact .person form allowed type (more _ _ kept) household near

/-- A new case takes no other's place. -/
theorem caseIn_ofCase_of_fresh (fresh : c.id ∉ (s.documents r.schemas.case).map (·.1))
    {id : String} {d : CollectionCase} (kept : r.caseIn s id = some d) :
    r.caseIn (s.undergo (.ofCase r c)) id = some d := by
  have other : id ≠ c.id := by
    rintro rfl
    exact fresh (Registry.mem_keys_of_caseIn kept)
  rw [Registry.caseIn_ofCase, if_neg other]
  exact kept

/-- Keeping a new case keeps a store sound. -/
theorem Sound.ofCase (named : r.WellNamed) (sound : Sound r s)
    (fresh : c.id ∉ (s.documents r.schemas.case).map (·.1)) :
    Sound r (s.undergo (.ofCase r c)) := by
  have more (id : String) (d : CollectionCase) (kept : r.caseIn s id = some d) :=
    caseIn_ofCase_of_fresh fresh kept
  refine ⟨sound.placed.undergo named (.case c), ?_, ?_⟩
  · intro hash code id found linked
    rw [Registry.codeIn_ofCase named] at found
    obtain ⟨d, kept, refers⟩ := sound.refers hash code id found linked
    exact ⟨d, more id d kept, refers.mono more⟩
  · intro hash hash' code code' id d found found' linked linked' kept individual
    rw [Registry.codeIn_ofCase named] at found found'
    obtain ⟨d', kept', _⟩ := sound.refers hash code id found linked
    have same : d' = d := Option.some.inj ((more id d' kept').symm.trans kept)
    rw [same] at kept'
    exact sound.apart hash hash' code code' id d found found' linked linked' kept' individual

/-- Keeping a code that refers to a case keeps a store sound, if the case is not the individual case
of another code. -/
theorem Sound.ofCode (named : r.WellNamed) (sound : Sound r s) {id : String}
    (linked : code.caseId = some id) (kept : r.caseIn s id = some c) (refers : Refers r s code c)
    (own : c.type = .individual → ∀ hash other, r.codeIn s hash = some other →
      other.caseId = some id → hash = code.hash) :
    Sound r (s.undergo (.ofCode r code)) := by
  have more (id : String) (d : CollectionCase) (kept : r.caseIn s id = some d) :
      r.caseIn (s.undergo (.ofCode r code)) id = some d := by
    rw [Registry.caseIn_ofCode named, kept]
  refine ⟨sound.placed.undergo named (.code code), ?_, ?_⟩
  · intro hash code' id' found linked'
    rw [Registry.codeIn_ofCode] at found
    split at found
    · obtain rfl := Option.some.inj found
      obtain rfl := Option.some.inj (linked.symm.trans linked')
      exact ⟨c, more id c kept, refers.mono more⟩
    · obtain ⟨d, kept', refers'⟩ := sound.refers hash code' id' found linked'
      exact ⟨d, more id' d kept', refers'.mono more⟩
  · intro hash hash' code₁ code₂ id' d found found' linked₁ linked₂ kept' individual
    rw [Registry.caseIn_ofCode named] at kept'
    rw [Registry.codeIn_ofCode] at found found'
    -- the code itself is the only one whose case may have changed
    have apart {hash : String} {other : AccessCode} (found : r.codeIn s hash = some other)
        (linked' : code.caseId = some id') (theirs : other.caseId = some id') :
        hash = code.hash := by
      obtain rfl := Option.some.inj (linked.symm.trans linked')
      obtain rfl := Option.some.inj (kept.symm.trans kept')
      exact own individual hash other found theirs
    split at found
    next here =>
      obtain rfl := Option.some.inj found
      split at found'
      next here' => rw [here, here']
      next => rw [here, apart found' linked₁ linked₂]
    next =>
      split at found'
      next here' =>
        obtain rfl := Option.some.inj found'
        rw [here', apart found linked₂ linked₁]
      next =>
        exact sound.apart hash hash' code₁ code₂ id' d found found' linked₁ linked₂ kept' individual

namespace Link

variable {l : Located} {individual : Option CollectionCase} {hash : String} {request : LinkRequest}
  {o : Except Fault CodeView}

/-- The case of a link is kept under its id, once it has been reported if it is new. -/
theorem Locates.caseIn_subject (placed : r.Placed s)
    (h : Locates r settings k s hash request (.ok l)) :
    r.caseIn (s.after (l.reports r)) l.subject.id = some l.subject := by
  rcases (h.stands_or_new placed).2 with ⟨old, stands⟩ | ⟨new, _, _⟩
  · rw [Located.reports, old]
    exact r.caseIn_of_mem_casesIn placed stands.mem
  · rw [Located.reports, new]
    exact (r.caseIn_ofCase s l.subject _).trans (if_pos rfl)

theorem Locates.soundAlong_reports (named : r.WellNamed) (fresh : k.DrawsNew r)
    (sound : Sound r s) (h : Locates r settings k s hash request (.ok l)) :
    SoundAlong r s (l.reports r) := by
  have novel := h.novel_reports fresh
  rw [Located.reports] at novel ⊢
  split
  next new =>
    rw [if_pos new] at novel
    have kept := sound.ofCase named (novel.1 l.subject (Deed.case?_ofCase r l.subject))
    exact ⟨sound, kept, kept⟩
  next => exact sound

theorem Accompanies.soundAlong (named : r.WellNamed) (fresh : k.DrawsNew r) (sound : Sound r s)
    (h : Accompanies r k s l individual ds) : SoundAlong r s ds := by
  have novel := h.novel fresh
  cases h with
  | alone _ => exact sound
  | again _ _ => exact sound
  | anew _ _ _ => exact ⟨sound, sound.ofCase named (novel.1 _ (Deed.case?_ofCase r _))⟩

/-- The case that a link comes to is kept, the code may refer to it, and no other code does if it is
an individual case. -/
theorem Accompanies.refers (named : r.WellNamed) (fresh : k.DrawsNew r) (sound : Sound r s)
    (found : Locates r settings k s hash request (.ok l))
    (check : Pairing.check l.code l.subject = .ok ())
    (h : Accompanies r k (s.after (l.reports r)) l individual ds) :
    r.caseIn ((s.after (l.reports r)).after ds) (individual.getD l.subject).id =
        some (individual.getD l.subject) ∧
      Refers r ((s.after (l.reports r)).after ds) (l.linkedCode individual)
        (individual.getD l.subject) ∧
      ((individual.getD l.subject).type = .individual → ∀ hash' other,
        r.codeIn ((s.after (l.reports r)).after ds) hash' = some other →
          other.caseId = some (individual.getD l.subject).id → hash' = l.code.hash) := by
  have subject := found.caseIn_subject sound.placed
  have allowed := Pairing.check_eq_ok_iff.1 check
  have novel := h.novel fresh
  cases h with
  | alone needless =>
    refine ⟨subject, .direct allowed fun both => ?_, fun individual => ?_⟩
    · have needed : needsIndividual l.code l.subject = true := needsIndividual_iff.2 both
      rw [needed] at needless
      cases needless
    · exact absurd individual (Pairing.ne_individual_of_allowed _ allowed)
  | @again c needed linked =>
    obtain ⟨form, household⟩ := needsIndividual_iff.1 needed
    obtain ⟨member, type, own⟩ := of_linkedIndividual? linked
    rw [found.cases_eq] at member
    rw [form, household] at allowed
    -- an individual case is at the address already, so nothing was reported there
    obtain ⟨there, ⟨old, _⟩ | ⟨_, vacant, _⟩⟩ := found.stands_or_new sound.placed
    · have none : l.reports r = [] := by rw [Located.reports, old]; rfl
      rw [none] at subject ⊢
      have kept := r.caseIn_of_mem_casesIn sound.placed member
      have near := (r.exists_of_mem_casesIn sound.placed member).1
      refine ⟨kept, .person form allowed type subject household (there.trans near.symm), ?_⟩
      intro individual hash' other theirs refers
      have same := sound.apart _ _ _ _ _ _ theirs found.codeIn_eq refers own kept individual
      rw [same, r.hash_of_codeIn sound.placed found.codeIn_eq]
    · rw [vacant] at member
      cases member
  | @anew id created needed _ drawn =>
    obtain ⟨form, household⟩ := needsIndividual_iff.1 needed
    have new := novel.1 _ (Deed.case?_ofCase r _)
    have type : (individualCase id created l.subject).type = .individual := by
      simp [individualCase]
    have near : (individualCase id created l.subject).uprn = l.subject.uprn := by
      simp [individualCase, CollectionCase.uprn]
    rw [form, household] at allowed
    rw [Option.getD_some]
    refine ⟨(r.caseIn_ofCase _ _ _).trans (if_pos rfl), ?_, fun _ hash' other theirs refers => ?_⟩
    · exact .person form allowed type (caseIn_ofCase_of_fresh new subject) household near.symm
    · have reports := (found.soundAlong_reports named fresh sound).last
      have before : r.codeIn (s.after (l.reports r)) hash' = some other :=
        (r.codeIn_ofCase named _ _ hash').symm.trans theirs
      obtain ⟨c, kept, _⟩ := reports.refers hash' other _ before refers
      exact absurd (r.mem_keys_of_caseIn kept) new

/-- Whatever a link does, the store is sound at each step of it. -/
theorem Completes.soundAlong (named : r.WellNamed) (fresh : k.DrawsNew r) (sound : Sound r s)
    (found : Locates r settings k s hash request (.ok l)) (h : Completes r k s l ds o) :
    SoundAlong r s ds := by
  have reports := found.soundAlong_reports named fresh sound
  cases h with
  | refused _ => exact sound
  | unreported _ _ _ => exact sound
  | unaccompanied _ _ _ _ _ => exact reports
  | unlinked _ company _ =>
    exact soundAlong_append_iff.2 ⟨reports, company.soundAlong named fresh reports.last⟩
  | linked check company =>
    have joined := soundAlong_append_iff.2 ⟨reports, company.soundAlong named fresh reports.last⟩
    obtain ⟨kept, refers, own⟩ := company.refers named fresh sound found check
    rw [← MemoryStore.after_append] at kept refers own
    have linked := joined.last.ofCode named rfl kept refers own
    exact soundAlong_append_iff.2 ⟨joined, joined.last, linked, linked⟩

theorem Episode.Leads.soundAlong (named : r.WellNamed) (fresh : k.DrawsNew r) (sound : Sound r s)
    {e : Episode} (run : e.Leads r settings k s s') : SoundAlong r s e.deeds := by
  rcases run.completes_or_idle named sound.placed with ⟨l, _, found, ends⟩ | ⟨_, idle⟩
  · exact ends.soundAlong named fresh sound found
  · rw [idle]
    exact sound

/-- Along a session the store is sound at each step. -/
theorem Session.soundAlong (named : r.WellNamed) (fresh : k.DrawsNew r) (sound : Sound r s)
    {es : List Episode} (session : Session r settings k s es s') : SoundAlong r s (deedsOf es) := by
  induction session with
  | nil s => exact sound
  | cons run _ ih =>
    have first := run.soundAlong named fresh sound
    have before := first.last
    rw [← run.eq_after] at before
    rw [deedsOf_cons, soundAlong_append_iff, ← run.eq_after]
    exact ⟨first, ih before⟩

/-- All that passes in a session. -/
def traceOf (es : List Episode) : Trace := es.flatMap Episode.trace

theorem deeds_traceOf (es : List Episode) : (traceOf es).deeds = deedsOf es :=
  List.flatMap_assoc

theorem Session.carries {es : List Episode} (session : Session r settings k s es s') :
    Carries k.Allows s (traceOf es) s' := by
  induction session with
  | nil s => exact .nil s
  | cons run _ ih => exact carries_append_iff.2 ⟨_, run.2, ih⟩

/-- On a sound store, links of any codes with any requests leave the store sound wherever one stops
along what passes in them, whichever calls fail. -/
theorem links_keep_store_sound (named : r.WellNamed) (fresh : k.DrawsNew r) (sound : Sound r s)
    {es : List Episode} (session : Session r settings k s es s') {t u : Trace}
    (split : traceOf es = t ++ u) :
    ∃ s₁, Carries k.Allows s t s₁ ∧ Carries k.Allows s₁ u s' ∧ Sound r s₁ := by
  have carried := session.carries
  rw [split] at carried
  obtain ⟨s₁, before, after⟩ := carries_append_iff.1 carried
  have along := session.soundAlong named fresh sound
  rw [← deeds_traceOf, split, Trace.deeds_append, soundAlong_append_iff] at along
  exact ⟨s₁, before, after, before.eq_after ▸ along.1.last⟩

end Link

namespace Sample

open Link

theorem sound : Sound registry store := by
  refine sound_of_unlinked placed fun hash found kept => ?_
  have only : registry.codeIn store hash =
      if hash = "code" then some code else registry.codeIn .empty hash := by
    refine (registry.codeIn_ofCase wellNamed _ _ _).trans ?_
    exact (registry.codeIn_ofCase wellNamed _ _ _).trans (registry.codeIn_ofCode _ code hash)
  rw [only] at kept
  split at kept
  · obtain rfl := Option.some.inj kept
    rfl
  · cases kept

end Sample

namespace Link

/-- In the example the store is sound at each step of both links. -/
theorem links_keep_store_sound_sample :
    ∃ e₁ e₂ s', Session Sample.registry .standard Sample.rough Sample.store [e₁, e₂] s' ∧
      Sample.registry.WellNamed ∧ Sample.rough.DrawsNew Sample.registry ∧
      Sound Sample.registry Sample.store ∧
      ∀ t u, traceOf [e₁, e₂] = t ++ u → ∃ s₁, Carries Sample.rough.Allows Sample.store t s₁ ∧
        Carries Sample.rough.Allows s₁ u s' ∧ Sound Sample.registry s₁ := by
  obtain ⟨e₁, e₂, s', session, _⟩ := Sample.exists_session
  exact ⟨e₁, e₂, s', session, Sample.wellNamed, Sample.drawsNew, Sample.sound, fun t u split =>
    links_keep_store_sound Sample.wellNamed Sample.drawsNew Sample.sound session split⟩

end Link
end CensusLink
