import CensusLink.Proofs.Interleaving
import CensusLink.Proofs.Linking.Failure
import CensusLink.Proofs.Linking.Stability

/-!
Two links at the same time at an address where no case stands. What a link does depends on what its
search found, and nothing keeps another link from storing a case after that. If one of the links
searches after the other has stored its case, then both come to that case. If both search before
either has stored one, then both report a case, and each comes to its own.
-/
namespace CensusLink

/-- The case of the address that a link is announced with. -/
def Notice.linkedCase? : Notice → Option String
  | ⟨.questionnaireLinked, _, _, .linked n⟩ => some n.details.caseId
  | _ => none

def linkedCases (t : Trace) : List String := t.notices.filterMap Notice.linkedCase?

/-- Any call may fail, and any identifier be drawn. -/
def Conditions.free : Conditions := ⟨fun _ => True, fun _ _ => True⟩

namespace Link

/-- The traces in which a link succeeds with what it has found out. -/
inductive Succeeds (r : Registry) (settings : LinkSettings) (hash : String)
    (request : LinkRequest) (l : Located) : Trace → Prop
  | intro {t u : Trace} {individual : Option CollectionCase} {joining : List Stage}
      (asks : Inquires r settings hash request t (.ok l))
      (check : Pairing.check l.code l.subject = .ok ())
      (attends : Attends r l individual joining)
      (pursues : Pursues r.policy (l.reportStages r ++ joining ++ [l.linkStage r individual]) u
        (.ok ())) :
    Succeeds r settings hash request l (t ++ u)

variable {r : Registry} {settings : LinkSettings} {k : Conditions} {s s' : MemoryStore}
  {t : Trace} {l : Located}

section One

variable {hash : String} {request : LinkRequest}

theorem Follows.succeeds {v : CodeView} (h : Follows r settings hash request t (.ok v)) :
    ∃ l, Succeeds r settings hash request l t := by
  generalize outcome : (Except.ok v : Except Fault CodeView) = o at h
  cases h with
  | unlocated _ => cases outcome
  | unpaired _ _ => cases outcome
  | pursued asks check attends pursues =>
    obtain ⟨rfl, _⟩ := ok_eq_map_iff.1 outcome
    exact ⟨_, .intro asks check attends pursues⟩

/-- A link that succeeds completes, on whatever store. -/
theorem Succeeds.completes (h : Succeeds r settings hash request l t) (s : MemoryStore) :
    ∃ v, Completes r .free s l t.deeds (.ok v) := by
  cases h with
  | intro asks check attends pursues =>
    rw [Trace.deeds_append, asks.deeds_eq_nil, List.nil_append]
    exact ⟨_, attends.completes_ok (fun _ _ => trivial) check pursues⟩

/-- It keeps its case if that is new, and perhaps an individual case, and announces the first. -/
theorem Succeeds.joins (named : r.WellNamed) (h : Succeeds r settings hash request l t) :
    ∃ s joined, Joins .free s l joined ∧ keptCases r t.deeds = l.reported ++ joined ∧
      newAddresses t.deeds = l.reported.map NewCase.ofCase := by
  obtain ⟨v, ends⟩ := h.completes .empty
  rcases ends.idle_or_joins named with idle | ⟨joined, joins⟩
  · exact absurd idle ends.ne_nil_of_ok
  · exact ⟨_, joined, joins⟩

theorem Succeeds.linkedCases_eq (h : Succeeds r settings hash request l t) :
    linkedCases t = [l.subject.id] := by
  cases h with
  | intro asks check attends pursues =>
    have none : (l.reported.map reportNotice).filterMap Notice.linkedCase? = [] := by
      simp [reportNotice, Notice.linkedCase?]
    rcases attends.notices_of_pursues pursues with ⟨_, all⟩ | ⟨⟨_, failed⟩, _⟩
    · rw [linkedCases, Trace.notices_append, asks.calls.1, all, List.nil_append,
        List.filterMap_append, none]
      rfl
    · cases failed

/-- It searches once, and goes by what it found. -/
theorem Succeeds.asks (h : Succeeds r settings hash request l t) :
    ∃ d found rest, t = asksCode r hash (.ok (some d)) :: asksCases r request (.ok found) :: rest ∧
      readCases r request found = .ok l.cases ∧ ∀ o, asksCases r request o ∉ rest := by
  cases h with
  | @intro _ u _ _ asks _ attends pursues =>
    have elsewhere (o) : asksCases r request o ∉ u := by
      intro member
      cases attends.isWrite_of_mem_calls pursues _ (Trace.mem_calls member)
    cases asks with
    | @settled d _ _ found _ _ _ _ reads _ => exact ⟨d, found, u, rfl, reads, elsewhere⟩
    | @vacant d _ _ _ _ id created =>
      refine ⟨d, [], ⟨.freshId, id⟩ :: ⟨.now, created⟩ :: u, rfl, rfl, fun o member => ?_⟩
      simp only [asksCases, List.mem_cons] at member
      rcases member with eq | eq | member
      · cases eq
      · cases eq
      · exact elsewhere o member

theorem Succeeds.subject (h : Succeeds r settings hash request l t) :
    (l.isNew = false ∧ resolve l.cases = .settled l.subject) ∨
      (l.isNew = true ∧ l.cases = [] ∧ l.subject.uprn = request.place) := by
  cases h with
  | intro asks _ _ _ =>
    cases asks with
    | settled _ _ _ resolved => exact .inl ⟨rfl, resolved⟩
    | vacant _ _ _ _ => exact .inr ⟨rfl, rfl, rfl⟩

theorem Succeeds.type_subject (h : Succeeds r settings hash request l t) :
    l.subject.type ≠ .individual := by
  cases h with
  | intro _ check _ _ => exact Pairing.ne_individual_of_allowed _ (Pairing.check_eq_ok_iff.1 check)

/-- All that it keeps but individual cases is the case that it reports, and it announces that. -/
theorem Succeeds.reported (named : r.WellNamed) (h : Succeeds r settings hash request l t) :
    (keptCases r t.deeds).filter (·.type ≠ .individual) = l.reported ∧
      newAddresses t.deeds = l.reported.map NewCase.ofCase := by
  obtain ⟨_, joined, joins, kept, told⟩ := h.joins named
  have all (c) (hc : c ∈ l.reported) : decide (c.type ≠ .individual) = true :=
    decide_eq_true (eq_subject_of_mem_reported hc ▸ h.type_subject)
  refine ⟨?_, told⟩
  rw [kept, List.filter_append, joins.filter_ne_individual, List.filter_eq_self.2 all,
    List.append_nil]

/-- Of what a link keeps, its new case stands for any beginning. -/
theorem Joins.stands_of_prefix {joined seen : List CollectionCase} (h : Joins k s l joined)
    (begins : seen <+: l.subject :: joined) (some : seen ≠ []) : Stands seen l.subject := by
  rcases List.prefix_cons_iff.1 begins with none | ⟨rest, rfl, more⟩
  · exact absurd none some
  have alone : Stands [l.subject] l.subject := .only rfl
  cases h with
  | nobody =>
    rw [List.prefix_nil.1 more]
    exact alone
  | individual needed _ _ _ type _ =>
    rcases List.prefix_cons_iff.1 more with rfl | ⟨_, rfl, none⟩
    · exact alone
    · rw [List.prefix_nil.1 none]
      exact (alone.cons_individual (needsIndividual_iff.1 needed).2 type).perm (.swap _ _ _)

end One

/-- Two links at an address where no case stands, of which both succeed, with the cases that are
kept while they run being new. -/
structure Meet (r : Registry) (settings : LinkSettings) (k : Conditions) (s : MemoryStore)
    (uprn : String) (hash : Bool → String) (request : Bool → LinkRequest) (t : JointTrace Bool)
    (l : Bool → Located) (s' : MemoryStore) : Prop where
  named : r.WellNamed
  vacant : r.casesIn s uprn = []
  here : ∀ i, (request i).place = uprn
  novel : Novel r s t.whole.deeds
  links : ∀ i, Succeeds r settings (hash i) (request i) (l i) (t.share i)
  carries : Carries k.Allows s t.whole s'

/-- A link searches after some case has been kept. -/
def Overtaken (r : Registry) (request : Bool → LinkRequest) (t : JointTrace Bool) (i : Bool) :
    Prop :=
  ∃ before found after, t = before ++ (i, asksCases r (request i) (.ok found)) :: after ∧
    keptCases r before.whole.deeds ≠ []

namespace Meet

variable {uprn : String} {hash : Bool → String} {request : Bool → LinkRequest}
  {t before after : JointTrace Bool} {l : Bool → Located} {i : Bool}

theorem keptCases_perm (t : JointTrace Bool) (i : Bool) :
    (keptCases r t.whole.deeds).Perm
      (keptCases r (t.share i).deeds ++ keptCases r (t.share (!i)).deeds) := by
  rw [← keptCases_append]
  exact (t.deeds_perm i).filterMap _

theorem proper (m : Meet r settings k s uprn hash request t l s') :
    ∀ d ∈ t.whole.deeds, d.Proper r := by
  have all (i : Bool) : ∀ d ∈ (t.share i).deeds, d.Proper r := by
    obtain ⟨v, ends⟩ := (m.links i).completes .empty
    exact ends.proper
  intro d hd
  rcases List.mem_append.1 ((t.deeds_perm true).subset hd) with hd | hd
  · exact all true d hd
  · exact all false d hd

/-- What a link sees: the cases that have been kept for the address up to its search. -/
theorem sees (m : Meet r settings k s uprn hash request t l s') {found : List Document}
    (split : t = before ++ (i, asksCases r (request i) (.ok found)) :: after) :
    found.filterMap Document.read? = r.casesIn (s.after before.whole.deeds) uprn ∧
      (r.casesIn (s.after before.whole.deeds) uprn).Perm
        ((keptCases r before.whole.deeds).filter (·.uprn = uprn)) ∧
      ((r.casesIn (s.after before.whole.deeds) uprn).map (·.id)).Nodup := by
  have proper := m.proper
  have novel := m.novel
  have carried := m.carries
  rw [split, JointTrace.whole_append] at carried
  rw [split, JointTrace.whole_append, Trace.deeds_append] at proper novel
  have proper (d) (hd : d ∈ before.whole.deeds) : d.Proper r :=
    proper d (List.mem_append_left _ hd)
  obtain ⟨s₁, first, second⟩ := carries_append_iff.1 carried
  refine ⟨?_, r.casesIn_after_of_vacant m.named proper (novel_append_iff.1 novel).1 m.vacant⟩
  cases second with
  | cons search _ =>
    obtain ⟨rfl, _⟩ := eq_matching_of_allows m.named search
    rw [first.eq_after, m.here i]
    rfl

/-- A link goes by the cases that it has seen. -/
theorem cases_eq (m : Meet r settings k s uprn hash request t l s') {found : List Document}
    (split : t = before ++ (i, asksCases r (request i) (.ok found)) :: after) :
    (l i).cases = r.casesIn (s.after before.whole.deeds) uprn := by
  obtain ⟨d, found', rest, asks, reads, once⟩ := (m.links i).asks
  have member : asksCases r (request i) (.ok found) ∈ t.share i := by
    rw [split, JointTrace.share_append, JointTrace.share_cons_self]
    exact List.mem_append_right _ List.mem_cons_self
  rw [asks] at member
  obtain rfl : found = found' := by
    rcases List.mem_cons.1 member with eq | member
    · cases eq
    rcases List.mem_cons.1 member with eq | member
    · cases eq
      rfl
    · exact absurd member (once _)
  rw [(readCases_eq_ok_iff.1 reads).2, (m.sees split).1]

/-- A link searches, and has done nothing before. -/
theorem searches (m : Meet r settings k s uprn hash request t l s') (i : Bool) :
    ∃ before found after, t = before ++ (i, asksCases r (request i) (.ok found)) :: after ∧
      (before.share i).deeds = [] := by
  obtain ⟨d, found, rest, asks, _⟩ := (m.links i).asks
  have apart : t.share i = [asksCode r (hash i) (.ok (some d))] ++
      asksCases r (request i) (.ok found) :: rest := asks
  obtain ⟨before, after, split, first, _⟩ := JointTrace.exists_split apart
  exact ⟨before, found, after, split, by rw [first]; rfl⟩

/-- A link that does not report a case comes to the one that stands for what it has seen. -/
theorem stands (m : Meet r settings k s uprn hash request t l s') (old : (l i).isNew = false) :
    Stands (l i).cases (l i).subject := by
  obtain ⟨before, found, after, split, _⟩ := m.searches i
  rcases (m.links i).subject with ⟨_, resolved⟩ | ⟨new, _⟩
  · rw [m.cases_eq split] at resolved ⊢
    exact (resolve_eq_settled_iff (m.sees split).2.2).1 resolved
  · simp [old] at new

theorem uprn_subject (m : Meet r settings k s uprn hash request t l s') (i : Bool) :
    (l i).subject.uprn = uprn := by
  rcases (m.links i).subject with ⟨old, _⟩ | ⟨_, _, there⟩
  · obtain ⟨before, found, after, split, _⟩ := m.searches i
    have member := (m.stands old).mem
    rw [m.cases_eq split] at member
    exact of_decide_eq_true (List.mem_filter.1 ((m.sees split).2.1.subset member)).2
  · rw [there, m.here i]

theorem uprn_of_mem_keptCases (m : Meet r settings k s uprn hash request t l s')
    {c : CollectionCase} (hc : c ∈ keptCases r t.whole.deeds) : c.uprn = uprn := by
  have each (i : Bool) (hc : c ∈ keptCases r (t.share i).deeds) : c.uprn = uprn := by
    obtain ⟨_, joined, joins, kept, _⟩ := (m.links i).joins m.named
    rw [kept] at hc
    rcases List.mem_append.1 hc with hc | hc
    · rw [eq_subject_of_mem_reported hc]
      exact m.uprn_subject i
    · exact (joins.place_of_mem hc).2.trans (m.uprn_subject i)
  rcases List.mem_append.1 ((keptCases_perm t true).subset hc) with hc | hc
  · exact each true hc
  · exact each false hc

/-- At its search a link sees all cases that have been kept. -/
theorem casesIn_perm (m : Meet r settings k s uprn hash request t l s') {found : List Document}
    (split : t = before ++ (i, asksCases r (request i) (.ok found)) :: after) :
    (r.casesIn (s.after before.whole.deeds) uprn).Perm (keptCases r before.whole.deeds) := by
  have sees := (m.sees split).2.1
  have all (c) (hc : c ∈ keptCases r before.whole.deeds) : decide (c.uprn = uprn) = true := by
    refine decide_eq_true (m.uprn_of_mem_keptCases ?_)
    rw [split, JointTrace.whole_append, Trace.deeds_append, keptCases_append]
    exact List.mem_append_left _ hc
  rwa [List.filter_eq_self.2 all] at sees

/-- So it finds a beginning of what the other link keeps. -/
theorem cases_perm (m : Meet r settings k s uprn hash request t l s') (i : Bool) :
    ((l i).cases.map (·.id)).Nodup ∧ ∃ seen, (l i).cases.Perm seen ∧
      seen <+: keptCases r (t.share (!i)).deeds := by
  obtain ⟨before, found, after, split, idle⟩ := m.searches i
  rw [m.cases_eq split]
  refine ⟨(m.sees split).2.2, keptCases r (before.share (!i)).deeds, ?_, ?_⟩
  -- the link itself has done nothing yet, so all that has been kept is the other's
  · have whole := keptCases_perm (r := r) before i
    rw [idle, keptCases_nil, List.nil_append] at whole
    exact (m.casesIn_perm split).trans whole
  · rw [split, JointTrace.share_append, Trace.deeds_append, keptCases_append]
    exact List.prefix_append _ _

/-- A link that does not report a case comes to the case that the other one has reported. -/
theorem follows (m : Meet r settings k s uprn hash request t l s') (old : (l i).isNew = false) :
    (l (!i)).isNew = true ∧ (l i).subject = (l (!i)).subject := by
  obtain ⟨ids, seen, same, begins⟩ := m.cases_perm i
  obtain ⟨_, joined, joins, kept, _⟩ := (m.links (!i)).joins m.named
  have member := same.subset (m.stands old).mem
  rw [kept, Located.reported] at begins
  cases new : (l (!i)).isNew with
  | false =>
    -- the other one keeps at most an individual case, which no link comes to
    rw [new] at begins
    exact absurd (joins.place_of_mem (begins.subset member)).1 (m.links i).type_subject
  | true =>
    rw [new] at begins
    have stands := joins.stands_of_prefix begins (List.ne_nil_of_mem member)
    exact ⟨rfl, stands_unique ids (m.stands old) (stands.perm same.symm)⟩

/-- A link reports no case exactly if one has been kept before it searches. -/
theorem overtaken_iff (m : Meet r settings k s uprn hash request t l s') (i : Bool) :
    Overtaken r request t i ↔ (l i).isNew = false := by
  constructor
  · rintro ⟨before, found, after, split, kept⟩
    have seen := m.casesIn_perm split
    rcases (m.links i).subject with ⟨old, _⟩ | ⟨_, none, _⟩
    · exact old
    · rw [← m.cases_eq split, none] at seen
      exact absurd seen.symm.eq_nil kept
  · intro old
    obtain ⟨before, found, after, split, _⟩ := m.searches i
    refine ⟨before, found, after, split, fun none => ?_⟩
    have member := (m.stands old).mem
    rw [m.cases_eq split] at member
    have seen := (m.casesIn_perm split).subset member
    rw [none] at seen
    cases seen

/-- In the end there are the cases that the links have reported, and these have been announced. -/
theorem reported_perm (m : Meet r settings k s uprn hash request t l s') (i : Bool) :
    ((r.casesIn s' uprn).filter (·.type ≠ .individual)).Perm
        ((l i).reported ++ (l (!i)).reported) ∧
      (newAddresses t.whole.deeds).Perm
        (((l i).reported ++ (l (!i)).reported).map NewCase.ofCase) := by
  have grown := (r.casesIn_after_of_vacant m.named m.proper m.novel m.vacant).1
  have here (c) (hc : c ∈ keptCases r t.whole.deeds) : decide (c.uprn = uprn) = true :=
    decide_eq_true (m.uprn_of_mem_keptCases hc)
  rw [← m.carries.eq_after, List.filter_eq_self.2 here] at grown
  have each (j : Bool) := (m.links j).reported m.named
  constructor
  · rw [← (each i).1, ← (each (!i)).1, ← List.filter_append]
    exact (grown.trans (keptCases_perm t i)).filter _
  · rw [List.map_append, ← (each i).2, ← (each (!i)).2, ← newAddresses_append]
    exact (t.deeds_perm i).filterMap _

/-- A link is announced with the case that it has come to. -/
theorem linkedCases_eq (m : Meet r settings k s uprn hash request t l s') (i : Bool) :
    linkedCases (t.share i) = [(l i).subject.id] := (m.links i).linkedCases_eq

/-- If one link is overtaken, both come to one case. -/
theorem one_case (m : Meet r settings k s uprn hash request t l s')
    (overtaken : Overtaken r request t i) :
    ∃ c, (r.casesIn s' uprn).filter (·.type ≠ .individual) = [c] ∧
      (∀ j, linkedCases (t.share j) = [c.id]) ∧ newAddresses t.whole.deeds = [.ofCase c] := by
  have old := (m.overtaken_iff i).1 overtaken
  obtain ⟨new, same⟩ := m.follows old
  obtain ⟨cases, told⟩ := m.reported_perm i
  have reported : (l i).reported ++ (l (!i)).reported = [(l (!i)).subject] := by
    rw [Located.reported, Located.reported, old, new]
    rfl
  rw [reported] at cases told
  refine ⟨_, List.perm_singleton.1 cases, fun j => ?_, List.perm_singleton.1 told⟩
  rw [m.linkedCases_eq j]
  by_cases mine : j = i
  · rw [mine, same]
  · rw [Bool.eq_not.2 mine]

/-- If neither is, each comes to a case of its own. -/
theorem two_cases (m : Meet r settings k s uprn hash request t l s')
    (none : ¬ ∃ i, Overtaken r request t i) :
    ∃ c : Bool → CollectionCase, (c true).id ≠ (c false).id ∧
      ((r.casesIn s' uprn).filter (·.type ≠ .individual)).Perm [c true, c false] ∧
      (∀ j, linkedCases (t.share j) = [(c j).id]) ∧
      (newAddresses t.whole.deeds).Perm [.ofCase (c true), .ofCase (c false)] := by
  have reported (j : Bool) : (l j).reported = [(l j).subject] := by
    have new : (l j).isNew = true := by
      cases isNew : (l j).isNew with
      | true => rfl
      | false => exact absurd ⟨j, (m.overtaken_iff j).2 isNew⟩ none
    rw [Located.reported, new]
    rfl
  obtain ⟨cases, told⟩ := m.reported_perm true
  rw [reported true, reported (!true)] at cases told
  have ids := (r.casesIn_after_of_vacant m.named m.proper m.novel m.vacant).2
  rw [← m.carries.eq_after] at ids
  have ids := nodup_ids_filter ids (fun c => decide (c.type ≠ .individual))
  refine ⟨fun j => (l j).subject, ?_, cases, m.linkedCases_eq, told⟩
  have distinct := (cases.map CollectionCase.id).nodup_iff.1 ids
  simpa using distinct

end Meet

/-- Two links at an address where no case stands, both of which succeed, come to one case and
announce it once if one of them has searched after a case was kept. If both have searched before,
each comes to a case of its own and announces it. -/
theorem concurrent_links_at_new_address (named : r.WellNamed) {uprn : String}
    (vacant : r.casesIn s uprn = []) {hash : Bool → String} {request : Bool → LinkRequest}
    (here : ∀ i, (request i).place = uprn) {t : JointTrace Bool}
    {o : Bool → Except Fault CodeView} (novel : Novel r s t.whole.deeds)
    (run : RunTogether k.Allows (fun i => (link r settings (hash i) (request i)).run) s t o s')
    (succeed : ∀ i, ∃ v, o i = .ok v) :
    ((∃ i, Overtaken r request t i) →
      ∃ c, (r.casesIn s' uprn).filter (·.type ≠ .individual) = [c] ∧
        (∀ i, linkedCases (t.share i) = [c.id]) ∧ newAddresses t.whole.deeds = [.ofCase c]) ∧
    ((¬ ∃ i, Overtaken r request t i) →
      ∃ c : Bool → CollectionCase, (c true).id ≠ (c false).id ∧
        ((r.casesIn s' uprn).filter (·.type ≠ .individual)).Perm [c true, c false] ∧
        (∀ i, linkedCases (t.share i) = [(c i).id]) ∧
        (newAddresses t.whole.deeds).Perm [.ofCase (c true), .ofCase (c false)]) := by
  have links (i : Bool) : ∃ l, Succeeds r settings (hash i) (request i) l (t.share i) := by
    obtain ⟨v, ok⟩ := succeed i
    have runs := run.runs i
    rw [ok] at runs
    exact (runs_link_iff.1 runs).succeeds
  choose l links using links
  have m : Meet r settings k s uprn hash request t l s' :=
    ⟨named, vacant, here, novel, links, run.carries⟩
  exact ⟨fun ⟨_, overtaken⟩ => m.one_case overtaken, m.two_cases⟩

/-- Nothing keeps two links from both searching before either goes on. -/
theorem exists_both_searched (named : r.WellNamed) (placed : r.Placed s) {hash : Bool → String}
    {request : Bool → LinkRequest} {l : Bool → Located} {ds : Bool → List Deed}
    {v : Bool → CodeView}
    (found : ∀ i, Locates r settings k s (hash i) (request i) (.ok (l i)))
    (first : Completes r k s (l true) (ds true) (.ok (v true)))
    (second : Completes r k (s.after (ds true)) (l false) (ds false) (.ok (v false))) :
    ∃ t s', RunTogether k.Allows (fun i => (link r settings (hash i) (request i)).run) s t
      (fun i => .ok (v i)) s' ∧ t.whole.deeds = ds true ++ ds false := by
  have searching (i : Bool) := (found i).does named placed
  choose t search idle using searching
  obtain ⟨u₁, goesOn₁, did₁⟩ := (does_complete_iff named).2 first
  obtain ⟨u₂, goesOn₂, did₂⟩ := (does_complete_iff named).2 second
  have links (i : Bool) {u : Trace} (goesOn : (complete r (l i)).run.Runs u (.ok (v i))) :
      (link r settings (hash i) (request i)).run.Runs (t i ++ u) (.ok (v i)) := by
    rw [link_eq]
    exact Service.runs_bind_iff.2 (.inr ⟨l i, t i, u, rfl, (search i).1, goesOn⟩)
  have carried : Carries k.Allows s (t true ++ t false ++ (u₁ ++ u₂))
      ((s.after (ds true)).after (ds false)) :=
    carries_append_iff.2 ⟨s, carries_append_iff.2 ⟨s, (search true).2, (search false).2⟩,
      carries_append_iff.2 ⟨_, goesOn₁.2, goesOn₂.2⟩⟩
  let joint : JointTrace Bool :=
    .solo true (t true) ++ .solo false (t false) ++ (.solo true u₁ ++ .solo false u₂)
  have whole : joint.whole = t true ++ t false ++ (u₁ ++ u₂) := by
    simp [joint, JointTrace.whole_solo]
  refine ⟨joint, _, ⟨fun i => ?_, whole ▸ carried⟩, ?_⟩
  · cases i with
    | true =>
      have mine : joint.share true = t true ++ u₁ := by
        simp [joint, JointTrace.share_solo_self, JointTrace.share_solo_of_ne]
      exact mine ▸ links true goesOn₁.1
    | false =>
      have mine : joint.share false = t false ++ u₂ := by
        simp [joint, JointTrace.share_solo_self, JointTrace.share_solo_of_ne]
      exact mine ▸ links false goesOn₂.1
  · rw [whole, Trace.deeds_append, Trace.deeds_append, Trace.deeds_append, idle, idle, did₁, did₂]
    rfl

end Link
/-! An example: the codes of two households are linked at an address where no case stands, and both
searches come before anything is stored. -/
namespace Sample

open Link

/-- No call fails, and identifiers are drawn that no case has. -/
def careful : Conditions := ⟨fun _ => False, fun s id => registry.Fresh s id⟩

def neighbour (i : Bool) : AccessCode :=
  .issued (if i then "one" else "other") "questionnaire" .household .household

def unoccupied : MemoryStore :=
  .after .empty [.ofCode registry (neighbour true), .ofCode registry (neighbour false)]

def drawn (i : Bool) : Uuid := ⟨if i then 0 else 1, by split <;> decide⟩

def early (i : Bool) : Located :=
  ⟨neighbour i, registry.casesIn unoccupied request.place,
    reportedCase (drawn i) start (neighbour i) request .household .standard, true⟩

def done (i : Bool) : List Deed :=
  (early i).reports registry ++ [] ++ (early i).links registry none

def view (i : Bool) : CodeView := .merged (early i).subject ((early i).linkedCode none)

theorem placed_unoccupied : registry.Placed unoccupied := by
  refine (Registry.placed_empty _).after wellNamed fun d hd => ?_
  simp only [List.mem_cons, List.not_mem_nil, or_false] at hd
  rcases hd with rfl | rfl
  · exact .code _
  · exact .code _

theorem locates_early (i : Bool) : Locates registry .standard careful unoccupied (neighbour i).hash
    request (.ok (early i)) := by
  have found : registry.codeIn unoccupied (neighbour i).hash = some (neighbour i) := by
    revert i
    decide +kernel
  have fresh : registry.Fresh unoccupied (drawn i) := by
    rw [Registry.Fresh]
    revert i
    decide +kernel
  exact .vacant found rfl (resolve_eq_vacant_iff.2 (by decide +kernel)) fresh

theorem completes_early (i : Bool) (s : MemoryStore) :
    Completes registry careful s (early i) (done i) (.ok (view i)) := by
  cases i with
  | true => exact .linked rfl (.alone rfl)
  | false => exact .linked rfl (.alone rfl)

theorem novel_done : Novel registry unoccupied (done true ++ done false) := by
  have fresh : careful.DrawsNew registry := fun _ _ drawn => drawn
  have absent : (early false).subject.id ∉
      ((unoccupied.after (done true)).documents registry.schemas.case).map (·.1) := by
    decide +kernel
  exact novel_append_iff.2
    ⟨(completes_early true _).novel wellNamed fresh ((locates_early true).novel_reports fresh),
      (completes_early false _).novel wellNamed fresh (novel_reports fun _ => absent)⟩

theorem exists_meeting : ∃ t s', RunTogether careful.Allows
      (fun i => (link registry .standard (neighbour i).hash request).run) unoccupied t
      (fun i => .ok (view i)) s' ∧ t.whole.deeds = done true ++ done false :=
  exists_both_searched wellNamed placed_unoccupied locates_early (v := view)
    (completes_early true _) (completes_early false _)

end Sample

namespace Link

/-- In the example each link comes to a case of its own. -/
theorem concurrent_links_at_new_address_sample : ∃ t s',
    RunTogether Sample.careful.Allows
      (fun i => (link Sample.registry .standard (Sample.neighbour i).hash Sample.request).run)
      Sample.unoccupied t (fun i => .ok (Sample.view i)) s' ∧
    Sample.registry.WellNamed ∧
    Sample.registry.casesIn Sample.unoccupied Sample.request.place = [] ∧
    Novel Sample.registry Sample.unoccupied t.whole.deeds ∧
    ∃ c : Bool → CollectionCase, (c true).id ≠ (c false).id ∧
      ((Sample.registry.casesIn s' Sample.request.place).filter (·.type ≠ .individual)).Perm
        [c true, c false] ∧
      (∀ i, linkedCases (t.share i) = [(c i).id]) ∧
      (newAddresses t.whole.deeds).Perm [.ofCase (c true), .ofCase (c false)] := by
  obtain ⟨t, s', run, did⟩ := Sample.exists_meeting
  have vacant : Sample.registry.casesIn Sample.unoccupied Sample.request.place = [] := by
    decide +kernel
  have novel : Novel Sample.registry Sample.unoccupied t.whole.deeds := did ▸ Sample.novel_done
  have twice : (newAddresses t.whole.deeds).length = 2 := by
    rw [did]
    decide +kernel
  obtain ⟨one, two⟩ := concurrent_links_at_new_address Sample.wellNamed vacant (fun _ => rfl)
    novel run fun i => ⟨_, rfl⟩
  refine ⟨t, s', run, Sample.wellNamed, vacant, novel, two fun overtaken => ?_⟩
  obtain ⟨c, _, _, once⟩ := one overtaken
  rw [once] at twice
  cases twice

/-- Two links at a new address may make two cases although no call fails. -/
theorem concurrent_links_may_make_two :
    ¬ ∀ t (v : Bool → CodeView) s', RunTogether Sample.careful.Allows
        (fun i => (link Sample.registry .standard (Sample.neighbour i).hash Sample.request).run)
        Sample.unoccupied t (fun i => .ok (v i)) s' →
      Novel Sample.registry Sample.unoccupied t.whole.deeds →
      ∃ c, (Sample.registry.casesIn s' Sample.request.place).filter (·.type ≠ .individual) = [c] ∧
        (∀ i, linkedCases (t.share i) = [c.id]) ∧ newAddresses t.whole.deeds = [.ofCase c] := by
  intro claim
  obtain ⟨t, s', run, did⟩ := Sample.exists_meeting
  obtain ⟨c, one, _⟩ := claim t Sample.view s' run (did ▸ Sample.novel_done)
  have two : ((Sample.registry.casesIn (Sample.unoccupied.after
      (Sample.done true ++ Sample.done false)) Sample.request.place).filter
        (·.type ≠ .individual)).length = 2 := by
    decide +kernel
  rw [← did, ← run.carries.eq_after, one] at two
  cases two

end Link
end CensusLink
