import CensusLink.Proofs.Linking.Course
import CensusLink.Proofs.Registry.Kept

/-!
What a link adds to a store. It keeps at most two cases, both new and at its address: the case that
it reports, if none stood there, and an individual case next to a household. So the case that stands
for an address stands for it after every link, however the link ends.
-/
namespace CensusLink

/-- Only such identifiers are drawn as no case has yet. -/
def Conditions.DrawsNew (r : Registry) (k : Conditions) : Prop :=
  ∀ s id, k.mayDraw s id → r.Fresh s id

/-- The case that a deed announces for a new address. -/
def Deed.newAddress? : Deed → Option NewCase
  | .told ⟨.newAddressReported, _, _, .newAddress a⟩ => some a.subject
  | _ => none

/-- What is announced of new addresses, in its order. -/
def newAddresses (ds : List Deed) : List NewCase := ds.filterMap Deed.newAddress?

@[simp]
theorem newAddresses_append (ds es : List Deed) :
    newAddresses (ds ++ es) = newAddresses ds ++ newAddresses es := List.filterMap_append

namespace Link

def Located.reported (l : Located) : List CollectionCase := if l.isNew then [l.subject] else []

/-- At most one individual case comes to stand next to the case of a link. -/
inductive Joins (k : Conditions) (s : MemoryStore) (l : Located) : List CollectionCase → Prop
  | nobody : Joins k s l []
  | individual {i : CollectionCase} {id : Uuid}
      (needed : needsIndividual l.code l.subject = true)
      (unlinked : linkedIndividual? l.code l.cases = none) (drawn : k.mayDraw s id)
      (named : i.id = id.text) (type : i.type = .individual) (there : i.uprn = l.subject.uprn) :
    Joins k s l [i]

variable {r : Registry} {settings : LinkSettings} {k : Conditions} {s : MemoryStore}
  {ds : List Deed} {l : Located} {individual : Option CollectionCase} {hash : String}
  {request : LinkRequest} {o : Except Fault CodeView}

theorem proper_reports (r : Registry) (l : Located) : ∀ d ∈ l.reports r, d.Proper r := by
  intro d hd
  rw [Located.reports] at hd
  split at hd
  · simp only [List.mem_cons, List.not_mem_nil, or_false] at hd
    rcases hd with rfl | rfl
    · exact .case _
    · exact .told _
  · cases hd

theorem proper_links (r : Registry) (l : Located) (individual : Option CollectionCase) :
    ∀ d ∈ l.links r individual, d.Proper r := by
  intro d hd
  simp only [Located.links, List.mem_cons, List.not_mem_nil, or_false] at hd
  rcases hd with rfl | rfl
  · exact .code _
  · exact .told _

theorem Accompanies.proper (h : Accompanies r k s l individual ds) : ∀ d ∈ ds, d.Proper r := by
  cases h with
  | alone _ => simp
  | again _ _ => simp
  | anew _ _ _ =>
    intro d hd
    rw [List.mem_singleton.1 hd]
    exact .case _

/-- Whatever a link does, it does in its place. -/
theorem Completes.proper (h : Completes r k s l ds o) : ∀ d ∈ ds, d.Proper r := by
  intro d hd
  cases h with
  | refused _ => cases hd
  | unreported _ _ _ => cases hd
  | unaccompanied _ _ _ _ _ => exact proper_reports r l d hd
  | unlinked _ company _ =>
    rcases List.mem_append.1 hd with hd | hd
    · exact proper_reports r l d hd
    · exact company.proper d hd
  | linked _ company =>
    rcases List.mem_append.1 hd with hd | hd
    · rcases List.mem_append.1 hd with hd | hd
      · exact proper_reports r l d hd
      · exact company.proper d hd
    · exact proper_links r l _ d hd

theorem keptCases_reports (r : Registry) (l : Located) :
    keptCases r (l.reports r) = l.reported := by
  rw [Located.reports, Located.reported]
  cases l.isNew with
  | false => rfl
  | true => simp [keptCases_cons]

theorem newAddresses_reports (r : Registry) (l : Located) :
    newAddresses (l.reports r) = l.reported.map NewCase.ofCase := by
  rw [Located.reports, Located.reported]
  cases l.isNew with
  | false => rfl
  | true => rfl

theorem keptCases_links (named : r.WellNamed) (l : Located) (individual : Option CollectionCase) :
    keptCases r (l.links r individual) = [] := by
  simp [Located.links, keptCases_cons, Deed.case?_ofCode named]

theorem Accompanies.joins (h : Accompanies r k s l individual ds) :
    Joins k s l (keptCases r ds) ∧ newAddresses ds = [] := by
  cases h with
  | alone _ => exact ⟨.nobody, rfl⟩
  | again _ _ => exact ⟨.nobody, rfl⟩
  | anew needed unlinked drawn =>
    refine ⟨?_, rfl⟩
    rw [keptCases_cons, Deed.case?_ofCase, keptCases_nil]
    refine .individual needed unlinked drawn (by simp [individualCase]) ?_ ?_
    · simp [individualCase]
    · simp [individualCase, CollectionCase.uprn]

/-- A link that does anything at all reports its case if it is new, and announces it. -/
theorem Completes.idle_or_joins (named : r.WellNamed) (h : Completes r k s l ds o) :
    ds = [] ∨ ∃ joined, Joins k (s.after (l.reports r)) l joined ∧
      keptCases r ds = l.reported ++ joined ∧ newAddresses ds = l.reported.map NewCase.ofCase := by
  cases h with
  | refused _ => exact .inl rfl
  | unreported _ _ _ => exact .inl rfl
  | unaccompanied _ _ _ _ _ =>
    refine .inr ⟨[], .nobody, ?_, newAddresses_reports r l⟩
    rw [keptCases_reports, List.append_nil]
  | unlinked _ company _ =>
    obtain ⟨joins, quiet⟩ := company.joins
    refine .inr ⟨_, joins, ?_, ?_⟩
    · rw [keptCases_append, keptCases_reports]
    · rw [newAddresses_append, quiet, List.append_nil, newAddresses_reports]
  | linked _ company =>
    obtain ⟨joins, quiet⟩ := company.joins
    refine .inr ⟨_, joins, ?_, ?_⟩
    · rw [keptCases_append, keptCases_append, keptCases_reports, keptCases_links named,
        List.append_nil]
    · rw [newAddresses_append, newAddresses_append, quiet, List.append_nil, newAddresses_reports]
      exact List.append_nil _

/-- A link that succeeds has at least linked its code. -/
theorem Completes.ne_nil_of_ok {v : CodeView} (h : Completes r k s l ds (.ok v)) : ds ≠ [] := by
  cases h with
  | linked _ _ => simp [Located.links]

theorem novel_reports (absent : l.isNew = true →
    l.subject.id ∉ (s.documents r.schemas.case).map (·.1)) : Novel r s (l.reports r) := by
  cases new : l.isNew with
  | false => simp [Located.reports, new, Novel]
  | true =>
    rw [Located.reports, new]
    refine ⟨fun c kept => ?_, fun c kept => by simp at kept, trivial⟩
    rw [Deed.case?_ofCase] at kept
    rw [← Option.some.inj kept]
    exact absent new

theorem Locates.novel_reports (fresh : k.DrawsNew r)
    (h : Locates r settings k s hash request (.ok l)) : Novel r s (l.reports r) := by
  cases h with
  | settled _ _ _ => trivial
  | vacant _ _ _ drawn => exact Link.novel_reports fun _ => fresh _ _ drawn

theorem Accompanies.novel (fresh : k.DrawsNew r) (h : Accompanies r k s l individual ds) :
    Novel r s ds := by
  cases h with
  | alone _ => trivial
  | again _ _ => trivial
  | anew _ _ drawn =>
    refine ⟨fun c kept => ?_, trivial⟩
    rw [Deed.case?_ofCase] at kept
    rw [← Option.some.inj kept]
    exact fresh _ _ drawn

theorem Completes.novel (named : r.WellNamed) (fresh : k.DrawsNew r)
    (reports : Novel r s (l.reports r)) (h : Completes r k s l ds o) : Novel r s ds := by
  cases h with
  | refused _ => trivial
  | unreported _ _ _ => trivial
  | unaccompanied _ _ _ _ _ => exact reports
  | unlinked _ company _ => exact novel_append_iff.2 ⟨reports, company.novel fresh⟩
  | linked _ company =>
    refine novel_append_iff.2 ⟨novel_append_iff.2 ⟨reports, company.novel fresh⟩, ?_⟩
    exact novel_of_keptCases_eq_nil (keptCases_links named l _)

/-- The case of a link stands for its address, or is new and nothing stands there. -/
theorem Locates.stands_or_new (placed : r.Placed s)
    (h : Locates r settings k s hash request (.ok l)) :
    l.subject.uprn = request.place ∧
      ((l.isNew = false ∧ Stands (r.casesIn s request.place) l.subject) ∨
        (l.isNew = true ∧ r.casesIn s request.place = [] ∧ l.subject.type ≠ .individual)) := by
  cases h with
  | settled _ _ resolved =>
    have stands := (resolve_eq_settled_iff (r.nodup_ids_casesIn placed _)).1 resolved
    exact ⟨(r.exists_of_mem_casesIn placed stands.mem).1, .inl ⟨rfl, stands⟩⟩
  | @vacant code type id created _ _ resolved _ =>
    refine ⟨by simp [reportedCase, CollectionCase.uprn], .inr ⟨rfl, ?_, ?_⟩⟩
    · exact resolve_eq_vacant_iff.1 resolved
    · cases type <;> simp [reportedCase, AddressType.caseType]

theorem eq_subject_of_mem_reported {c : CollectionCase} (hc : c ∈ l.reported) : c = l.subject := by
  rw [Located.reported] at hc
  split at hc
  · exact List.mem_singleton.1 hc
  · cases hc

theorem Locates.place_of_mem_reported (placed : r.Placed s)
    (h : Locates r settings k s hash request (.ok l)) {c : CollectionCase} (hc : c ∈ l.reported) :
    c.uprn = request.place := by
  rw [eq_subject_of_mem_reported hc]
  exact (h.stands_or_new placed).1

theorem Joins.place_of_mem {joined : List CollectionCase} (h : Joins k s l joined)
    {c : CollectionCase} (hc : c ∈ joined) : c.type = .individual ∧ c.uprn = l.subject.uprn := by
  cases h with
  | nobody => cases hc
  | individual _ _ _ _ type there =>
    rw [List.mem_singleton.1 hc]
    exact ⟨type, there⟩

theorem Joins.filter_ne_individual {joined : List CollectionCase} (h : Joins k s l joined) :
    joined.filter (·.type ≠ .individual) = [] := by
  refine List.filter_eq_nil_iff.2 fun c hc => ?_
  simp [(h.place_of_mem hc).1]

/-- All cases that a link keeps are for its address. -/
theorem Completes.place_of_mem (named : r.WellNamed) (placed : r.Placed s)
    (found : Locates r settings k s hash request (.ok l)) (h : Completes r k s l ds o)
    {c : CollectionCase} (hc : c ∈ keptCases r ds) : c.uprn = request.place := by
  rcases h.idle_or_joins named with rfl | ⟨joined, joins, kept, _⟩
  · cases hc
  · rw [kept] at hc
    rcases List.mem_append.1 hc with hc | hc
    · exact found.place_of_mem_reported placed hc
    · exact (joins.place_of_mem hc).2.trans (found.stands_or_new placed).1

/-- The cases at the address of a link, after it. -/
theorem Completes.casesIn_here_perm (named : r.WellNamed) (placed : r.Placed s)
    (fresh : k.DrawsNew r) (found : Locates r settings k s hash request (.ok l))
    (h : Completes r k s l ds o) :
    (r.casesIn (s.after ds) request.place).Perm
      (keptCases r ds ++ r.casesIn s request.place) := by
  have novel := h.novel named fresh (found.novel_reports fresh)
  have grown := r.casesIn_after_perm named h.proper novel request.place
  have here (c) (hc : c ∈ keptCases r ds) : decide (c.uprn = request.place) = true :=
    decide_eq_true (h.place_of_mem named placed found hc)
  rwa [List.filter_eq_self.2 here] at grown

/-- A link makes no difference to the cases at other addresses. -/
theorem Completes.casesIn_elsewhere_perm (named : r.WellNamed) (placed : r.Placed s)
    (fresh : k.DrawsNew r) (found : Locates r settings k s hash request (.ok l))
    (h : Completes r k s l ds o) {uprn : String} (elsewhere : uprn ≠ request.place) :
    (r.casesIn (s.after ds) uprn).Perm (r.casesIn s uprn) := by
  have novel := h.novel named fresh (found.novel_reports fresh)
  have grown := r.casesIn_after_perm named h.proper novel uprn
  have absent (c) (hc : c ∈ keptCases r ds) : ¬ decide (c.uprn = uprn) = true := by
    rw [h.place_of_mem named placed found hc]
    simpa using elsewhere.symm
  rwa [List.filter_eq_nil_iff.2 absent, List.nil_append] at grown

theorem Joins.stands {joined cases : List CollectionCase} (h : Joins k s l joined)
    (stands : Stands cases l.subject) : Stands (joined ++ cases) l.subject := by
  cases h with
  | nobody => exact stands
  | individual needed _ _ _ type _ =>
    exact stands.cons_individual (needsIndividual_iff.1 needed).2 type

/-- A case that stands for an address still does after a link. -/
theorem Completes.stands_after (named : r.WellNamed) (placed : r.Placed s) (fresh : k.DrawsNew r)
    (found : Locates r settings k s hash request (.ok l)) (h : Completes r k s l ds o)
    {uprn : String} {c : CollectionCase} (stands : Stands (r.casesIn s uprn) c) :
    Stands (r.casesIn (s.after ds) uprn) c := by
  by_cases elsewhere : uprn ≠ request.place
  · exact stands.perm (h.casesIn_elsewhere_perm named placed fresh found elsewhere).symm
  obtain rfl := not_not.1 elsewhere
  refine .perm (h.casesIn_here_perm named placed fresh found).symm ?_
  rcases (found.stands_or_new placed).2 with ⟨old, subject⟩ | ⟨_, vacant, _⟩
  · obtain rfl := stands_unique (r.nodup_ids_casesIn placed _) subject stands
    rcases h.idle_or_joins named with rfl | ⟨joined, joins, kept, _⟩
    · exact stands
    · rw [kept, Located.reported, old]
      exact joins.stands stands
  · rw [vacant] at stands
    cases stands.mem

/-- A new case stands for its address once it is kept. -/
theorem Completes.stands_of_kept (named : r.WellNamed) (placed : r.Placed s) (fresh : k.DrawsNew r)
    (found : Locates r settings k s hash request (.ok l)) (h : Completes r k s l ds o)
    (kept : l.isNew = false ∨ l.subject ∈ keptCases r ds) :
    Stands (r.casesIn (s.after ds) request.place) l.subject := by
  rcases (found.stands_or_new placed).2 with ⟨_, subject⟩ | ⟨new, vacant, _⟩
  · exact h.stands_after named placed fresh found subject
  refine .perm (h.casesIn_here_perm named placed fresh found).symm ?_
  rcases h.idle_or_joins named with rfl | ⟨joined, joins, all, _⟩
  · simp [new] at kept
  · rw [all, vacant, Located.reported, new, List.append_nil]
    exact .perm List.perm_append_comm (joins.stands (.only rfl))

/-- A link that does anything leaves its case in the store. -/
theorem Completes.subject_kept (named : r.WellNamed) (h : Completes r k s l ds o) (busy : ds ≠ []) :
    l.isNew = false ∨ l.subject ∈ keptCases r ds := by
  rcases h.idle_or_joins named with idle | ⟨joined, _, kept, _⟩
  · exact absurd idle busy
  · rw [kept, Located.reported]
    cases l.isNew with
    | false => exact .inl rfl
    | true => exact .inr List.mem_cons_self

/-- Reporting a case makes no difference to other schemas than that of the cases. -/
theorem documents_reports (s : MemoryStore) (l : Located) {schema : String}
    (other : schema ≠ r.schemas.case) :
    (s.after (l.reports r)).documents schema = s.documents schema := by
  rw [Located.reports]
  split
  · exact (s.documents_kept _ _ _ schema).trans (if_neg other)
  · rfl

theorem Accompanies.documents_eq (h : Accompanies r k s l individual ds) {schema : String}
    (other : schema ≠ r.schemas.case) : (s.after ds).documents schema = s.documents schema := by
  cases h with
  | alone _ => rfl
  | again _ _ => rfl
  | anew _ _ _ => exact (s.documents_kept _ _ _ schema).trans (if_neg other)

/-- A link that fails has kept nothing but cases. -/
theorem Completes.documents_of_error {f : Fault} (h : Completes r k s l ds (.error f))
    {schema : String} (other : schema ≠ r.schemas.case) :
    (s.after ds).documents schema = s.documents schema := by
  cases h with
  | refused _ => rfl
  | unreported _ _ _ => rfl
  | unaccompanied _ _ _ _ _ => exact documents_reports s l other
  | unlinked _ company _ =>
    rw [MemoryStore.after_append, company.documents_eq other, documents_reports s l other]

theorem codeIn_reports (named : r.WellNamed) (s : MemoryStore) (l : Located) (hash : String) :
    r.codeIn (s.after (l.reports r)) hash = r.codeIn s hash := by
  rw [Registry.codeIn, documents_reports s l named.distinct, Registry.codeIn]

/-- A link that fails has not touched any code. -/
theorem Completes.codeIn_of_error (named : r.WellNamed) {f : Fault}
    (h : Completes r k s l ds (.error f)) (hash : String) :
    r.codeIn (s.after ds) hash = r.codeIn s hash := by
  rw [Registry.codeIn, h.documents_of_error named.distinct, Registry.codeIn]

end Link
end CensusLink
