import CensusLink.Proofs.Linking.Course

/-!
What a link means on a store that does not fail. It is told in terms of what is kept: which code,
which cases stand at the address, and what the request asks for. The main statement says when a
link succeeds, which kind of fault it reports when it does not, and what it then has done, in which
order.
-/
namespace CensusLink

/-- A request gives the number of a property and the code of a type of address. -/
def LinkRequest.AsksFor (request : LinkRequest) (type : AddressType) : Prop :=
  Text.trim request.uprn ≠ "" ∧ Text.trim request.addressType = type.code

theorem AddressType.ofText?_eq_some_iff {raw : String} {type : AddressType} :
    AddressType.ofText? raw = some type ↔ Text.trim raw = type.code := by
  rw [AddressType.ofText?]
  split
  next eq => cases type <;> simp [eq, AddressType.code]
  next eq => cases type <;> simp [eq, AddressType.code]
  next eq => cases type <;> simp [eq, AddressType.code]
  next hh spg ce => cases type <;> simp_all [AddressType.code]

theorem LinkRequest.check_eq_ok_iff {request : LinkRequest} {type : AddressType} :
    request.check = .ok type ↔ request.AsksFor type := by
  rw [LinkRequest.check, LinkRequest.AsksFor, ← AddressType.ofText?_eq_some_iff,
    LinkRequest.place, AddressType.ofText]
  by_cases empty : Text.trim request.uprn = ""
  · simp [empty]
  · cases AddressType.ofText? request.addressType <;> simp [empty]

theorem LinkRequest.AsksFor.unique {request : LinkRequest} {type other : AddressType}
    (h : request.AsksFor type) (h' : request.AsksFor other) : type = other :=
  Except.ok.inj ((LinkRequest.check_eq_ok_iff.2 h).symm.trans (LinkRequest.check_eq_ok_iff.2 h'))

theorem LinkRequest.kind_of_check {request : LinkRequest} {f : Fault}
    (h : request.check = .error f) : f.kind = .badRequest := by
  rw [LinkRequest.check, AddressType.ofText] at h
  split at h
  · cases h
    rfl
  · split at h
    · cases h
    · cases h
      rfl

theorem Pairing.check_eq_ok_iff {code : AccessCode} {c : CollectionCase} :
    Pairing.check code c = .ok () ↔ ⟨code.form, code.caseType, c.type⟩ ∈ Pairing.allowed := by
  simp [Pairing.check, Pairing.isAllowed, Pairing.of]

theorem Pairing.ne_individual_of_allowed :
    ∀ p ∈ Pairing.allowed, p.caseType ≠ .individual := by decide

theorem Pairing.kind_of_check {code : AccessCode} {c : CollectionCase} {f : Fault}
    (h : Pairing.check code c = .error f) :
    f.kind = .badRequest ∧ ⟨code.form, code.caseType, c.type⟩ ∉ Pairing.allowed := by
  by_cases allowed : (Pairing.of code c).isAllowed
  · rw [Pairing.check, if_pos allowed] at h
    cases h
  · rw [Pairing.check, if_neg allowed] at h
    obtain rfl := Except.error.inj h
    exact ⟨rfl, by simpa [Pairing.isAllowed, Pairing.of] using allowed⟩

namespace Link

/-- The type of the case for an address: of the one that stands for it, or of a new one. -/
inductive ComesTo (cases : List CollectionCase) (type : AddressType) : CaseType → Prop
  | vacant (none : cases = []) : ComesTo cases type type.caseType
  | standing {c : CollectionCase} (stands : Stands cases c) : ComesTo cases type c.type

/-- The code is kept, the request is good, the address comes to a case, and code and case may be
paired. -/
def Linkable (r : Registry) (s : MemoryStore) (hash : String) (request : LinkRequest) : Prop :=
  ∃ code type caseType, r.codeIn s hash = some code ∧ request.AsksFor type ∧
    ComesTo (r.casesIn s request.place) type caseType ∧
    ⟨code.form, code.caseType, caseType⟩ ∈ Pairing.allowed

/-- The code is kept and the request is good, but of several cases none is a household. -/
def Unclear (r : Registry) (s : MemoryStore) (hash : String) (request : LinkRequest) : Prop :=
  (∃ code, r.codeIn s hash = some code) ∧ (∃ type, request.AsksFor type) ∧
    2 ≤ (r.casesIn s request.place).length ∧
    ∀ c ∈ r.casesIn s request.place, c.type ≠ .household

/-- A case as it is reported with a request, of any id and made at any time. -/
structure IsReported (settings : LinkSettings) (code : AccessCode) (request : LinkRequest)
    (type : AddressType) (c : CollectionCase) : Prop where
  lines : c.address.line1 = request.line1 ∧ c.address.line2 = request.line2 ∧
    c.address.line3 = request.line3
  town : c.address.town = request.town
  postcode : c.address.postcode = request.postcode
  region : c.address.region = if request.region = none then code.region else request.region
  uprn : c.uprn = Text.trim request.uprn
  addressType : c.address.type = some type
  estabType : c.address.estabType = request.estabType
  level : c.address.level = some
    (if code.form = .establishment ∧ type ≠ .household then .establishment else .unit)
  caseType : c.type = type.caseType
  survey : c.survey = some settings.survey
  exercise : c.exerciseId = code.exerciseId
  capacity : c.capacity = if type = .communal then request.capacity else none
  valid : c.addressInvalid = false
  delivery : c.handDelivery = false
  unreferenced : c.ref = none
  dated : c.created ≠ none

/-- An individual case at the address of a household, of any id and made at any time. -/
structure IsIndividualOf (household c : CollectionCase) : Prop where
  address : c.address = household.address
  caseType : c.type = .individual
  survey : c.survey = household.survey
  exercise : c.exerciseId = household.exerciseId
  delivery : c.handDelivery = household.handDelivery
  capacity : c.capacity = none
  valid : c.addressInvalid = false
  unreferenced : c.ref = none
  dated : c.created ≠ none

/-- The case for an address, and what is done to report it. -/
inductive Subject (r : Registry) (settings : LinkSettings) (k : Conditions) (s : MemoryStore)
    (code : AccessCode) (request : LinkRequest) (type : AddressType) :
    CollectionCase → List Deed → Prop
  | found {c : CollectionCase} (stands : Stands (r.casesIn s request.place) c) :
    Subject r settings k s code request type c []
  | reported {c : CollectionCase} {id : Uuid} (vacant : r.casesIn s request.place = [])
      (drawn : k.mayDraw s id) (named : c.id = id.text)
      (is : IsReported settings code request type c) :
    Subject r settings k s code request type c [.ofCase r c, .told (reportNotice c)]

/-- The individual case of the respondent, if it takes one, and what is done to make it: nothing if
the code is linked to one at the address already. -/
inductive Respondent (r : Registry) (k : Conditions) (s : MemoryStore) (code : AccessCode)
    (cases : List CollectionCase) (c : CollectionCase) : Option CollectionCase → List Deed → Prop
  | shared (needless : ¬ (code.form = .individual ∧ c.type = .household)) :
    Respondent r k s code cases c none []
  | linked {i : CollectionCase} (needed : code.form = .individual ∧ c.type = .household)
      (member : i ∈ cases) (individual : i.type = .individual) (same : code.caseId = some i.id) :
    Respondent r k s code cases c (some i) []
  | made {i : CollectionCase} {id : Uuid} (needed : code.form = .individual ∧ c.type = .household)
      (unlinked : ∀ d ∈ cases, d.type = .individual → code.caseId ≠ some d.id)
      (drawn : k.mayDraw s id) (named : i.id = id.text) (is : IsIndividualOf c i) :
    Respondent r k s code cases c (some i) [.ofCase r i]

/-- What a link that succeeds does and shows. The new case comes first, then the individual case,
and the code last, which is linked to the case of its respondent. -/
def Linked (r : Registry) (settings : LinkSettings) (k : Conditions) (s : MemoryStore)
    (hash : String) (request : LinkRequest) (ds : List Deed) (v : CodeView) : Prop :=
  ∃ code type c individual reported accompanied,
    r.codeIn s hash = some code ∧ request.AsksFor type ∧
    Subject r settings k s code request type c reported ∧
    Respondent r k (s.after reported) code (r.casesIn s request.place) c individual accompanied ∧
    ds = reported ++ accompanied ++ [.ofCode r (linkedTo (individual.getD c) code),
      .told (linkNotice code c individual)] ∧
    v = CodeView.merged (individual.getD c) (linkedTo (individual.getD c) code)

variable {r : Registry} {settings : LinkSettings} {k : Conditions} {s : MemoryStore}

theorem isReported_reportedCase (id : Uuid) (created : Instant) (code : AccessCode)
    (request : LinkRequest) (type : AddressType) (settings : LinkSettings) :
    IsReported settings code request type
      (reportedCase id created code request type settings) where
  lines := ⟨rfl, rfl, rfl⟩
  town := rfl
  postcode := rfl
  region := by cases eq : request.region <;> simp [reportedCase, eq]
  uprn := rfl
  addressType := rfl
  estabType := rfl
  level := by cases form : code.form <;> cases type <;> simp [reportedCase, levelFor, form,
    AddressType.caseType]
  caseType := rfl
  survey := rfl
  exercise := rfl
  capacity := rfl
  valid := rfl
  delivery := rfl
  unreferenced := rfl
  dated := by simp [reportedCase]

theorem isIndividualOf_individualCase (id : Uuid) (created : Instant) (household : CollectionCase) :
    IsIndividualOf household (individualCase id created household) := by
  constructor <;> simp [individualCase]

theorem Respondent.of_accompanies {l : Located} {individual : Option CollectionCase}
    {accompanied : List Deed} (h : Accompanies r k s l individual accompanied) :
    Respondent r k s l.code l.cases l.subject individual accompanied := by
  cases h with
  | alone needless => exact .shared fun needed => by simp [needsIndividual_iff.2 needed] at needless
  | again needed linked =>
    obtain ⟨member, individual, same⟩ := of_linkedIndividual? linked
    exact .linked (needsIndividual_iff.1 needed) member individual same
  | anew needed unlinked drawn =>
    exact .made (needsIndividual_iff.1 needed) (linkedIndividual?_eq_none_iff.1 unlinked) drawn rfl
      (isIndividualOf_individualCase _ _ _)

/-- What has been found out is the case for the address. -/
theorem Subject.of_locates {hash : String} {request : LinkRequest} (placed : r.Placed s)
    {l : Located} (h : Locates r settings k s hash request (.ok l)) :
    r.codeIn s hash = some l.code ∧ l.cases = r.casesIn s request.place ∧
      ∃ type, request.AsksFor type ∧
        Subject r settings k s l.code request type l.subject (l.reports r) := by
  cases h with
  | settled found check resolved =>
    have stands := (resolve_eq_settled_iff (r.nodup_ids_casesIn placed _)).1 resolved
    exact ⟨found, rfl, _, LinkRequest.check_eq_ok_iff.1 check, .found stands⟩
  | vacant found check resolved drawn =>
    refine ⟨found, rfl, _, LinkRequest.check_eq_ok_iff.1 check, ?_⟩
    exact .reported (resolve_eq_vacant_iff.1 resolved) drawn rfl
      (isReported_reportedCase _ _ _ _ _ _)

section Steady

variable {hash : String} {request : LinkRequest} {ds : List Deed} {l : Located}

/-- What an address comes to is the type of the case that has been found out. -/
theorem Locates.comesTo_iff (placed : r.Placed s)
    (h : Locates r settings k s hash request (.ok l)) {type : AddressType} {caseType : CaseType}
    (asks : request.AsksFor type) :
    ComesTo (r.casesIn s request.place) type caseType ↔ caseType = l.subject.type := by
  have stands (c : CollectionCase) := resolve_eq_settled_iff (c := c)
    (r.nodup_ids_casesIn placed request.place)
  cases h with
  | settled found check resolved =>
    constructor
    · intro comes
      cases comes with
      | vacant none => simp [none, resolve] at resolved
      | standing other =>
        rw [(stands _).2 other] at resolved
        cases resolved
        rfl
    · rintro rfl
      exact .standing ((stands _).1 resolved)
  | vacant found check resolved drawn =>
    have none := resolve_eq_vacant_iff.1 resolved
    have same := asks.unique (LinkRequest.check_eq_ok_iff.1 check)
    constructor
    · intro comes
      cases comes with
      | vacant _ => rw [same]; rfl
      | standing other =>
        rw [none] at other
        cases other.mem
    · rintro rfl
      subst same
      exact .vacant none

/-- A link that fails on a store that does not fail has done nothing, and its fault says why. -/
theorem refused_of_steady (steady : k.Steady) (named : r.WellNamed) (placed : r.Placed s)
    {f : Fault} (run : (link r settings hash request).Does k s ds (.error f)) :
    ds = [] ∧ ¬ Linkable r s hash request ∧
      ((f.kind = .notFound ∧ r.codeIn s hash = none) ∨
        (f.kind = .system ∧ Unclear r s hash request) ∨
        (f.kind = .badRequest ∧ r.codeIn s hash ≠ none ∧ ¬ Unclear r s hash request)) := by
  rcases does_link named placed run with ⟨f, eq, rfl, ends⟩ | ⟨l, found, ends⟩
  · cases eq
    cases ends with
    | codeUnread fails => exact absurd fails (steady.sure _)
    | unknown absent =>
      refine ⟨rfl, ?_, .inl ⟨rfl, absent⟩⟩
      rintro ⟨code, _, _, found, _⟩
      simp [absent] at found
    | refused found check =>
      have unasked (type : AddressType) : ¬ request.AsksFor type := fun asks => by
        simp [LinkRequest.check_eq_ok_iff.2 asks] at check
      refine ⟨rfl, ?_, .inr (.inr ⟨LinkRequest.kind_of_check check, by simp [found], ?_⟩)⟩
      · rintro ⟨_, type, _, _, asks, _⟩
        exact unasked type asks
      · rintro ⟨_, ⟨type, asks⟩, _⟩
        exact unasked type asks
    | casesUnread _ _ fails => exact absurd fails (steady.sure _)
    | unclear found check resolved =>
      obtain ⟨rfl, several, none⟩ := resolve_eq_unclear_iff.1 resolved
      have asks := LinkRequest.check_eq_ok_iff.1 check
      refine ⟨rfl, ?_, .inr (.inl ⟨rfl, ⟨_, found⟩, ⟨_, asks⟩, several, none⟩)⟩
      rintro ⟨_, _, _, _, _, comes, _⟩
      cases comes with
      | vacant empty => simp [empty] at several
      | standing stands =>
        rw [(resolve_eq_settled_iff (r.nodup_ids_casesIn placed _)).2 stands] at resolved
        cases resolved
  · cases ends with
    | refused check =>
      obtain ⟨kind, notAllowed⟩ := Pairing.kind_of_check check
      refine ⟨rfl, ?_, .inr (.inr ⟨kind, by simp [found.codeIn_eq], ?_⟩)⟩
      · rintro ⟨code, type, caseType, kept, asks, comes, allowed⟩
        rw [found.codeIn_eq] at kept
        obtain rfl := Option.some.inj kept
        rw [(found.comesTo_iff placed asks).1 comes] at allowed
        exact notAllowed allowed
      · rintro ⟨_, _, several, none⟩
        have unclear := resolve_eq_unclear_iff.2 ⟨rfl, several, none⟩
        cases found with
        | settled _ _ resolved => simp [unclear] at resolved
        | vacant _ _ resolved _ => simp [unclear] at resolved
    | unreported _ _ fails => exact absurd fails (steady.sure _)
    | unaccompanied _ _ _ _ fails => exact absurd fails (steady.sure _)
    | unlinked _ _ fails => exact absurd fails (steady.sure _)

/-- A link that succeeds was possible, and has linked the code. -/
theorem linked_of_does (named : r.WellNamed) (placed : r.Placed s) {v : CodeView}
    (run : (link r settings hash request).Does k s ds (.ok v)) :
    Linkable r s hash request ∧ Linked r settings k s hash request ds v := by
  rcases does_link named placed run with ⟨f, eq, _⟩ | ⟨l, located, ends⟩
  · cases eq
  obtain ⟨found, cases_eq, type, asks, subject⟩ := Subject.of_locates placed located
  cases ends with
  | @linked individual accompanied check company =>
    have allowed := Pairing.check_eq_ok_iff.1 check
    have comes := (located.comesTo_iff placed asks).2 rfl
    refine ⟨⟨l.code, type, _, found, asks, comes, allowed⟩, ?_⟩
    exact ⟨l.code, type, l.subject, individual, l.reports r, accompanied, found, asks, subject,
      cases_eq ▸ Respondent.of_accompanies company, rfl, rfl⟩

/-- A link that succeeds changes nothing of its code but the case, and no other code. -/
theorem Linked.codeIn_after (named : r.WellNamed) (placed : r.Placed s) {v : CodeView}
    (linked : Linked r settings k s hash request ds v) :
    ∃ code id, r.codeIn s hash = some code ∧ ∀ other, r.codeIn (s.after ds) other =
      if other = hash then some { code with caseId := some id } else r.codeIn s other := by
  obtain ⟨code, type, c, individual, reported, accompanied, found, _, subject, company, rfl, _⟩ :=
    linked
  have mine : code.hash = hash := r.hash_of_codeIn placed found
  have first (other : String) : r.codeIn (s.after reported) other = r.codeIn s other := by
    cases subject with
    | found _ => rfl
    | reported _ _ _ _ => exact r.codeIn_ofCase named s c other
  have second (other : String) :
      r.codeIn ((s.after reported).after accompanied) other = r.codeIn s other := by
    cases company with
    | shared _ => exact first other
    | linked _ _ _ _ => exact first other
    | made _ _ _ _ _ => exact (r.codeIn_ofCase named _ _ other).trans (first other)
  refine ⟨code, (individual.getD c).id, found, fun other => ?_⟩
  rw [MemoryStore.after_append, MemoryStore.after_append]
  refine (r.codeIn_ofCode _ (linkedTo (individual.getD c) code) other).trans ?_
  rw [second, show (linkedTo (individual.getD c) code).hash = hash from mine]
  rfl

end Steady

/-- A link on a store that does not fail comes to an end. It succeeds exactly if the code, the
request and the cases at the address allow it; then it has done just what linking takes, and shows
the case and the code as they are kept from then on. Otherwise it has done nothing, and the kind of
its fault tells an unknown code, an unclear address, and all else from one another. -/
theorem link_on_steady_store (steady : k.Steady) (named : r.WellNamed) (placed : r.Placed s)
    (settings : LinkSettings) (hash : String) (request : LinkRequest) :
    (∃ t o s', Program.RunsOn k.Allows (link r settings hash request).run s t o s') ∧
    ∀ t o s', Program.RunsOn k.Allows (link r settings hash request).run s t o s' →
      ((∃ v, o = .ok v) ↔ Linkable r s hash request) ∧
      (∀ v, o = .ok v → Linked r settings k s hash request t.deeds v ∧ s' = s.after t.deeds) ∧
      ∀ f, o = .error f → t.deeds = [] ∧ s' = s ∧
        (f.kind = .notFound ↔ r.codeIn s hash = none) ∧
        (f.kind = .system ↔ Unclear r s hash request) ∧
        (f.kind = .badRequest ↔ r.codeIn s hash ≠ none ∧ ¬ Unclear r s hash request) := by
  refine ⟨Program.exists_runsOn (Conditions.exists_allows steady.draws) _ s, ?_⟩
  intro t o s' run
  obtain ⟨does, after⟩ := Service.does_of_runsOn run
  cases o with
  | ok v =>
    obtain ⟨linkable, linked⟩ := linked_of_does named placed does
    refine ⟨⟨fun _ => linkable, fun _ => ⟨v, rfl⟩⟩, ?_, ?_⟩
    · rintro _ ⟨⟩
      exact ⟨linked, after⟩
    · rintro _ ⟨⟩
  | error f =>
    obtain ⟨idle, unlinkable, kind⟩ := refused_of_steady steady named placed does
    refine ⟨⟨?_, fun linkable => absurd linkable unlinkable⟩, ?_, ?_⟩
    · rintro ⟨_, ⟨⟩⟩
    · rintro _ ⟨⟩
    · rintro _ ⟨⟩
      refine ⟨idle, by rw [after, idle, MemoryStore.after_nil], ?_⟩
      have kept (unclear : Unclear r s hash request) : r.codeIn s hash ≠ none := by
        obtain ⟨⟨code, found⟩, _⟩ := unclear
        simp [found]
      rcases kind with ⟨eq, absent⟩ | ⟨eq, unclear⟩ | ⟨eq, found, clear⟩
      · simp only [eq, absent]
        exact ⟨by simp, by simpa using fun unclear => kept unclear absent, by simp⟩
      · simp [eq, unclear, kept unclear]
      · simp [eq, found, clear]

theorem sample_stands : Stands (Sample.registry.casesIn Sample.store "100")
    (Sample.household "b") := by
  rw [Sample.casesIn_store]
  refine .latest (by decide) (by decide) rfl fun d hd _ ne => ?_
  simp only [List.mem_cons, List.not_mem_nil, or_false] at hd
  rcases hd with rfl | rfl
  · exact .inr ⟨rfl, by decide⟩
  · exact absurd rfl ne

/-- The code of the example is linked at its address. -/
theorem link_on_steady_store_sample :
    Conditions.calm.Steady ∧ Sample.registry.WellNamed ∧ Sample.registry.Placed Sample.store ∧
    ∃ t v s', Program.RunsOn Conditions.calm.Allows
        (link Sample.registry .standard "code" (.of " 100 " "HH")).run Sample.store t (.ok v) s' ∧
      Linked Sample.registry .standard Conditions.calm Sample.store "code" (.of " 100 " "HH")
        t.deeds v := by
  obtain ⟨⟨t, o, s', run⟩, meaning⟩ := link_on_steady_store Conditions.steady_calm Sample.wellNamed
    Sample.placed .standard "code" (.of " 100 " "HH")
  have place : (LinkRequest.of " 100 " "HH").place = "100" := by decide +kernel
  have linkable : Linkable Sample.registry Sample.store "code" (.of " 100 " "HH") := by
    refine ⟨Sample.code, .household, .household, Sample.codeIn_store, ?_, ?_, by decide⟩
    · exact ⟨by decide +kernel, by decide +kernel⟩
    · rw [place]
      exact .standing sample_stands
  obtain ⟨v, rfl⟩ := (meaning t o s' run).1.2 linkable
  exact ⟨Conditions.steady_calm, Sample.wellNamed, Sample.placed, t, v, s', run,
    ((meaning t _ s' run).2.1 v rfl).1⟩

end Link
end CensusLink
