import CensusLink.Proofs.Linking.Resolution
import CensusLink.Proofs.Registry.Placed

/-!
The course of a link on a store in memory. A link first finds out which code, which case and whether
the case is new, and writes nothing; then it writes up to three times: the new case, the individual
case and the code. Each write may fail and ends the link. The main statements say for both parts
which deeds and which outcomes there can be, no more and no fewer.
-/
namespace CensusLink.Link

/-- What a link has found out before it writes. -/
structure Located where
  code : AccessCode
  cases : List CollectionCase
  subject : CollectionCase
  isNew : Bool

section Parts

variable (r : Registry) (settings : LinkSettings)

/-- The part of a link that only reads. -/
def locate (hash : String) (request : LinkRequest) : Service Located := do
  let code ← findCode r hash
  let type ← Service.of request.check
  let cases ← r.casesAt request.place
  let (c, isNew) ← findCase settings code request type cases
  pure ⟨code, cases, c, isNew⟩

/-- A code that is linked to a case. -/
def linkedTo (c : CollectionCase) (code : AccessCode) : AccessCode :=
  { code with caseId := some c.id }

/-- The code as it is linked to the case of its respondent. -/
def Located.linkedCode (l : Located) (individual : Option CollectionCase) : AccessCode :=
  linkedTo (individual.getD l.subject) l.code

def report (l : Located) : Service Unit := if l.isNew then reportCase r l.subject else pure ()

/-- The part of a link that writes. -/
def complete (l : Located) : Service CodeView := do
  Service.of (Pairing.check l.code l.subject)
  report r l
  let individual ← findIndividual r l.code l.subject (linkedIndividual? l.code l.cases)
  r.writeCode (l.linkedCode individual)
  announce .questionnaireLinked
    (.ofLink l.code.questionnaireId l.subject.id (individual.map (·.id)))
  pure (CodeView.merged (individual.getD l.subject) (l.linkedCode individual))

theorem link_eq (hash : String) (request : LinkRequest) :
    link r settings hash request = locate r settings hash request >>= complete r := by
  simp only [link, locate, complete, report, bind_assoc, pure_bind, Located.linkedCode,
    linkedTo]
  refine bind_congr fun code => bind_congr fun type => bind_congr fun cases => bind_congr ?_
  rintro ⟨c, isNew⟩
  refine bind_congr fun _ => ?_
  cases isNew <;> rfl

end Parts

def reportNotice (c : CollectionCase) : Notice :=
  ⟨.newAddressReported, .respondentHome, .respondent, .ofNewCase c⟩

def linkNotice (code : AccessCode) (c : CollectionCase) (individual : Option CollectionCase) :
    Notice :=
  ⟨.questionnaireLinked, .respondentHome, .respondent,
    .ofLink code.questionnaireId c.id (individual.map (·.id))⟩

variable {r : Registry} {settings : LinkSettings} {k : Conditions} {s : MemoryStore}
  {ds : List Deed}

theorem announce_yields (type : EventType) (a : Announcement) :
    (announce type a).Yields k s () [.told ⟨type, .respondentHome, .respondent, a⟩] False := by
  intro ds o
  rw [announce, Service.does_bind_iff]
  constructor
  · rintro (⟨e, first, _⟩ | ⟨x, ds₁, ds₂, rfl, first, second⟩)
    · obtain ⟨_, eq, _⟩ := Service.does_attempt_iff.1 first
      cases eq
    · obtain ⟨_, _, told⟩ := Service.does_attempt_iff.1 first
      obtain ⟨rfl, rfl⟩ := Service.does_pure_iff.1 second
      exact .inl ⟨rfl, by rw [Service.does_publish_iff.1 told]; rfl⟩
  · rintro (⟨rfl, rfl⟩ | ⟨never, _⟩)
    · refine .inr ⟨.ok (), [_], [], rfl, Service.does_attempt_iff.2 ⟨.ok (), rfl, ?_⟩, ?_⟩
      · exact Service.does_publish_iff.2 rfl
      · exact Service.does_pure_iff.2 ⟨rfl, rfl⟩
    · exact never.elim

/-- The endings of the part of a link that reads. -/
inductive Locates (r : Registry) (settings : LinkSettings) (k : Conditions) (s : MemoryStore)
    (hash : String) (request : LinkRequest) : Except Fault Located → Prop
  | codeUnread {f : Fault} (fails : k.mayFail (.retrieve r.schemas.accessCode hash)) :
    Locates r settings k s hash request (.error f)
  | unknown (absent : r.codeIn s hash = none) :
    Locates r settings k s hash request (.error (unknownCode hash))
  | refused {code : AccessCode} {f : Fault} (found : r.codeIn s hash = some code)
      (check : request.check = .error f) : Locates r settings k s hash request (.error f)
  | casesUnread {code : AccessCode} {type : AddressType} {f : Fault}
      (found : r.codeIn s hash = some code) (check : request.check = .ok type)
      (fails : k.mayFail (.search r.schemas.case Registry.uprnPath request.place)) :
    Locates r settings k s hash request (.error f)
  | unclear {code : AccessCode} {type : AddressType} {count : Nat}
      (found : r.codeIn s hash = some code) (check : request.check = .ok type)
      (resolved : resolve (r.casesIn s request.place) = .unclear count) :
    Locates r settings k s hash request (.error (noHousehold count request.place))
  | settled {code : AccessCode} {type : AddressType} {c : CollectionCase}
      (found : r.codeIn s hash = some code) (check : request.check = .ok type)
      (resolved : resolve (r.casesIn s request.place) = .settled c) :
    Locates r settings k s hash request (.ok ⟨code, r.casesIn s request.place, c, false⟩)
  | vacant {code : AccessCode} {type : AddressType} {id : Uuid} {created : Instant}
      (found : r.codeIn s hash = some code) (check : request.check = .ok type)
      (resolved : resolve (r.casesIn s request.place) = .vacant) (drawn : k.mayDraw s id) :
    Locates r settings k s hash request (.ok ⟨code, r.casesIn s request.place,
      reportedCase id created code request type settings, true⟩)

theorem does_findCase_iff {code : AccessCode} {request : LinkRequest} {type : AddressType}
    {cases : List CollectionCase} {o : Except Fault (CollectionCase × Bool)} :
    (findCase settings code request type cases).Does k s ds o ↔ ds = [] ∧
      match resolve cases with
      | .settled c => o = .ok (c, false)
      | .unclear count => o = .error (noHousehold count request.place)
      | .vacant => ∃ id created, k.mayDraw s id ∧
          o = .ok (reportedCase id created code request type settings, true) := by
  rw [findCase]
  cases resolve cases with
  | settled c => exact Service.does_pure_iff
  | unclear count => exact Service.does_throw_iff
  | vacant =>
    refine Service.does_freshId_bind_iff.trans ?_
    simp only [Service.does_now_bind_iff, Service.does_pure_iff]
    constructor
    · rintro ⟨id, drawn, created, rfl, eq⟩
      exact ⟨rfl, id, created, drawn, eq⟩
    · rintro ⟨rfl, id, created, drawn, eq⟩
      exact ⟨id, drawn, created, rfl, eq⟩

theorem findCode_yields (named : r.WellNamed) (placed : r.Placed s) {hash : String}
    {code : AccessCode} (found : r.codeIn s hash = some code) :
    (findCode r hash).Yields k s code [] (k.mayFail (.retrieve r.schemas.accessCode hash)) :=
  (r.readCode_yields named placed hash).bind_pure (by rw [found])

theorem does_findCode_of_none (named : r.WellNamed) (placed : r.Placed s) {hash : String}
    (absent : r.codeIn s hash = none) {o : Except Fault AccessCode} :
    (findCode r hash).Does k s ds o ↔
      (k.mayFail (.retrieve r.schemas.accessCode hash) ∧ (∃ f, o = .error f) ∧ ds = []) ∨
        (ds = [] ∧ o = .error (unknownCode hash)) := by
  rw [findCode, (r.readCode_yields named placed hash).bind_iff, absent]
  refine or_congr_right ⟨?_, ?_⟩
  · rintro ⟨ds', rfl, thrown⟩
    exact Service.does_throw_iff.1 thrown
  · rintro ⟨rfl, rfl⟩
    exact ⟨[], rfl, Service.does_throw_iff.2 ⟨rfl, rfl⟩⟩

/-- Finding out writes nothing, and ends in one of these ways. -/
theorem Locates.of_does (named : r.WellNamed) (placed : r.Placed s) {hash : String}
    {request : LinkRequest} {o : Except Fault Located}
    (run : (locate r settings hash request).Does k s ds o) :
    ds = [] ∧ Locates r settings k s hash request o := by
  cases found : r.codeIn s hash with
  | none =>
    rcases Service.does_bind_iff.1 run with ⟨f, first, rfl⟩ | ⟨code, _, _, rfl, first, _⟩
    · rcases (does_findCode_of_none named placed found).1 first with ⟨fails, _, rfl⟩ | ⟨rfl, eq⟩
      · exact ⟨rfl, .codeUnread fails⟩
      · cases eq
        exact ⟨rfl, .unknown found⟩
    · rcases (does_findCode_of_none named placed found).1 first with ⟨_, ⟨_, eq⟩, _⟩ | ⟨_, eq⟩
      · cases eq
      · cases eq
  | some code =>
    rcases (findCode_yields named placed found).bind_iff.1 run with
      ⟨fails, ⟨f, rfl⟩, rfl⟩ | ⟨_, rfl, checking⟩
    · exact ⟨rfl, .codeUnread fails⟩
    rcases Service.does_of_bind_iff.1 checking with ⟨f, check, rfl, rfl⟩ | ⟨type, check, searching⟩
    · exact ⟨rfl, .refused found check⟩
    rcases (r.casesAt_yields named placed request.place).bind_iff.1 searching with
      ⟨fails, ⟨f, rfl⟩, rfl⟩ | ⟨_, rfl, resolving⟩
    · exact ⟨rfl, .casesUnread found check fails⟩
    rcases Service.does_bind_iff.1 resolving with
      ⟨f, first, rfl⟩ | ⟨⟨c, isNew⟩, _, _, rfl, first, last⟩
    · obtain ⟨rfl, ends⟩ := does_findCase_iff.1 first
      refine ⟨rfl, ?_⟩
      cases resolved : resolve (r.casesIn s request.place) with
      | settled c => simp [resolved] at ends
      | vacant => simp [resolved] at ends
      | unclear count =>
        rw [resolved] at ends
        cases ends
        exact .unclear found check resolved
    · obtain ⟨rfl, rfl⟩ := Service.does_pure_iff.1 last
      obtain ⟨rfl, ends⟩ := does_findCase_iff.1 first
      refine ⟨rfl, ?_⟩
      cases resolved : resolve (r.casesIn s request.place) with
      | settled c =>
        rw [resolved] at ends
        cases ends
        exact .settled found check resolved
      | vacant =>
        rw [resolved] at ends
        obtain ⟨id, created, drawn, eq⟩ := ends
        obtain ⟨rfl, rfl⟩ := Prod.mk.inj (Except.ok.inj eq)
        exact .vacant found check resolved drawn
      | unclear count => simp [resolved] at ends

/-- Every way to find out a case is open to a link. -/
theorem Locates.does (named : r.WellNamed) (placed : r.Placed s) {hash : String}
    {request : LinkRequest} {l : Located} (h : Locates r settings k s hash request (.ok l)) :
    (locate r settings hash request).Does k s [] (.ok l) := by
  have reading {code : AccessCode} {type : AddressType} {c : CollectionCase} {isNew : Bool}
      (found : r.codeIn s hash = some code) (check : request.check = .ok type)
      (resolves : (findCase settings code request type (r.casesIn s request.place)).Does k s []
        (.ok (c, isNew))) :
      (locate r settings hash request).Does k s []
        (.ok ⟨code, r.casesIn s request.place, c, isNew⟩) := by
    refine (findCode_yields named placed found).bind_iff.2 (.inr ⟨[], rfl, ?_⟩)
    refine Service.does_of_bind_iff.2 (.inr ⟨type, check, ?_⟩)
    refine (r.casesAt_yields named placed request.place).bind_iff.2 (.inr ⟨[], rfl, ?_⟩)
    refine Service.does_bind_iff.2 (.inr ⟨(c, isNew), [], [], rfl, resolves, ?_⟩)
    exact Service.does_pure_iff.2 ⟨rfl, rfl⟩
  cases h with
  | settled found check resolved =>
    exact reading found check (does_findCase_iff.2 ⟨rfl, by rw [resolved]⟩)
  | @vacant code type id created found check resolved drawn =>
    refine reading found check (does_findCase_iff.2 ⟨rfl, ?_⟩)
    rw [resolved]
    exact ⟨id, created, drawn, rfl⟩

theorem Locates.codeIn_eq {hash : String} {request : LinkRequest} {l : Located}
    (h : Locates r settings k s hash request (.ok l)) : r.codeIn s hash = some l.code := by
  cases h with
  | settled found _ _ => exact found
  | vacant found _ _ _ => exact found

theorem Locates.cases_eq {hash : String} {request : LinkRequest} {l : Located}
    (h : Locates r settings k s hash request (.ok l)) :
    l.cases = r.casesIn s request.place := by
  cases h with
  | settled _ _ _ => rfl
  | vacant _ _ _ _ => rfl

/-- The deeds by which a new case is reported. -/
def Located.reports (r : Registry) (l : Located) : List Deed :=
  if l.isNew then [.ofCase r l.subject, .told (reportNotice l.subject)] else []

/-- The deeds by which the code is linked. -/
def Located.links (r : Registry) (l : Located) (individual : Option CollectionCase) : List Deed :=
  [.ofCode r (l.linkedCode individual), .told (linkNotice l.code l.subject individual)]

/-- The individual case that a link comes to, if it needs one, and what is done for it. -/
inductive Accompanies (r : Registry) (k : Conditions) (s : MemoryStore) (l : Located) :
    Option CollectionCase → List Deed → Prop
  | alone (needless : needsIndividual l.code l.subject = false) : Accompanies r k s l none []
  | again {c : CollectionCase} (needed : needsIndividual l.code l.subject = true)
      (linked : linkedIndividual? l.code l.cases = some c) : Accompanies r k s l (some c) []
  | anew {id : Uuid} {created : Instant} (needed : needsIndividual l.code l.subject = true)
      (unlinked : linkedIndividual? l.code l.cases = none) (drawn : k.mayDraw s id) :
    Accompanies r k s l (some (individualCase id created l.subject))
      [.ofCase r (individualCase id created l.subject)]

/-- The endings of the part of a link that writes, with the deeds up to there. -/
inductive Completes (r : Registry) (k : Conditions) (s : MemoryStore) (l : Located) :
    List Deed → Except Fault CodeView → Prop
  | refused {f : Fault} (check : Pairing.check l.code l.subject = .error f) :
    Completes r k s l [] (.error f)
  | unreported {f : Fault} (check : Pairing.check l.code l.subject = .ok ())
      (new : l.isNew = true)
      (fails : k.mayFail (.store r.schemas.case l.subject.id (Wire.toDocument l.subject))) :
    Completes r k s l [] (.error f)
  | unaccompanied {f : Fault} {id : Uuid} {created : Instant}
      (check : Pairing.check l.code l.subject = .ok ())
      (needed : needsIndividual l.code l.subject = true)
      (unlinked : linkedIndividual? l.code l.cases = none)
      (drawn : k.mayDraw (s.after (l.reports r)) id)
      (fails : k.mayFail (.store r.schemas.case (individualCase id created l.subject).id
        (Wire.toDocument (individualCase id created l.subject)))) :
    Completes r k s l (l.reports r) (.error f)
  | unlinked {f : Fault} {individual : Option CollectionCase} {accompanied : List Deed}
      (check : Pairing.check l.code l.subject = .ok ())
      (company : Accompanies r k (s.after (l.reports r)) l individual accompanied)
      (fails : k.mayFail (.store r.schemas.accessCode l.code.hash
        (Wire.toDocument (l.linkedCode individual)))) :
    Completes r k s l (l.reports r ++ accompanied) (.error f)
  | linked {individual : Option CollectionCase} {accompanied : List Deed}
      (check : Pairing.check l.code l.subject = .ok ())
      (company : Accompanies r k (s.after (l.reports r)) l individual accompanied) :
    Completes r k s l (l.reports r ++ accompanied ++ l.links r individual)
      (.ok (CodeView.merged (individual.getD l.subject) (l.linkedCode individual)))

theorem reportCase_yields (named : r.WellNamed) (c : CollectionCase) :
    (reportCase r c).Yields k s () [.ofCase r c, .told (reportNotice c)]
      (k.mayFail (.store r.schemas.case c.id (Wire.toDocument c))) :=
  (r.writeCase_yields named c).bind_sure (announce_yields _ _)

/-- A new individual case is made, unless it cannot be kept. -/
theorem does_newIndividual_iff (named : r.WellNamed) {household : CollectionCase}
    {o : Except Fault (Option CollectionCase)} :
    Service.Does k (newIndividual r household >>= fun c => pure (some c)) s ds o ↔
      ∃ id created, k.mayDraw s id ∧
        ((o = .ok (some (individualCase id created household)) ∧
            ds = [.ofCase r (individualCase id created household)]) ∨
          (k.mayFail (.store r.schemas.case (individualCase id created household).id
            (Wire.toDocument (individualCase id created household))) ∧
              (∃ f, o = .error f) ∧ ds = [])) := by
  have split : (newIndividual r household >>= fun c => pure (some c)) =
      Service.freshId >>= fun id => Service.now >>= fun created =>
        r.writeCase (individualCase id created household) >>= fun _ =>
          pure (some (individualCase id created household)) := by
    simp only [newIndividual, bind_assoc, pure_bind]
  rw [split]
  refine Service.does_freshId_bind_iff.trans (exists_congr fun id => ?_)
  rw [Service.does_now_bind_iff, ← exists_and_left]
  refine exists_congr fun created => and_congr_right fun _ => ?_
  have kept := @Registry.writeCase_yields r k s named (individualCase id created household)
  have made := @Service.Yields.bind_pure _ _ k s _
    (fun _ => pure (some (individualCase id created household))) _ _ _ kept _ rfl
  exact made ds o

/-- The individual case is found or made, or making it fails. -/
theorem does_findIndividual_iff (named : r.WellNamed) {l : Located}
    {o : Except Fault (Option CollectionCase)} :
    (findIndividual r l.code l.subject (linkedIndividual? l.code l.cases)).Does k s ds o ↔
      (∃ individual, o = .ok individual ∧ Accompanies r k s l individual ds) ∨
        ((∃ f, o = .error f) ∧ ds = [] ∧ needsIndividual l.code l.subject = true ∧
          linkedIndividual? l.code l.cases = none ∧ ∃ id created, k.mayDraw s id ∧
            k.mayFail (.store r.schemas.case (individualCase id created l.subject).id
              (Wire.toDocument (individualCase id created l.subject)))) := by
  simp only [findIndividual]
  cases needed : needsIndividual l.code l.subject with
  | false =>
    rw [if_neg Bool.false_ne_true, Service.does_pure_iff]
    constructor
    · rintro ⟨rfl, rfl⟩
      exact .inl ⟨none, rfl, .alone needed⟩
    · rintro (⟨individual, rfl, company⟩ | ⟨_, _, impossible, _⟩)
      · cases company with
        | alone _ => exact ⟨rfl, rfl⟩
        | again needed' _ => simp [needed] at needed'
        | anew needed' _ _ => simp [needed] at needed'
      · cases impossible
  | true =>
    rw [if_pos rfl]
    cases linked : linkedIndividual? l.code l.cases with
    | some c =>
      dsimp only
      rw [Service.does_pure_iff]
      constructor
      · rintro ⟨rfl, rfl⟩
        exact .inl ⟨some c, rfl, .again needed linked⟩
      · rintro (⟨individual, rfl, company⟩ | ⟨_, _, _, impossible, _⟩)
        · cases company with
          | alone needless => simp [needed] at needless
          | again _ linked' => exact ⟨rfl, congrArg Except.ok (linked'.symm.trans linked)⟩
          | anew _ unlinked _ => simp [linked] at unlinked
        · cases impossible
    | none =>
      dsimp only
      rw [does_newIndividual_iff named]
      constructor
      · rintro ⟨id, created, drawn, ⟨rfl, rfl⟩ | ⟨fails, failed, rfl⟩⟩
        · exact .inl ⟨_, rfl, .anew needed linked drawn⟩
        · exact .inr ⟨failed, rfl, rfl, rfl, id, created, drawn, fails⟩
      · rintro (⟨individual, rfl, company⟩ | ⟨failed, rfl, _, _, id, created, drawn, fails⟩)
        · cases company with
          | alone needless => simp [needed] at needless
          | again _ linked' => simp [linked] at linked'
          | anew _ _ drawn => exact ⟨_, _, drawn, .inl ⟨rfl, rfl⟩⟩
        · exact ⟨id, created, drawn, .inr ⟨fails, failed, rfl⟩⟩

theorem report_yields (named : r.WellNamed) (l : Located) :
    (report r l).Yields k s () (l.reports r) (l.isNew = true ∧
      k.mayFail (.store r.schemas.case l.subject.id (Wire.toDocument l.subject))) := by
  rw [report, Located.reports]
  cases l.isNew with
  | false => simpa using Service.pure_yields ()
  | true => simpa using reportCase_yields named l.subject

theorem linkCode_yields (named : r.WellNamed) (l : Located) (individual : Option CollectionCase) :
    Service.Yields k (do
        r.writeCode (l.linkedCode individual)
        announce .questionnaireLinked
          (.ofLink l.code.questionnaireId l.subject.id (individual.map (·.id)))
        pure (CodeView.merged (individual.getD l.subject) (l.linkedCode individual))) s
      (CodeView.merged (individual.getD l.subject) (l.linkedCode individual))
      (l.links r individual)
      (k.mayFail (.store r.schemas.accessCode l.code.hash
        (Wire.toDocument (l.linkedCode individual)))) :=
  (r.writeCode_yields named (l.linkedCode individual)).bind_sure
    ((announce_yields _ _).bind_sure (Service.pure_yields _))

/-- What is done once a new case has been reported. -/
theorem does_complete_iff (named : r.WellNamed) {l : Located} {o : Except Fault CodeView} :
    (complete r l).Does k s ds o ↔ Completes r k s l ds o := by
  rw [complete, Service.does_of_bind_iff]
  constructor
  · rintro (⟨f, check, rfl, rfl⟩ | ⟨_, check, writing⟩)
    · exact .refused check
    rcases (report_yields named l).bind_iff.1 writing with
      ⟨⟨new, fails⟩, ⟨f, rfl⟩, rfl⟩ | ⟨ds', rfl, reported⟩
    · exact .unreported check new fails
    rcases Service.does_bind_iff.1 reported with
      ⟨f, first, rfl⟩ | ⟨individual, ds₁, ds₂, rfl, first, last⟩
    · rcases (does_findIndividual_iff named).1 first with
        ⟨_, eq, _⟩ | ⟨_, rfl, needed, unlinked, id, created, drawn, fails⟩
      · cases eq
      · rw [List.append_nil]
        exact .unaccompanied check needed unlinked drawn fails
    · rcases (does_findIndividual_iff named).1 first with ⟨_, eq, company⟩ | ⟨⟨_, eq⟩, _⟩
      · obtain rfl := Except.ok.inj eq
        rw [← List.append_assoc]
        rcases (linkCode_yields named l individual ds₂ o).1 last with
          ⟨rfl, rfl⟩ | ⟨fails, ⟨f, rfl⟩, rfl⟩
        · exact .linked check company
        · rw [List.append_nil]
          exact .unlinked check company fails
      · cases eq
  · intro ends
    cases ends with
    | refused check => exact .inl ⟨_, check, rfl, rfl⟩
    | unreported check new fails =>
      refine .inr ⟨(), check, (report_yields named l).bind_iff.2 (.inl ?_)⟩
      exact ⟨⟨new, fails⟩, ⟨_, rfl⟩, rfl⟩
    | @unaccompanied f id created check needed unlinked drawn fails =>
      refine .inr ⟨(), check, (report_yields named l).bind_iff.2 (.inr ⟨[], by simp, ?_⟩)⟩
      refine Service.does_bind_iff.2 (.inl ⟨f, (does_findIndividual_iff named).2 (.inr ?_), rfl⟩)
      exact ⟨⟨f, rfl⟩, rfl, needed, unlinked, id, created, drawn, fails⟩
    | @unlinked f individual accompanied check company fails =>
      refine .inr ⟨(), check, (report_yields named l).bind_iff.2 (.inr ⟨accompanied, rfl, ?_⟩)⟩
      refine Service.does_bind_iff.2 (.inr ⟨individual, accompanied, [], by simp, ?_, ?_⟩)
      · exact (does_findIndividual_iff named).2 (.inl ⟨individual, rfl, company⟩)
      · exact (linkCode_yields named l individual _ _).2 (.inr ⟨fails, ⟨f, rfl⟩, rfl⟩)
    | @linked individual accompanied check company =>
      refine .inr ⟨(), check, (report_yields named l).bind_iff.2
        (.inr ⟨accompanied ++ l.links r individual, by simp, ?_⟩)⟩
      refine Service.does_bind_iff.2 (.inr ⟨individual, accompanied, _, rfl, ?_, ?_⟩)
      · exact (does_findIndividual_iff named).2 (.inl ⟨individual, rfl, company⟩)
      · exact (linkCode_yields named l individual _ _).2 (.inl ⟨rfl, rfl⟩)

/-- A link that comes to an outcome has found out enough to write, or has written nothing. -/
theorem does_link (named : r.WellNamed) (placed : r.Placed s) {hash : String}
    {request : LinkRequest} {o : Except Fault CodeView}
    (run : (link r settings hash request).Does k s ds o) :
    (∃ f, o = .error f ∧ ds = [] ∧ Locates r settings k s hash request (.error f)) ∨
      ∃ l, Locates r settings k s hash request (.ok l) ∧ Completes r k s l ds o := by
  rw [link_eq] at run
  rcases Service.does_bind_iff.1 run with ⟨f, first, rfl⟩ | ⟨l, ds₁, ds₂, rfl, first, second⟩
  · obtain ⟨rfl, ends⟩ := Locates.of_does named placed first
    exact .inl ⟨f, rfl, rfl, ends⟩
  · obtain ⟨rfl, ends⟩ := Locates.of_does named placed first
    exact .inr ⟨l, ends, (does_complete_iff named).1 second⟩

end CensusLink.Link
