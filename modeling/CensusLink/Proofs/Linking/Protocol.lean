import CensusLink.Proofs.Linking.Course
import CensusLink.Proofs.Retry.Course

/-!
The protocol of a link: which calls it makes of any store whatever, in which order, and how it goes
on with what it is told. It asks for the code and then for the cases at the address, and writes in
at most three stages: a new case, an individual case and the code. A stage is a write under the
retry policy and the notice that follows it, and is only begun when those before it have succeeded.
The main statement says that these are just the traces of a link.
-/
namespace CensusLink

def Registry.codeWrite (r : Registry) (code : AccessCode) : Write :=
  .store r.schemas.accessCode code.hash (Wire.toDocument code)

def Registry.caseWrite (r : Registry) (c : CollectionCase) : Write :=
  .store r.schemas.case c.id (Wire.toDocument c)

namespace Link

section Reading

variable (r : Registry) (settings : LinkSettings) (hash : String) (request : LinkRequest)

/-- The code is asked for, with this outcome. -/
def asksCode (o : Except Fault (Option Document)) : Exchange :=
  ⟨.call (.retrieve r.schemas.accessCode hash), o⟩

/-- The cases at the address are asked for, with this outcome. -/
def asksCases (o : Except Fault (List Document)) : Exchange :=
  ⟨.call (.search r.schemas.case Registry.uprnPath request.place), o⟩

/-- Documents are read one after the other, up to the first that is no case. -/
def readCases (found : List Document) : Except Fault (List CollectionCase) :=
  found.mapM (Records.ofFound r.schemas.case Registry.uprnPath request.place)

/-- What a link asks before it writes, and what it finds out. The cases are only asked for when the
code has been read and the request is good. -/
inductive Inquires : Trace → Except Fault Located → Prop
  | codeUnread (f : Fault) : Inquires [asksCode r hash (.error f)] (.error f)
  | unknown : Inquires [asksCode r hash (.ok none)] (.error (unknownCode hash))
  | codeUnreadable {d : Document} {m : Misfit}
      (misfit : (Wire.ofDocument d : Except Misfit AccessCode) = .error m) :
    Inquires [asksCode r hash (.ok (some d))]
      (.error (Records.unreadable r.schemas.accessCode hash m))
  | refused {d : Document} {code : AccessCode} {f : Fault} (read : Wire.ofDocument d = .ok code)
      (check : request.check = .error f) :
    Inquires [asksCode r hash (.ok (some d))] (.error f)
  | casesUnread {d : Document} {code : AccessCode} {type : AddressType}
      (read : Wire.ofDocument d = .ok code) (check : request.check = .ok type) (f : Fault) :
    Inquires [asksCode r hash (.ok (some d)), asksCases r request (.error f)] (.error f)
  | casesUnreadable {d : Document} {code : AccessCode} {type : AddressType}
      {found : List Document} {f : Fault} (read : Wire.ofDocument d = .ok code)
      (check : request.check = .ok type) (misfit : readCases r request found = .error f) :
    Inquires [asksCode r hash (.ok (some d)), asksCases r request (.ok found)] (.error f)
  | unclear {d : Document} {code : AccessCode} {type : AddressType} {found : List Document}
      {cases : List CollectionCase} {count : Nat} (read : Wire.ofDocument d = .ok code)
      (check : request.check = .ok type) (reads : readCases r request found = .ok cases)
      (resolved : resolve cases = .unclear count) :
    Inquires [asksCode r hash (.ok (some d)), asksCases r request (.ok found)]
      (.error (noHousehold count request.place))
  | settled {d : Document} {code : AccessCode} {type : AddressType} {found : List Document}
      {cases : List CollectionCase} {c : CollectionCase} (read : Wire.ofDocument d = .ok code)
      (check : request.check = .ok type) (reads : readCases r request found = .ok cases)
      (resolved : resolve cases = .settled c) :
    Inquires [asksCode r hash (.ok (some d)), asksCases r request (.ok found)]
      (.ok ⟨code, cases, c, false⟩)
  | vacant {d : Document} {code : AccessCode} {type : AddressType}
      (read : Wire.ofDocument d = .ok code) (check : request.check = .ok type)
      (id : Uuid) (created : Instant) :
    Inquires [asksCode r hash (.ok (some d)), asksCases r request (.ok []),
        ⟨.freshId, id⟩, ⟨.now, created⟩]
      (.ok ⟨code, [], reportedCase id created code request type settings, true⟩)

end Reading

/-- A stage of what a link writes: what is drawn for it, the write, and the notice after it. -/
structure Stage where
  drawn : Trace
  write : Write
  notice : Option Notice

/-- A notice is handed on once; what becomes of it makes no difference. -/
inductive Tells : Option Notice → Trace → Prop
  | nothing : Tells none []
  | notice (n : Notice) (reply : Except Fault Unit) : Tells (some n) [⟨.publish n, reply⟩]

/-- Stages are gone through in order, up to the first of which the write fails. -/
inductive Pursues (p : RetryPolicy) : List Stage → Trace → Except Fault Unit → Prop
  | finished : Pursues p [] [] (.ok ())
  | stopped {stage : Stage} {rest : List Stage} {t : Trace} {f : Fault}
      (fails : stage.write.Persists p t (.error f)) :
    Pursues p (stage :: rest) (stage.drawn ++ t) (.error f)
  | passed {stage : Stage} {rest : List Stage} {t told u : Trace} {o : Except Fault Unit}
      (writes : stage.write.Persists p t (.ok ())) (tells : Tells stage.notice told)
      (more : Pursues p rest u o) :
    Pursues p (stage :: rest) (stage.drawn ++ t ++ told ++ u) o

section Writing

variable (r : Registry) (l : Located)

/-- The stage of a new case. -/
def Located.reportStages : List Stage :=
  if l.isNew then [⟨[], r.caseWrite l.subject, some (reportNotice l.subject)⟩] else []

/-- The stage of the code. -/
def Located.linkStage (individual : Option CollectionCase) : Stage :=
  ⟨[], r.codeWrite (l.linkedCode individual), some (linkNotice l.code l.subject individual)⟩

/-- The stage of a new individual case. -/
def individualStage (id : Uuid) (created : Instant) (household : CollectionCase) : Stage :=
  ⟨[⟨.freshId, id⟩, ⟨.now, created⟩], r.caseWrite (individualCase id created household), none⟩

/-- The individual case of a link, if it needs one, and the stage of it, if it is a new one. -/
inductive Attends : Option CollectionCase → List Stage → Prop
  | alone (needless : needsIndividual l.code l.subject = false) : Attends none []
  | again {c : CollectionCase} (needed : needsIndividual l.code l.subject = true)
      (linked : linkedIndividual? l.code l.cases = some c) : Attends (some c) []
  | anew (needed : needsIndividual l.code l.subject = true)
      (unlinked : linkedIndividual? l.code l.cases = none) (id : Uuid) (created : Instant) :
    Attends (some (individualCase id created l.subject)) [individualStage r id created l.subject]

end Writing

/-- The traces of a link and what it comes to. It writes only if it has found out a case and may
pair the code with it, and then succeeds exactly if all of its stages do. -/
inductive Follows (r : Registry) (settings : LinkSettings) (hash : String)
    (request : LinkRequest) : Trace → Except Fault CodeView → Prop
  | unlocated {t : Trace} {f : Fault} (asks : Inquires r settings hash request t (.error f)) :
    Follows r settings hash request t (.error f)
  | unpaired {t : Trace} {l : Located} {f : Fault}
      (asks : Inquires r settings hash request t (.ok l))
      (check : Pairing.check l.code l.subject = .error f) :
    Follows r settings hash request t (.error f)
  | pursued {t u : Trace} {l : Located} {individual : Option CollectionCase}
      {stages : List Stage} {o : Except Fault Unit}
      (asks : Inquires r settings hash request t (.ok l))
      (check : Pairing.check l.code l.subject = .ok ())
      (attends : Attends r l individual stages)
      (pursues : Pursues r.policy (l.reportStages r ++ stages ++ [l.linkStage r individual]) u o) :
    Follows r settings hash request (t ++ u)
      (o.map fun _ => CodeView.merged (individual.getD l.subject) (l.linkedCode individual))

variable {r : Registry} {settings : LinkSettings} {hash : String} {request : LinkRequest}
  {t : Trace} {p : RetryPolicy} {stages more : List Stage} {l : Located}

theorem runs_findCode_iff {o : Except Fault AccessCode} :
    (findCode r hash).run.Runs t o ↔
      (∃ f, t = [asksCode r hash (.error f)] ∧ o = .error f) ∨
      (t = [asksCode r hash (.ok none)] ∧ o = .error (unknownCode hash)) ∨
      ∃ d, t = [asksCode r hash (.ok (some d))] ∧
        ((∃ m, (Wire.ofDocument d : Except Misfit AccessCode) = .error m ∧
            o = .error (Records.unreadable r.schemas.accessCode hash m)) ∨
          ∃ code, Wire.ofDocument d = .ok code ∧ o = .ok code) := by
  rw [findCode, Registry.readCode, Records.get?, bind_assoc, Service.runs_call_bind_iff]
  refine or_congr_right ⟨?_, ?_⟩
  · rintro ⟨reply, u, rfl, rest⟩
    cases reply with
    | none =>
      obtain ⟨rfl, rfl⟩ := Service.runs_throw_iff.1 rest
      exact .inl ⟨rfl, rfl⟩
    | some d =>
      dsimp only at rest
      cases read : (Wire.ofDocument d : Except Misfit AccessCode) with
      | error m =>
        simp only [read] at rest
        obtain ⟨rfl, rfl⟩ := Service.runs_throw_iff.1 rest
        exact .inr ⟨d, rfl, .inl ⟨m, read, rfl⟩⟩
      | ok code =>
        simp only [read] at rest
        obtain ⟨rfl, rfl⟩ := Service.runs_pure_iff.1 rest
        exact .inr ⟨d, rfl, .inr ⟨code, read, rfl⟩⟩
  · rintro (⟨rfl, rfl⟩ | ⟨d, rfl, ⟨m, read, rfl⟩ | ⟨code, read, rfl⟩⟩)
    · exact ⟨none, [], rfl, Service.runs_throw_iff.2 ⟨rfl, rfl⟩⟩
    · refine ⟨some d, [], rfl, ?_⟩
      simp only [read]
      exact Service.runs_throw_iff.2 ⟨rfl, rfl⟩
    · refine ⟨some d, [], rfl, ?_⟩
      simp only [read]
      exact Service.runs_pure_iff.2 ⟨rfl, rfl⟩

theorem runs_casesAt_iff {o : Except Fault (List CollectionCase)} :
    (r.casesAt request.place).run.Runs t o ↔
      (∃ f, t = [asksCases r request (.error f)] ∧ o = .error f) ∨
      ∃ found, t = [asksCases r request (.ok found)] ∧ o = readCases r request found := by
  refine Iff.trans (Service.runs_call_bind_iff (c := .search _ _ _)) (or_congr_right ⟨?_, ?_⟩)
  · rintro ⟨found, u, rfl, rest⟩
    obtain ⟨rfl, rfl⟩ := Service.runs_of_iff.1 rest
    exact ⟨found, rfl, rfl⟩
  · rintro ⟨found, rfl, rfl⟩
    exact ⟨found, [], rfl, Service.runs_of_iff.2 ⟨rfl, rfl⟩⟩

theorem runs_findCase_iff {code : AccessCode} {type : AddressType} {cases : List CollectionCase}
    {o : Except Fault (CollectionCase × Bool)} :
    (findCase settings code request type cases).run.Runs t o ↔
      match resolve cases with
      | .settled c => t = [] ∧ o = .ok (c, false)
      | .unclear count => t = [] ∧ o = .error (noHousehold count request.place)
      | .vacant => ∃ id created, t = [⟨.freshId, id⟩, ⟨.now, created⟩] ∧
          o = .ok (reportedCase id created code request type settings, true) := by
  rw [findCase]
  cases resolve cases with
  | settled c => exact Service.runs_pure_iff
  | unclear count => exact Service.runs_throw_iff
  | vacant =>
    refine Service.runs_freshId_bind_iff.trans ?_
    simp only [Service.runs_now_bind_iff, Service.runs_pure_iff]
    constructor
    · rintro ⟨id, _, rfl, created, _, rfl, rfl, rfl⟩
      exact ⟨id, created, rfl, rfl⟩
    · rintro ⟨id, created, rfl, rfl⟩
      exact ⟨id, _, rfl, created, _, rfl, rfl, rfl⟩

theorem readCases_eq_ok_iff {found : List Document} {cases : List CollectionCase} :
    readCases r request found = .ok cases ↔
      (∀ d ∈ found, ∃ c : CollectionCase, Wire.ofDocument d = .ok c) ∧
        cases = found.filterMap Document.read? := Registry.mapM_ofFound_eq_ok_iff

/-- No case is read only if no document is found. -/
theorem eq_nil_of_readCases {found : List Document} (h : readCases r request found = .ok []) :
    found = [] := by
  obtain ⟨all, none⟩ := readCases_eq_ok_iff.1 h
  refine List.eq_nil_iff_forall_not_mem.2 fun d hd => ?_
  obtain ⟨c, read⟩ := all d hd
  have unread := List.filterMap_eq_nil_iff.1 none.symm d hd
  rw [Document.read?_eq_some_iff.2 read] at unread
  cases unread

/-- What is found out from the cases at the address. -/
theorem Inquires.of_findCase {d : Document} {code : AccessCode} {type : AddressType}
    {found : List Document} {cases : List CollectionCase} (read : Wire.ofDocument d = .ok code)
    (check : request.check = .ok type) (reads : readCases r request found = .ok cases)
    {o : Except Fault (CollectionCase × Bool)}
    (run : (findCase settings code request type cases).run.Runs t o) :
    Inquires r settings hash request
      (asksCode r hash (.ok (some d)) :: asksCases r request (.ok found) :: t)
      (o.map fun (c, isNew) => ⟨code, cases, c, isNew⟩) := by
  have ends := runs_findCase_iff.1 run
  cases resolved : resolve cases with
  | settled c =>
    rw [resolved] at ends
    obtain ⟨rfl, rfl⟩ := ends
    exact .settled read check reads resolved
  | unclear count =>
    rw [resolved] at ends
    obtain ⟨rfl, rfl⟩ := ends
    exact .unclear read check reads resolved
  | vacant =>
    rw [resolved] at ends
    obtain ⟨id, created, rfl, rfl⟩ := ends
    obtain rfl := resolve_eq_vacant_iff.1 resolved
    obtain rfl := eq_nil_of_readCases reads
    exact .vacant read check id created

/-- What a link asks and finds out is such an inquiry. -/
theorem Inquires.of_runs {o : Except Fault Located}
    (run : (locate r settings hash request).run.Runs t o) :
    Inquires r settings hash request t o := by
  rcases Service.runs_bind_iff.1 run with ⟨f, first, rfl⟩ | ⟨code, t₁, t₂, rfl, first, checking⟩
  · rcases runs_findCode_iff.1 first with
      ⟨f, rfl, eq⟩ | ⟨rfl, eq⟩ | ⟨d, rfl, ⟨m, misfit, eq⟩ | ⟨code, _, eq⟩⟩
    · cases eq
      exact .codeUnread f
    · cases eq
      exact .unknown
    · cases eq
      exact .codeUnreadable misfit
    · cases eq
  obtain ⟨d, rfl, read⟩ : ∃ d, t₁ = [asksCode r hash (.ok (some d))] ∧
      Wire.ofDocument d = .ok code := by
    rcases runs_findCode_iff.1 first with
      ⟨f, _, eq⟩ | ⟨_, eq⟩ | ⟨d, rfl, ⟨m, _, eq⟩ | ⟨code', read, eq⟩⟩
    · cases eq
    · cases eq
    · cases eq
    · cases eq
      exact ⟨d, rfl, read⟩
  rcases Service.runs_of_bind_iff.1 checking with ⟨f, check, rfl, rfl⟩ | ⟨type, check, searching⟩
  · exact .refused read check
  rcases Service.runs_bind_iff.1 searching with
    ⟨f, first, rfl⟩ | ⟨cases, t₁, t₂, rfl, first, resolving⟩
  · rcases runs_casesAt_iff.1 first with ⟨f, rfl, eq⟩ | ⟨found, rfl, misfit⟩
    · cases eq
      exact .casesUnread read check f
    · exact .casesUnreadable read check misfit.symm
  obtain ⟨found, rfl, reads⟩ : ∃ found, t₁ = [asksCases r request (.ok found)] ∧
      readCases r request found = .ok cases := by
    rcases runs_casesAt_iff.1 first with ⟨f, _, eq⟩ | ⟨found, rfl, reads⟩
    · cases eq
    · exact ⟨found, rfl, reads.symm⟩
  rcases Service.runs_bind_iff.1 resolving with
    ⟨f, first, rfl⟩ | ⟨⟨c, isNew⟩, t₁, t₂, rfl, first, last⟩
  · exact .of_findCase read check reads first
  · obtain ⟨rfl, rfl⟩ := Service.runs_pure_iff.1 last
    rw [List.append_nil]
    exact .of_findCase read check reads first

/-- Every such inquiry is open to a link. -/
theorem Inquires.runs {o : Except Fault Located} (h : Inquires r settings hash request t o) :
    (locate r settings hash request).run.Runs t o := by
  have reading {d : Document} {code : AccessCode} (read : Wire.ofDocument d = .ok code) :
      (findCode r hash).run.Runs [asksCode r hash (.ok (some d))] (.ok code) :=
    runs_findCode_iff.2 (.inr (.inr ⟨d, rfl, .inr ⟨code, read, rfl⟩⟩))
  have searching {d : Document} {code : AccessCode} {type : AddressType} {found : List Document}
      {cases : List CollectionCase} (read : Wire.ofDocument d = .ok code)
      (check : request.check = .ok type) (reads : readCases r request found = .ok cases)
      {u : Trace} {o : Except Fault Located}
      (resolving : (findCase settings code request type cases >>= fun (c, isNew) =>
        pure (⟨code, cases, c, isNew⟩ : Located)).run.Runs u o) :
      (locate r settings hash request).run.Runs
        (asksCode r hash (.ok (some d)) :: asksCases r request (.ok found) :: u) o := by
    refine Service.runs_bind_iff.2 (.inr ⟨code, [_], _ :: u, rfl, reading read, ?_⟩)
    refine Service.runs_of_bind_iff.2 (.inr ⟨type, check, ?_⟩)
    refine Service.runs_bind_iff.2 (.inr ⟨cases, [_], u, rfl, ?_, resolving⟩)
    exact runs_casesAt_iff.2 (.inr ⟨found, rfl, reads.symm⟩)
  cases h with
  | codeUnread f =>
    exact Service.runs_bind_iff.2 (.inl ⟨f, runs_findCode_iff.2 (.inl ⟨f, rfl, rfl⟩), rfl⟩)
  | unknown =>
    exact Service.runs_bind_iff.2 (.inl ⟨_, runs_findCode_iff.2 (.inr (.inl ⟨rfl, rfl⟩)), rfl⟩)
  | @codeUnreadable d m misfit =>
    refine Service.runs_bind_iff.2 (.inl ⟨_, runs_findCode_iff.2 (.inr (.inr ?_)), rfl⟩)
    exact ⟨d, rfl, .inl ⟨m, misfit, rfl⟩⟩
  | refused read check =>
    refine Service.runs_bind_iff.2 (.inr ⟨_, _, [], rfl, reading read, ?_⟩)
    exact Service.runs_of_bind_iff.2 (.inl ⟨_, check, rfl, rfl⟩)
  | casesUnread read check f =>
    refine Service.runs_bind_iff.2 (.inr ⟨_, [_], [_], rfl, reading read, ?_⟩)
    refine Service.runs_of_bind_iff.2 (.inr ⟨_, check, Service.runs_bind_iff.2 (.inl ⟨f, ?_, rfl⟩)⟩)
    exact runs_casesAt_iff.2 (.inl ⟨f, rfl, rfl⟩)
  | casesUnreadable read check misfit =>
    refine Service.runs_bind_iff.2 (.inr ⟨_, [_], [_], rfl, reading read, ?_⟩)
    refine Service.runs_of_bind_iff.2 (.inr ⟨_, check, Service.runs_bind_iff.2 (.inl ⟨_, ?_, rfl⟩)⟩)
    exact runs_casesAt_iff.2 (.inr ⟨_, rfl, misfit.symm⟩)
  | unclear read check reads resolved =>
    refine searching read check reads (Service.runs_bind_iff.2 (.inl ⟨_, ?_, rfl⟩))
    rw [runs_findCase_iff, resolved]
    exact ⟨rfl, rfl⟩
  | @settled d code type found cases c read check reads resolved =>
    refine searching read check reads
      (Service.runs_bind_iff.2 (.inr ⟨(c, false), [], [], rfl, ?_, ?_⟩))
    · rw [runs_findCase_iff, resolved]
      exact ⟨rfl, rfl⟩
    · exact Service.runs_pure_iff.2 ⟨rfl, rfl⟩
  | @vacant d code type read check id created =>
    refine searching read check rfl
      (Service.runs_bind_iff.2 (.inr ⟨(reportedCase id created code request type settings, true),
        _, [], (List.append_nil _).symm, ?_, ?_⟩))
    · rw [runs_findCase_iff]
      exact ⟨id, created, rfl, rfl⟩
    · exact Service.runs_pure_iff.2 ⟨rfl, rfl⟩

theorem runs_locate_iff {o : Except Fault Located} :
    (locate r settings hash request).run.Runs t o ↔ Inquires r settings hash request t o :=
  ⟨.of_runs, Inquires.runs⟩

/-- Stages that follow others are only gone through when those have succeeded. -/
theorem pursues_append_iff {o : Except Fault Unit} : Pursues p (stages ++ more) t o ↔
    (∃ f, Pursues p stages t (.error f) ∧ o = .error f) ∨
      ∃ t₁ t₂, t = t₁ ++ t₂ ∧ Pursues p stages t₁ (.ok ()) ∧ Pursues p more t₂ o := by
  constructor
  · intro h
    induction stages generalizing t with
    | nil => exact .inr ⟨[], t, rfl, .finished, h⟩
    | cons stage rest ih =>
      cases h with
      | stopped fails => exact .inl ⟨_, .stopped fails, rfl⟩
      | passed writes tells later =>
        rcases ih later with ⟨f, fails, rfl⟩ | ⟨t₁, t₂, rfl, first, second⟩
        · exact .inl ⟨f, .passed writes tells fails, rfl⟩
        · exact .inr ⟨_, t₂, by simp, .passed writes tells first, second⟩
  · rintro (⟨f, fails, rfl⟩ | ⟨t₁, t₂, rfl, first, second⟩)
    · induction stages generalizing t with
      | nil => cases fails
      | cons stage rest ih =>
        cases fails with
        | stopped fails => exact .stopped fails
        | passed writes tells later => exact .passed writes tells (ih later)
    · induction stages generalizing t₁ with
      | nil =>
        cases first
        exact second
      | cons stage rest ih =>
        cases first with
        | passed writes tells later =>
          rw [List.append_assoc]
          exact .passed writes tells (ih _ later)

/-- If some stages fail, then they fail as a write of one of them did. -/
theorem Pursues.exists_failed {f : Fault} (h : Pursues p stages t (.error f)) :
    ∃ stage ∈ stages, stage.write.exchange (.error f) ∈ t := by
  induction stages generalizing t with
  | nil => cases h
  | cons stage rest ih =>
    cases h with
    | stopped fails =>
      exact ⟨stage, List.mem_cons_self, List.mem_append_right _ fails.exchange_mem⟩
    | passed _ _ more =>
      obtain ⟨last, hlast, fails⟩ := ih more
      exact ⟨last, List.mem_cons_of_mem _ hlast, List.mem_append_right _ fails⟩

theorem runs_announce_iff {type : EventType} {a : Announcement} {o : Except Fault Unit} :
    (announce type a).run.Runs t o ↔
      Tells (some ⟨type, .respondentHome, .respondent, a⟩) t ∧ o = .ok () := by
  constructor
  · intro h
    cases h with
    | perform rest =>
      obtain ⟨rfl, rfl⟩ := Program.runs_done_iff.1 rest
      exact ⟨.notice _ _, rfl⟩
  · rintro ⟨⟨_, reply⟩, rfl⟩
    exact .perform (.done _)

theorem pursues_nil_iff {o : Except Fault Unit} : Pursues p [] t o ↔ t = [] ∧ o = .ok () := by
  constructor
  · intro h
    cases h
    exact ⟨rfl, rfl⟩
  · rintro ⟨rfl, rfl⟩
    exact .finished

theorem pursues_singleton_iff {stage : Stage} {o : Except Fault Unit} :
    Pursues p [stage] t o ↔
      (∃ f u, t = stage.drawn ++ u ∧ stage.write.Persists p u (.error f) ∧ o = .error f) ∨
      ∃ u told, t = stage.drawn ++ (u ++ told) ∧ stage.write.Persists p u (.ok ()) ∧
        Tells stage.notice told ∧ o = .ok () := by
  constructor
  · intro h
    cases h with
    | @stopped _ _ u f fails => exact .inl ⟨f, u, rfl, fails, rfl⟩
    | @passed _ _ u told v _ writes tells more =>
      obtain ⟨rfl, rfl⟩ := pursues_nil_iff.1 more
      exact .inr ⟨u, told, by simp, writes, tells, rfl⟩
  · rintro (⟨f, u, rfl, fails, rfl⟩ | ⟨u, told, rfl, writes, tells, rfl⟩)
    · exact .stopped fails
    · rw [← List.append_assoc, ← List.append_nil (stage.drawn ++ u ++ told)]
      exact .passed writes tells .finished

/-- What is drawn for a stage comes before all else in it. -/
theorem pursues_drawn_iff {drawn : Trace} {w : Write} {n : Option Notice} {o : Except Fault Unit} :
    Pursues p [⟨drawn, w, n⟩] t o ↔ ∃ u, t = drawn ++ u ∧ Pursues p [⟨[], w, n⟩] u o := by
  simp only [pursues_singleton_iff, List.nil_append]
  constructor
  · rintro (⟨f, u, rfl, fails⟩ | ⟨u, told, rfl, writes⟩)
    · exact ⟨u, rfl, .inl ⟨f, u, rfl, fails⟩⟩
    · exact ⟨u ++ told, rfl, .inr ⟨u, told, rfl, writes⟩⟩
  · rintro ⟨u, rfl, ⟨f, _, rfl, fails⟩ | ⟨u, told, rfl, writes⟩⟩
    · exact .inl ⟨f, _, rfl, fails⟩
    · exact .inr ⟨u, told, rfl, writes⟩

theorem error_eq_map_iff {α : Type} {u : Except Fault Unit} {a : α} {f : Fault} :
    .error f = u.map (fun _ => a) ↔ u = .error f := by
  cases u with
  | error g => simp [Except.map, eq_comm]
  | ok _ => simp [Except.map]

theorem ok_eq_map_iff {α : Type} {u : Except Fault Unit} {a b : α} :
    .ok b = u.map (fun _ => a) ↔ u = .ok () ∧ b = a := by
  cases u with
  | error g => simp [Except.map]
  | ok _ => simp [Except.map]

/-- A service goes through stages, and comes to a result if all of them succeed. -/
def Goes {α : Type} (p : RetryPolicy) (x : Service α) (stages : List Stage) (a : α) : Prop :=
  ∀ t o, x.run.Runs t o ↔ ∃ u, Pursues p stages t u ∧ o = u.map fun _ => a

section Going

variable {α β : Type} {x : Service α} {a : α}

theorem goes_pure (a : α) : Goes p (pure a) [] a := by
  intro t o
  rw [Service.runs_pure_iff]
  constructor
  · rintro ⟨rfl, rfl⟩
    exact ⟨.ok (), .finished, rfl⟩
  · rintro ⟨u, pursues, rfl⟩
    obtain ⟨rfl, rfl⟩ := pursues_nil_iff.1 pursues
    exact ⟨rfl, rfl⟩

theorem Goes.runs_error_iff (h : Goes p x stages a) {f : Fault} :
    x.run.Runs t (.error f) ↔ Pursues p stages t (.error f) := by
  simp [h t, error_eq_map_iff]

theorem Goes.runs_ok_iff (h : Goes p x stages a) {b : α} :
    x.run.Runs t (.ok b) ↔ Pursues p stages t (.ok ()) ∧ b = a := by
  simp [h t, ok_eq_map_iff]

theorem Goes.bind {f : α → Service β} {b : β} (first : Goes p x stages a)
    (second : Goes p (f a) more b) : Goes p (x >>= f) (stages ++ more) b := by
  intro t o
  rw [Service.runs_bind_iff]
  constructor
  · rintro (⟨e, fails, rfl⟩ | ⟨_, t₁, t₂, rfl, runs, rest⟩)
    · refine ⟨.error e, pursues_append_iff.2 (.inl ⟨e, ?_, rfl⟩), rfl⟩
      exact first.runs_error_iff.1 fails
    · obtain ⟨pursues, rfl⟩ := first.runs_ok_iff.1 runs
      obtain ⟨v, later, rfl⟩ := (second t₂ o).1 rest
      exact ⟨v, pursues_append_iff.2 (.inr ⟨t₁, t₂, rfl, pursues, later⟩), rfl⟩
  · rintro ⟨u, pursues, rfl⟩
    rcases pursues_append_iff.1 pursues with ⟨f, fails, rfl⟩ | ⟨t₁, t₂, rfl, runs, rest⟩
    · exact .inl ⟨f, (first t _).2 ⟨_, fails, rfl⟩, rfl⟩
    · exact .inr ⟨a, t₁, t₂, rfl, (first t₁ _).2 ⟨_, runs, rfl⟩, (second t₂ _).2 ⟨u, rest, rfl⟩⟩

/-- A write that no notice follows. -/
theorem goes_make (w : Write) : Goes p (w.make p) [⟨[], w, none⟩] () := by
  intro t o
  rw [Write.runs_make_iff]
  simp only [pursues_singleton_iff, List.nil_append]
  constructor
  · intro persists
    match o with
    | .error f => exact ⟨.error f, .inl ⟨f, t, rfl, persists, rfl⟩, rfl⟩
    | .ok () => exact ⟨.ok (), .inr ⟨t, [], by simp, persists, .nothing, rfl⟩, rfl⟩
  · rintro ⟨_, ⟨f, _, rfl, persists, rfl⟩ | ⟨u, _, rfl, persists, ⟨⟩, rfl⟩, rfl⟩
    · exact persists
    · rw [List.append_nil]
      exact persists

/-- A write and the notice after it. -/
theorem goes_make_announce (w : Write) (type : EventType) (a : Announcement) :
    Goes p (w.make p >>= fun _ => announce type a)
      [⟨[], w, some ⟨type, .respondentHome, .respondent, a⟩⟩] () := by
  intro t o
  rw [Service.runs_bind_iff]
  simp only [pursues_singleton_iff, List.nil_append, Write.runs_make_iff, runs_announce_iff]
  constructor
  · rintro (⟨f, fails, rfl⟩ | ⟨_, t₁, told, rfl, writes, tells, rfl⟩)
    · exact ⟨.error f, .inl ⟨f, t, rfl, fails, rfl⟩, rfl⟩
    · exact ⟨.ok (), .inr ⟨t₁, told, rfl, writes, tells, rfl⟩, rfl⟩
  · rintro ⟨_, ⟨f, _, rfl, fails, rfl⟩ | ⟨t₁, told, rfl, writes, tells, rfl⟩, rfl⟩
    · exact .inl ⟨f, fails, rfl⟩
    · exact .inr ⟨(), t₁, told, rfl, writes, tells, rfl⟩

end Going

theorem goes_report (r : Registry) (l : Located) :
    Goes r.policy (report r l) (l.reportStages r) () := by
  rw [report, Located.reportStages]
  cases l.isNew with
  | false => exact goes_pure ()
  | true => exact goes_make_announce (r.caseWrite l.subject) _ _

theorem runs_newIndividual_iff {household : CollectionCase}
    {o : Except Fault (Option CollectionCase)} :
    (newIndividual r household >>= fun c => pure (some c)).run.Runs t o ↔ ∃ id created u,
      Pursues r.policy [individualStage r id created household] t u ∧
        o = u.map fun _ => some (individualCase id created household) := by
  have writing (id : Uuid) (created : Instant) :
      Goes r.policy (r.writeCase (individualCase id created household) >>= fun _ =>
        (pure (some (individualCase id created household)) : Service _))
        [⟨[], r.caseWrite (individualCase id created household), none⟩]
        (some (individualCase id created household)) :=
    (goes_make (r.caseWrite (individualCase id created household))).bind (goes_pure _)
  simp only [newIndividual, bind_assoc, pure_bind, Service.runs_freshId_bind_iff,
    Service.runs_now_bind_iff]
  refine exists_congr fun id => ?_
  constructor
  · rintro ⟨_, rfl, created, v, rfl, rest⟩
    obtain ⟨u, pursues, eq⟩ := (writing id created v o).1 rest
    exact ⟨created, u, pursues_drawn_iff.2 ⟨v, rfl, pursues⟩, eq⟩
  · rintro ⟨created, u, pursues, eq⟩
    obtain ⟨v, rfl, rest⟩ := pursues_drawn_iff.1 pursues
    exact ⟨_, rfl, created, v, rfl, (writing id created v o).2 ⟨u, rest, eq⟩⟩

theorem runs_findIndividual_iff {o : Except Fault (Option CollectionCase)} :
    (findIndividual r l.code l.subject (linkedIndividual? l.code l.cases)).run.Runs t o ↔
      ∃ individual stages u, Attends r l individual stages ∧ Pursues r.policy stages t u ∧
        o = u.map fun _ => individual := by
  simp only [findIndividual]
  cases needed : needsIndividual l.code l.subject with
  | false =>
    rw [if_neg Bool.false_ne_true, goes_pure (p := r.policy) none t o]
    constructor
    · rintro ⟨u, rest⟩
      exact ⟨none, [], u, .alone needed, rest⟩
    · rintro ⟨individual, stages, u, attends, rest⟩
      cases attends with
      | alone _ => exact ⟨u, rest⟩
      | again needed' _ => simp [needed] at needed'
      | anew needed' _ _ _ => simp [needed] at needed'
  | true =>
    rw [if_pos rfl]
    cases linked : linkedIndividual? l.code l.cases with
    | some c =>
      dsimp only
      rw [goes_pure (p := r.policy) (some c) t o]
      constructor
      · rintro ⟨u, rest⟩
        exact ⟨some c, [], u, .again needed linked, rest⟩
      · rintro ⟨individual, stages, u, attends, rest⟩
        cases attends with
        | alone needless => simp [needed] at needless
        | again _ linked' =>
          rw [linked, Option.some.injEq] at linked'
          rw [linked']
          exact ⟨u, rest⟩
        | anew _ unlinked _ _ => simp [linked] at unlinked
    | none =>
      dsimp only
      rw [runs_newIndividual_iff]
      constructor
      · rintro ⟨id, created, u, rest⟩
        exact ⟨_, _, u, .anew needed linked id created, rest⟩
      · rintro ⟨individual, stages, u, attends, rest⟩
        cases attends with
        | alone needless => simp [needed] at needless
        | again _ linked' => simp [linked] at linked'
        | anew _ _ id created => exact ⟨id, created, u, rest⟩

theorem exists_attends (r : Registry) (l : Located) :
    ∃ individual stages, Attends r l individual stages := by
  cases needed : needsIndividual l.code l.subject with
  | false => exact ⟨none, [], .alone needed⟩
  | true =>
    cases linked : linkedIndividual? l.code l.cases with
    | some c => exact ⟨some c, [], .again needed linked⟩
    | none => exact ⟨_, _, .anew needed linked ⟨0, by decide⟩ ⟨⟨1970, 1, 1, 0, 0⟩, by decide⟩⟩

theorem goes_linkCode (r : Registry) (l : Located) (individual : Option CollectionCase) :
    Goes r.policy
      (do
        r.writeCode (l.linkedCode individual)
        announce .questionnaireLinked
          (.ofLink l.code.questionnaireId l.subject.id (individual.map (·.id)))
        pure (CodeView.merged (individual.getD l.subject) (l.linkedCode individual)))
      [l.linkStage r individual]
      (CodeView.merged (individual.getD l.subject) (l.linkedCode individual)) := by
  simp only [← bind_assoc]
  exact (goes_make_announce (r.codeWrite (l.linkedCode individual)) _ _).bind (goes_pure _)

/-- The part of a link that writes goes through its stages, if the code may be paired. -/
theorem runs_complete_iff {o : Except Fault CodeView} :
    (complete r l).run.Runs t o ↔
      (∃ f, Pairing.check l.code l.subject = .error f ∧ t = [] ∧ o = .error f) ∨
      (Pairing.check l.code l.subject = .ok () ∧ ∃ individual stages u,
        Attends r l individual stages ∧
        Pursues r.policy (l.reportStages r ++ stages ++ [l.linkStage r individual]) t u ∧
        o = u.map fun _ =>
          CodeView.merged (individual.getD l.subject) (l.linkedCode individual)) := by
  rw [complete, Service.runs_of_bind_iff]
  refine or_congr_right ?_
  constructor
  · rintro ⟨_, check, running⟩
    refine ⟨check, ?_⟩
    rcases Service.runs_bind_iff.1 running with ⟨f, fails, rfl⟩ | ⟨_, t₁, t₂, rfl, first, rest⟩
    · obtain ⟨individual, stages, attends⟩ := exists_attends r l
      refine ⟨individual, stages, .error f, attends, ?_, rfl⟩
      rw [List.append_assoc]
      exact pursues_append_iff.2 (.inl ⟨f, (goes_report r l).runs_error_iff.1 fails, rfl⟩)
    have reports := ((goes_report r l).runs_ok_iff.1 first).1
    rcases Service.runs_bind_iff.1 rest with
      ⟨f, fails, rfl⟩ | ⟨individual, t₂, t₃, rfl, second, last⟩
    · obtain ⟨individual, stages, u, attends, pursues, eq⟩ := runs_findIndividual_iff.1 fails
      obtain rfl := error_eq_map_iff.1 eq
      refine ⟨individual, stages, .error f, attends, ?_, rfl⟩
      refine pursues_append_iff.2 (.inl ⟨f, pursues_append_iff.2 (.inr ?_), rfl⟩)
      exact ⟨t₁, t₂, rfl, reports, pursues⟩
    · obtain ⟨_, stages, u, attends, pursues, eq⟩ := runs_findIndividual_iff.1 second
      obtain ⟨rfl, rfl⟩ := ok_eq_map_iff.1 eq
      obtain ⟨u, pursues', rfl⟩ := (goes_linkCode r l individual t₃ o).1 last
      refine ⟨individual, stages, u, attends, ?_, rfl⟩
      rw [← List.append_assoc]
      refine pursues_append_iff.2 (.inr ⟨_, t₃, rfl, pursues_append_iff.2 (.inr ?_), pursues'⟩)
      exact ⟨t₁, t₂, rfl, reports, pursues⟩
  · rintro ⟨check, individual, stages, u, attends, pursues, rfl⟩
    refine ⟨(), check, ?_⟩
    rcases pursues_append_iff.1 pursues with ⟨f, fails, rfl⟩ | ⟨t₁, t₃, rfl, before, last⟩
    · rcases pursues_append_iff.1 fails with ⟨f, first, eq⟩ | ⟨t₁, t₂, rfl, first, second⟩
      · obtain rfl := Except.error.inj eq
        exact Service.runs_bind_iff.2 (.inl ⟨_, (goes_report r l).runs_error_iff.2 first, rfl⟩)
      · have reports := (goes_report r l).runs_ok_iff.2 ⟨first, rfl⟩
        refine Service.runs_bind_iff.2 (.inr ⟨(), t₁, t₂, rfl, reports, ?_⟩)
        refine Service.runs_bind_iff.2 (.inl ⟨f, runs_findIndividual_iff.2 ?_, rfl⟩)
        exact ⟨individual, stages, _, attends, second, rfl⟩
    · rcases pursues_append_iff.1 before with ⟨_, _, eq⟩ | ⟨t₁, t₂, rfl, first, second⟩
      · cases eq
      have reports := (goes_report r l).runs_ok_iff.2 ⟨first, rfl⟩
      rw [List.append_assoc]
      refine Service.runs_bind_iff.2 (.inr ⟨(), t₁, _, rfl, reports, ?_⟩)
      refine Service.runs_bind_iff.2 (.inr ⟨individual, t₂, t₃, rfl, ?_, ?_⟩)
      · exact runs_findIndividual_iff.2 ⟨individual, stages, _, attends, second, rfl⟩
      · exact (goes_linkCode r l individual t₃ _).2 ⟨u, last, rfl⟩

theorem runs_link_iff {o : Except Fault CodeView} :
    (link r settings hash request).run.Runs t o ↔ Follows r settings hash request t o := by
  rw [link_eq, Service.runs_bind_iff]
  simp only [runs_locate_iff, runs_complete_iff]
  constructor
  · rintro (⟨f, asks, rfl⟩ | ⟨l, t₁, t₂, rfl, asks, ⟨f, check, rfl, rfl⟩ | ⟨check, writing⟩⟩)
    · exact .unlocated asks
    · rw [List.append_nil]
      exact .unpaired asks check
    · obtain ⟨individual, stages, u, attends, pursues, rfl⟩ := writing
      exact .pursued asks check attends pursues
  · intro h
    cases h with
    | unlocated asks => exact .inl ⟨_, asks, rfl⟩
    | unpaired asks check =>
      exact .inr ⟨_, t, [], by simp, asks, .inl ⟨_, check, rfl, rfl⟩⟩
    | pursued asks check attends pursues =>
      exact .inr ⟨_, _, _, rfl, asks, .inr ⟨check, _, _, _, attends, pursues, rfl⟩⟩

end Link
end CensusLink
