import CensusLink.Proofs.Linking.Calls
import CensusLink.Proofs.Linking.Meaning
import CensusLink.Proofs.Linking.Session

/-!
What a link that fails leaves behind. If anything stands in its way before it writes, or a read
fails, it has changed nothing and told nobody. Otherwise a write has failed, and the link has added
at most a case for the address and an individual case; codes and other cases are as they were.
-/
namespace CensusLink
namespace Link

/-- What keeps a link from writing anything: there is no such code, the request is bad, there are
several cases and none is a household, the code may not be paired with the case, or a document
cannot be read. -/
inductive Barred (r : Registry) (s : MemoryStore) (hash : String) (request : LinkRequest) : Prop
  | unknown (absent : (s.documents r.schemas.accessCode).lookup hash = none)
  | codeUnreadable {d : Document} {m : Misfit}
      (found : (s.documents r.schemas.accessCode).lookup hash = some d)
      (misfit : (Wire.ofDocument d : Except Misfit AccessCode) = .error m)
  | badRequest {f : Fault} (check : request.check = .error f)
  | caseUnreadable {d : Document} {m : Misfit}
      (found : d ∈ MemoryStore.matching Registry.uprnPath request.place
        (s.documents r.schemas.case))
      (misfit : (Wire.ofDocument d : Except Misfit CollectionCase) = .error m)
  | unclear {count : Nat} (resolved : resolve (r.casesIn s request.place) = .unclear count)
  | unpaired {code : AccessCode} {c : CollectionCase} (found : r.codeIn s hash = some code)
      (resolved : resolve (r.casesIn s request.place) = .settled c)
      (refused : ⟨code.form, code.caseType, c.type⟩ ∉ Pairing.allowed)
  | newUnpaired {code : AccessCode} {type : AddressType} (found : r.codeIn s hash = some code)
      (check : request.check = .ok type)
      (resolved : resolve (r.casesIn s request.place) = .vacant)
      (refused : ⟨code.form, code.caseType, type.caseType⟩ ∉ Pairing.allowed)

/-- A read failed. -/
def Unread (t : Trace) : Prop :=
  ∃ c f, c.isWrite = false ∧ (⟨.call c, .error f⟩ : Exchange) ∈ t

variable {r : Registry} {settings : LinkSettings} {k : Conditions} {s s' : MemoryStore}
  {hash : String} {request : LinkRequest} {t : Trace} {f : Fault} {l : Located}

theorem exists_misfit_of_readCases {found : List Document}
    (misfit : readCases r request found = .error f) :
    ∃ d ∈ found, ∃ m, (Wire.ofDocument d : Except Misfit CollectionCase) = .error m := by
  by_contra none
  push Not at none
  have all : ∀ d ∈ found, ∃ c : CollectionCase, Wire.ofDocument d = .ok c := by
    intro d hd
    cases read : (Wire.ofDocument d : Except Misfit CollectionCase) with
    | error m => exact absurd read (none d hd m)
    | ok c => exact ⟨c, rfl⟩
  rw [readCases_eq_ok_iff.2 ⟨all, rfl⟩] at misfit
  cases misfit

theorem Inquires.deeds_eq_nil {o : Except Fault Located}
    (h : Inquires r settings hash request t o) : t.deeds = [] := by
  cases h <;> rfl

section Reading

variable (named : r.WellNamed)

include named

theorem eq_lookup_of_allows {found : Option Document} {s₁ : MemoryStore}
    (h : k.Allows s (asksCode r hash (.ok found)) s₁) :
    (s.documents r.schemas.accessCode).lookup hash = found ∧ s₁ = s := by
  obtain ⟨reply, store⟩ := Conditions.Allows.reply_eq (c := .retrieve _ hash) named.code h
  exact ⟨reply.symm, store⟩

theorem eq_matching_of_allows {found : List Document} {s₁ : MemoryStore}
    (h : k.Allows s (asksCases r request (.ok found)) s₁) :
    MemoryStore.matching Registry.uprnPath request.place (s.documents r.schemas.case) = found ∧
      s₁ = s := by
  obtain ⟨reply, store⟩ :=
    Conditions.Allows.reply_eq (c := .search _ Registry.uprnPath request.place) named.case h
  exact ⟨reply.symm, store⟩

/-- The code and the cases that a link has been told of are those that the store has. -/
theorem sees_of_carries {d : Document} {found : List Document} {u : Trace}
    (h : Carries k.Allows s (asksCode r hash (.ok (some d)) :: asksCases r request (.ok found) :: u)
      s') :
    (s.documents r.schemas.accessCode).lookup hash = some d ∧
      MemoryStore.matching Registry.uprnPath request.place (s.documents r.schemas.case) = found ∧
      Carries k.Allows s u s' := by
  cases h with
  | cons first rest =>
    obtain ⟨code, rfl⟩ := eq_lookup_of_allows named first
    cases rest with
    | cons second rest =>
      obtain ⟨cases, rfl⟩ := eq_matching_of_allows named second
      exact ⟨code, cases, rest⟩

theorem Inquires.barred (h : Inquires r settings hash request t (.error f))
    (carried : Carries k.Allows s t s') : Barred r s hash request ∨ Unread t := by
  cases h with
  | codeUnread f => exact .inr ⟨_, f, rfl, List.mem_cons_self⟩
  | unknown =>
    have sees := eq_lookup_of_allows named (carries_singleton_iff.1 carried)
    exact .inl (.unknown sees.1)
  | codeUnreadable misfit =>
    have sees := eq_lookup_of_allows named (carries_singleton_iff.1 carried)
    exact .inl (.codeUnreadable sees.1 misfit)
  | refused _ check => exact .inl (.badRequest check)
  | casesUnread _ _ f => exact .inr ⟨_, f, rfl, List.mem_cons_of_mem _ List.mem_cons_self⟩
  | casesUnreadable _ _ misfit =>
    obtain ⟨_, rfl, _⟩ := sees_of_carries named carried
    obtain ⟨d, found, m, misfit⟩ := exists_misfit_of_readCases misfit
    exact .inl (.caseUnreadable found misfit)
  | unclear _ _ reads resolved =>
    obtain ⟨_, rfl, _⟩ := sees_of_carries named carried
    obtain ⟨_, rfl⟩ := readCases_eq_ok_iff.1 reads
    exact .inl (.unclear resolved)

/-- What has been found out is so in the store, of which all that was asked for can be read. -/
theorem Inquires.locates (h : Inquires r settings hash request t (.ok l))
    (carried : Carries k.Allows s t s') :
    Locates r settings k s hash request (.ok l) ∧
      ∀ d ∈ MemoryStore.matching Registry.uprnPath request.place (s.documents r.schemas.case),
        ∃ c : CollectionCase, Wire.ofDocument d = .ok c := by
  cases h with
  | settled read check reads resolved =>
    obtain ⟨code, rfl, _⟩ := sees_of_carries named carried
    obtain ⟨all, rfl⟩ := readCases_eq_ok_iff.1 reads
    have found : r.codeIn s hash = some _ :=
      Option.bind_eq_some_iff.2 ⟨_, code, Document.read?_eq_some_iff.2 read⟩
    exact ⟨.settled found check resolved, all⟩
  | @vacant d code type read check id created =>
    obtain ⟨there, none, rest⟩ := sees_of_carries named carried
    have found : r.codeIn s hash = some code :=
      Option.bind_eq_some_iff.2 ⟨d, there, Document.read?_eq_some_iff.2 read⟩
    have cases : r.casesIn s request.place = [] := by rw [Registry.casesIn, none]; rfl
    cases rest with
    | cons drawn _ =>
      have located : Locates r settings k s hash request (.ok ⟨code, r.casesIn s request.place,
          reportedCase id created code request type settings, true⟩) :=
        .vacant found check (resolve_eq_vacant_iff.2 cases) drawn.1
      rw [cases] at located
      exact ⟨located, by simp [none]⟩

end Reading

theorem barred_of_locates (found : Locates r settings k s hash request (.ok l))
    (check : Pairing.check l.code l.subject = .error f) : Barred r s hash request := by
  have refused := (Pairing.kind_of_check check).2
  cases found with
  | settled code _ resolved => exact .unpaired code resolved refused
  | vacant code type resolved _ => exact .newUnpaired code type resolved refused

theorem not_barred_of_locates (found : Locates r settings k s hash request (.ok l))
    (legible : ∀ d ∈ MemoryStore.matching Registry.uprnPath request.place
      (s.documents r.schemas.case), ∃ c : CollectionCase, Wire.ofDocument d = .ok c)
    (check : Pairing.check l.code l.subject = .ok ()) : ¬ Barred r s hash request := by
  have allowed := Pairing.check_eq_ok_iff.1 check
  have code := found.codeIn_eq
  obtain ⟨d, there, read⟩ := Option.bind_eq_some_iff.1 code
  have read := Document.read?_eq_some_iff.1 read
  intro barred
  cases barred with
  | unknown absent => simp [there] at absent
  | codeUnreadable there' misfit =>
    rw [there, Option.some.injEq] at there'
    rw [there', misfit] at read
    cases read
  | badRequest bad =>
    cases found with
    | settled _ good _ =>
      rw [good] at bad
      cases bad
    | vacant _ good _ _ =>
      rw [good] at bad
      cases bad
  | caseUnreadable there misfit =>
    obtain ⟨c, read⟩ := legible _ there
    rw [misfit] at read
    cases read
  | unclear resolved =>
    cases found with
    | settled _ _ clear =>
      rw [clear] at resolved
      cases resolved
    | vacant _ _ clear _ =>
      rw [clear] at resolved
      cases resolved
  | unpaired code' resolved refused =>
    obtain rfl := Option.some.inj (code.symm.trans code')
    cases found with
    | settled _ _ here =>
      rw [here] at resolved
      cases resolved
      exact refused allowed
    | vacant _ _ none _ =>
      rw [none] at resolved
      cases resolved
  | newUnpaired code' good resolved refused =>
    obtain rfl := Option.some.inj (code.symm.trans code')
    cases found with
    | settled _ _ here =>
      rw [here] at resolved
      cases resolved
    | vacant _ good' _ _ =>
      obtain rfl := Except.ok.inj (good.symm.trans good')
      exact refused allowed

theorem Inquires.not_unread (h : Inquires r settings hash request t (.ok l)) : ¬ Unread t := by
  rintro ⟨c, f, _, failed⟩
  cases h with
  | settled _ _ _ _ =>
    simp only [asksCode, asksCases, List.mem_cons, List.not_mem_nil, or_false] at failed
    rcases failed with eq | eq
    all_goals cases eq
  | vacant _ _ _ _ =>
    simp only [asksCode, asksCases, List.mem_cons, List.not_mem_nil, or_false] at failed
    rcases failed with eq | eq | eq | eq
    all_goals cases eq

/-- A stage that is gone through makes no reads, so none of them fails. -/
theorem Attends.not_unread {p : RetryPolicy} {individual : Option CollectionCase}
    {joining : List Stage} {o : Except Fault Unit} (attends : Attends r l individual joining)
    (h : Pursues p (l.reportStages r ++ joining ++ [l.linkStage r individual]) t o) :
    ¬ Unread t := by
  rintro ⟨c, f, read, failed⟩
  have write := attends.isWrite_of_mem_calls h c (Trace.mem_calls failed)
  rw [read] at write
  cases write

/-- The stages of a link, gone through on a store, complete it. -/
theorem Attends.completes (named : r.WellNamed) {individual : Option CollectionCase}
    {joining : List Stage} {o : Except Fault Unit} (attends : Attends r l individual joining)
    (check : Pairing.check l.code l.subject = .ok ())
    (h : Pursues r.policy (l.reportStages r ++ joining ++ [l.linkStage r individual]) t o)
    (carried : Carries k.Allows s t s') :
    Completes r k s l t.deeds
      (o.map fun _ => CodeView.merged (individual.getD l.subject) (l.linkedCode individual)) := by
  have runs := runs_complete_iff.2 (.inr ⟨check, individual, joining, o, attends, h, rfl⟩)
  exact (does_complete_iff named).1 (Service.does_of_runsOn ⟨runs, carried⟩).1

/-- A link that fails has added at most a case for its address and an individual case. -/
theorem Completes.adds_of_error (named : r.WellNamed) (fresh : k.DrawsNew r) {ds : List Deed}
    (found : Locates r settings k s hash request (.ok l))
    (h : Completes r k s l ds (.error f)) :
    ∃ reported joined : List CollectionCase, reported.length ≤ 1 ∧ joined.length ≤ 1 ∧
      (∀ c ∈ reported, c.uprn = request.place ∧ c.type ≠ .individual) ∧
      (∀ c ∈ joined, c.type = .individual) ∧
      ((s.after ds).documents r.schemas.case).Perm
        ((reported ++ joined).map (fun c => (c.id, Wire.toDocument c)) ++
          s.documents r.schemas.case) := by
  have novel := h.novel named fresh (found.novel_reports fresh)
  have grown := r.documents_after_perm named h.proper novel
  rcases h.idle_or_joins named with rfl | ⟨joined, joins, kept, _⟩
  · exact ⟨[], [], by simp, by simp, by simp, by simp, .refl _⟩
  · rw [kept] at grown
    refine ⟨l.reported, joined, ?_, ?_, ?_, fun c hc => (joins.place_of_mem hc).1, grown⟩
    · rw [Located.reported]
      split <;> simp
    · cases joins <;> simp
    · intro c hc
      cases found with
      | settled _ _ _ => cases hc
      | @vacant code type id created _ _ _ _ =>
        rw [List.mem_singleton.1 hc]
        refine ⟨rfl, ?_⟩
        cases type <;> simp [reportedCase, AddressType.caseType]

theorem unread_append_iff {u : Trace} : Unread (t ++ u) ↔ Unread t ∨ Unread u := by
  constructor
  · rintro ⟨c, f, read, failed⟩
    exact (List.mem_append.1 failed).imp (⟨c, f, read, ·⟩) (⟨c, f, read, ·⟩)
  · rintro (⟨c, f, read, failed⟩ | ⟨c, f, read, failed⟩)
    · exact ⟨c, f, read, List.mem_append_left _ failed⟩
    · exact ⟨c, f, read, List.mem_append_right _ failed⟩

theorem Inquires.isWrite_of_mem_calls {o : Except Fault Located}
    (h : Inquires r settings hash request t o) : ∀ c ∈ t.calls, c.isWrite = false := by
  rcases h.calls.2 with ⟨_, calls⟩ | calls
  · rw [calls]
    simp [StoreCall.isWrite]
  · rw [calls]
    simp [StoreCall.isWrite]

/-- A link that fails was kept from writing and did nothing, or it failed as a write did. -/
theorem idle_or_stopped (named : r.WellNamed)
    (run : Program.RunsOn k.Allows (link r settings hash request).run s t (.error f) s') :
    ((Barred r s hash request ∨ Unread t) ∧ s' = s ∧ (∀ c ∈ t.calls, c.isWrite = false) ∧
        t.notices = []) ∨
      (¬ (Barred r s hash request ∨ Unread t) ∧
        (∃ c, c.isWrite = true ∧ (⟨.call c, .error f⟩ : Exchange) ∈ t) ∧
        ∃ l ds, Locates r settings k s hash request (.ok l) ∧ Completes r k s l ds (.error f) ∧
          s' = s.after ds) := by
  obtain ⟨runs, carried⟩ := run
  have idle {o : Except Fault Located} (asks : Inquires r settings hash request t o) :
      s' = s ∧ (∀ c ∈ t.calls, c.isWrite = false) ∧ t.notices = [] := by
    refine ⟨?_, asks.isWrite_of_mem_calls, asks.calls.1⟩
    rw [carried.eq_after, asks.deeds_eq_nil, MemoryStore.after_nil]
  generalize outcome : (Except.error f : Except Fault CodeView) = o at runs
  cases runs_link_iff.1 runs with
  | unlocated asks => exact .inl ⟨asks.barred named carried, idle asks⟩
  | unpaired asks check =>
    exact .inl ⟨.inl (barred_of_locates (asks.locates named carried).1 check), idle asks⟩
  | @pursued t u l individual joining o asks check attends pursues =>
    obtain rfl := error_eq_map_iff.1 outcome
    obtain ⟨s₁, before, after⟩ := carries_append_iff.1 carried
    obtain rfl : s₁ = s := by rw [before.eq_after, asks.deeds_eq_nil, MemoryStore.after_nil]
    obtain ⟨located, legible⟩ := asks.locates named before
    refine .inr ⟨?_, ?_, l, u.deeds, located, attends.completes named check pursues after,
      after.eq_after⟩
    · rw [unread_append_iff, not_or, not_or]
      exact ⟨not_barred_of_locates located legible check, asks.not_unread,
        attends.not_unread pursues⟩
    · obtain ⟨stage, hs, failed⟩ := pursues.exists_failed
      obtain ⟨_, schema, key, d, write⟩ := attends.mem_stages hs
      rw [write] at failed
      exact ⟨.store schema key d, rfl, List.mem_append_right _ failed⟩

/-- A link that fails leaves all but the cases as it was, and no case is lost or replaced. It has
added at most a case for its address and an individual case. If anything barred it, or a read
failed, it has changed nothing and published nothing, and otherwise it failed as a write did. -/
theorem failed_link_damages_nothing (named : r.WellNamed) (fresh : k.DrawsNew r)
    (run : Program.RunsOn k.Allows (link r settings hash request).run s t (.error f) s') :
    (∀ schema, schema ≠ r.schemas.case → s'.documents schema = s.documents schema) ∧
    (∀ key d, (s.documents r.schemas.case).lookup key = some d →
      (s'.documents r.schemas.case).lookup key = some d) ∧
    (∃ reported joined : List CollectionCase, reported.length ≤ 1 ∧ joined.length ≤ 1 ∧
      (∀ c ∈ reported, c.uprn = request.place ∧ c.type ≠ .individual) ∧
      (∀ c ∈ joined, c.type = .individual) ∧
      (s'.documents r.schemas.case).Perm
        ((reported ++ joined).map (fun c => (c.id, Wire.toDocument c)) ++
          s.documents r.schemas.case)) ∧
    (Barred r s hash request ∨ Unread t →
      s' = s ∧ (∀ c ∈ t.calls, c.isWrite = false) ∧ t.notices = []) ∧
    (¬ (Barred r s hash request ∨ Unread t) →
      ∃ c, c.isWrite = true ∧ (⟨.call c, .error f⟩ : Exchange) ∈ t) := by
  rcases idle_or_stopped named run with
    ⟨hindered, rfl, idle⟩ | ⟨free, failed, l, ds, found, ends, rfl⟩
  · refine ⟨fun _ _ => rfl, fun _ _ => id, ?_, fun _ => ⟨rfl, idle⟩, fun free => ?_⟩
    · exact ⟨[], [], by simp, by simp, by simp, by simp, .refl _⟩
    · exact absurd hindered free
  · refine ⟨fun schema => ends.documents_of_error, fun key d => ?_,
      ends.adds_of_error named fresh found, fun hindered => absurd hindered free, fun _ => failed⟩
    exact r.lookup_after named ends.proper (ends.novel named fresh (found.novel_reports fresh))

/-- In the example the first link fails after it has made an individual case. -/
theorem failed_link_damages_nothing_sample : ∃ t f s',
    Program.RunsOn Sample.rough.Allows
      (link Sample.registry .standard "code" Sample.request).run Sample.store t (.error f) s' ∧
    s'.documents "uac" = Sample.store.documents "uac" ∧
    ∃ d, (Sample.store.documents "case").lookup "a" = some d ∧
      (s'.documents "case").lookup "a" = some d := by
  obtain ⟨e₁, _, _, session, links, ⟨⟨f, failed⟩, _⟩, _⟩ := Sample.exists_session
  obtain ⟨hash, request⟩ := links e₁ List.mem_cons_self
  have there : ((Sample.store.documents "case").lookup "a").isSome := by decide +kernel
  obtain ⟨d, found⟩ := Option.isSome_iff_exists.1 there
  cases session with
  | @cons _ s₁ _ _ _ run _ =>
    rw [Episode.Leads, hash, request, failed] at run
    obtain ⟨others, kept, _⟩ :=
      failed_link_damages_nothing Sample.wellNamed Sample.drawsNew run
    exact ⟨_, f, s₁, run, others "uac" (by decide), d, found, kept "a" d found⟩

end Link
end CensusLink
