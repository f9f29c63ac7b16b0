import CensusLink.Proofs.Linking.Concurrent
import CensusLink.Proofs.Registry.Within
import CensusLink.Proofs.Store.Calm

/-!
The footprint of a link. It reads only its code and the cases at its address, and all of that before
it does anything; and it keeps only its code, and cases at its address under identifiers that it has
drawn.
-/
namespace CensusLink

namespace Link

variable {r : Registry} {settings : LinkSettings} {hash : String} {request : LinkRequest}
  {t : Trace} {l : Located} {s s' : MemoryStore}

/-- A link reads before it does anything, and only its code and the cases at its address. -/
theorem Follows.reads_first {o : Except Fault CodeView}
    (h : Follows r settings hash request t o) {before after : Trace} {c : StoreCall}
    {out : c.Outcome} (split : t = before ++ ⟨.call c, out⟩ :: after) :
    c.isWrite = true ∨ (before.deeds = [] ∧ (c = .retrieve r.schemas.accessCode hash ∨
      c = .search r.schemas.case Registry.uprnPath request.place)) := by
  -- up to here a link has only asked
  have asking {t : Trace} {o : Except Fault Located} (asks : Inquires r settings hash request t o)
      {after : Trace} (split : t = before ++ ⟨.call c, out⟩ :: after) :
      before.deeds = [] ∧ (c = .retrieve r.schemas.accessCode hash ∨
        c = .search r.schemas.case Registry.uprnPath request.place) := by
    have idle := asks.deeds_eq_nil
    have call : c ∈ t.calls := Trace.mem_calls (split ▸ List.mem_append_right _ List.mem_cons_self)
    rw [split, Trace.deeds_append] at idle
    refine ⟨(List.append_eq_nil_iff.1 idle).1, ?_⟩
    rcases asks.calls.2 with ⟨_, calls⟩ | calls
    · rw [calls] at call
      exact .inl (List.mem_singleton.1 call)
    · rw [calls] at call
      simpa using call
  cases h with
  | unlocated asks => exact .inr (asking asks split)
  | unpaired asks _ => exact .inr (asking asks split)
  | @pursued t u _ _ _ _ asks _ attends pursues =>
    rcases List.append_eq_append_iff.1 split with ⟨more, rfl, rest⟩ | ⟨more, here, rest⟩
    · refine .inl (attends.isWrite_of_mem_calls pursues c (Trace.mem_calls (o := out) ?_))
      rw [rest]
      exact List.mem_append_right _ List.mem_cons_self
    · cases more with
      | nil =>
        refine .inl (attends.isWrite_of_mem_calls pursues c (Trace.mem_calls (o := out) ?_))
        rw [← List.nil_append u, ← rest]
        exact List.mem_cons_self
      | cons x more =>
        obtain ⟨rfl, _⟩ := List.cons.inj rest
        exact .inr (asking asks here)

theorem Inquires.asks_once {o : Except Fault Located}
    (asks : Inquires r settings hash request t o) : ∃ out rest, t = asksCode r hash out :: rest ∧
      .retrieve r.schemas.accessCode hash ∉ Trace.calls rest := by
  have none : StoreCall.retrieve r.schemas.accessCode hash ∉ [] := List.not_mem_nil
  have other : StoreCall.retrieve r.schemas.accessCode hash ∉
      [.search r.schemas.case Registry.uprnPath request.place] := by
    simp
  cases asks with
  | codeUnread f => exact ⟨_, _, rfl, none⟩
  | unknown => exact ⟨_, _, rfl, none⟩
  | codeUnreadable _ => exact ⟨_, _, rfl, none⟩
  | refused _ _ => exact ⟨_, _, rfl, none⟩
  | casesUnread _ _ f => exact ⟨_, _, rfl, other⟩
  | casesUnreadable _ _ _ => exact ⟨_, _, rfl, other⟩
  | unclear _ _ _ _ => exact ⟨_, _, rfl, other⟩
  | settled _ _ _ _ => exact ⟨_, _, rfl, other⟩
  | vacant _ _ _ _ => exact ⟨_, _, rfl, other⟩

/-- A link asks for its code first, and only once. -/
theorem Follows.asks_once {o : Except Fault CodeView} (h : Follows r settings hash request t o) :
    ∃ out rest, t = asksCode r hash out :: rest ∧
      .retrieve r.schemas.accessCode hash ∉ Trace.calls rest := by
  cases h with
  | unlocated asks => exact asks.asks_once
  | unpaired asks _ => exact asks.asks_once
  | @pursued _ u _ _ _ _ asks _ attends pursues =>
    obtain ⟨out, rest, rfl, once⟩ := asks.asks_once
    refine ⟨out, rest ++ u, rfl, fun member => ?_⟩
    rw [Trace.calls_append] at member
    rcases List.mem_append.1 member with member | member
    · exact once member
    · cases attends.isWrite_of_mem_calls pursues _ member

/-- A link that ran next to others runs in the same way wherever its reads are answered as they
were. -/
theorem runsOn_share {ι : Type} [DecidableEq ι] {t : JointTrace ι} {i : ι}
    {o : Except Fault CodeView} (run : (link r settings hash request).run.Runs (t.share i) o)
    (carried : Carries Conditions.calm.Allows s t.whole s') (base : MemoryStore)
    (same : ∀ (t₁ : JointTrace ι) (c : StoreCall) (out : c.Outcome) (t₂ : JointTrace ι),
      t = t₁ ++ (i, ⟨.call c, out⟩) :: t₂ → (t₁.share i).deeds = [] →
      (c = .retrieve r.schemas.accessCode hash ∨
        c = .search r.schemas.case Registry.uprnPath request.place) →
      (base.step c).1 = ((s.after t₁.whole.deeds).step c).1) :
    Program.RunsOn Conditions.calm.Allows (link r settings hash request).run base (t.share i) o
      (base.after (t.share i).deeds) := by
  refine ⟨run, JointTrace.carries_share carried base fun t₁ c out t₂ split => ?_⟩
  have mine : t.share i = t₁.share i ++ ⟨.call c, out⟩ :: t₂.share i := by
    rw [split, JointTrace.share_append, JointTrace.share_cons_self]
  rcases (runs_link_iff.1 run).reads_first mine with writes | ⟨idle, reads⟩
  · exact MemoryStore.step_of_isWrite writes _ _
  · rw [idle, MemoryStore.after_nil]
    exact same t₁ c out t₂ split idle reads

/-- Every stage of a link writes to one of the two schemas. -/
theorem Attends.check_of_mem_stages (named : r.WellNamed) {individual : Option CollectionCase}
    {joining : List Stage} (attends : Attends r l individual joining) {stage : Stage}
    (h : stage ∈ l.reportStages r ++ joining ++ [l.linkStage r individual]) :
    Schema.check stage.write.schema = .ok () := by
  rcases List.mem_append.1 h with before | last
  · rcases List.mem_append.1 before with first | second
    · rw [Located.reportStages] at first
      split at first
      · rw [List.mem_singleton.1 first]
        exact named.case
      · cases first
    · cases attends with
      | alone _ => cases second
      | again _ _ => cases second
      | anew _ _ id created =>
        rw [List.mem_singleton.1 second]
        exact named.case
  · rw [List.mem_singleton.1 last]
    exact named.code

/-- A link of which no write fails either does nothing or succeeds. -/
theorem Follows.idle_or_succeeds (named : r.WellNamed) {o : Except Fault CodeView}
    (h : Follows r settings hash request t o)
    (kept : ∀ (w : Write) f, Schema.check w.schema = .ok () → w.exchange (.error f) ∉ t) :
    t.deeds = [] ∨ ∃ l, Succeeds r settings hash request l t := by
  cases h with
  | unlocated asks => exact .inl asks.deeds_eq_nil
  | unpaired asks _ => exact .inl asks.deeds_eq_nil
  | @pursued t u l individual joining o asks check attends pursues =>
    cases o with
    | ok _ => exact .inr ⟨l, .intro asks check attends pursues⟩
    | error f =>
      obtain ⟨stage, hs, failed⟩ := pursues.exists_failed
      refine absurd (List.mem_append_right t failed) (kept stage.write f ?_)
      exact attends.check_of_mem_stages named hs

theorem Follows.proper (named : r.WellNamed) {o : Except Fault CodeView}
    (h : Follows r settings hash request t o)
    (kept : ∀ (w : Write) f, Schema.check w.schema = .ok () → w.exchange (.error f) ∉ t) :
    ∀ d ∈ t.deeds, d.Proper r := by
  rcases h.idle_or_succeeds named kept with idle | ⟨l, succeeds⟩
  · rw [idle]
    exact List.forall_mem_nil _
  · obtain ⟨_, ends⟩ := succeeds.completes .empty
    exact ends.proper

theorem id_individualCase (id : Uuid) (created : Instant) (c : CollectionCase) :
    (individualCase id created c).id = id.text := by
  simp only [individualCase]

theorem uprn_individualCase (id : Uuid) (created : Instant) (c : CollectionCase) :
    (individualCase id created c).uprn = c.uprn := by
  simp only [individualCase, CollectionCase.uprn]

/-- What is drawn for stages that all succeed is drawn in their trace. -/
theorem Pursues.mem_of_mem_drawn {p : RetryPolicy} {stages : List Stage}
    (h : Pursues p stages t (.ok ())) {stage : Stage} (hs : stage ∈ stages) {x : Exchange}
    (hx : x ∈ stage.drawn) : x ∈ t := by
  induction stages generalizing t with
  | nil => cases hs
  | cons first rest ih =>
    cases h with
    | passed writes tells more =>
      rcases List.mem_cons.1 hs with rfl | hs
      · exact List.mem_append_left _ (List.mem_append_left _ (List.mem_append_left _ hx))
      · exact List.mem_append_right _ (ih more hs)

/-- The cases that a link keeps, each with the identifier that was drawn for it. -/
inductive Succeeds.Keeps (r : Registry) (l : Located) (asked written : List Uuid) :
    List Deed → Prop
  | alone : Keeps r l asked written []
  | person {id : Uuid} {created : Instant} (drawn : id ∈ written) :
    Keeps r l asked written [.ofCase r (individualCase id created l.subject)]

/-- The deeds of a link that succeeds: its case, if that is new, perhaps an individual case, and the
code. -/
theorem Succeeds.deeds_eq (h : Succeeds r settings hash request l t) :
    ∃ asked u individual company, t = asked ++ u ∧
      Inquires r settings hash request asked (.ok l) ∧
      Succeeds.Keeps r l asked.ids u.ids company ∧
      t.deeds = l.reports r ++ company ++ l.links r individual := by
  cases h with
  | @intro asked u individual joining asks check attends pursues =>
    have deeds := pursues.deeds fun stage hs => (attends.mem_stages hs).1
    rw [List.flatMap_append, List.flatMap_append, l.deeds_reportStages] at deeds
    refine ⟨asked, u, individual, joining.flatMap Stage.deeds, rfl, asks, ?_, ?_⟩
    · cases attends with
      | alone _ => exact .alone
      | again _ _ => exact .alone
      | anew _ _ id created =>
        have last : individualStage r id created l.subject ∈ l.reportStages r ++
            [individualStage r id created l.subject] ++
              [l.linkStage r (some (individualCase id created l.subject))] := by
          simp
        have drawn : (⟨.freshId, id⟩ : Exchange) ∈ u :=
          pursues.mem_of_mem_drawn last List.mem_cons_self
        exact .person (List.mem_filterMap.2 ⟨_, drawn, rfl⟩)
    · rw [Trace.deeds_append, asks.deeds_eq_nil, deeds]
      rfl

/-- What a link is told is of its code and of cases at its address. -/
structure Informed (r : Registry) (hash : String) (request : LinkRequest) (t : Trace) : Prop where
  code {d : Document} (told : asksCode r hash (.ok (some d)) ∈ t) :
    ∃ code : AccessCode, Wire.ofDocument d = .ok code ∧ code.hash = hash
  cases {found : List Document} {seen : List CollectionCase}
    (told : asksCases r request (.ok found) ∈ t) (read : seen = found.filterMap Document.read?) :
    (seen.map (·.id)).Nodup ∧ ∀ c ∈ seen, c.uprn = request.place

theorem Inquires.about (asks : Inquires r settings hash request t (.ok l))
    (informed : Informed r hash request t) : l.code.hash = hash ∧
      l.subject.uprn = request.place ∧ (l.isNew = true → ∃ id ∈ t.ids, l.subject.id = id.text) := by
  cases asks with
  | @settled d code type found cases c read check reads resolved =>
    obtain ⟨code', read', mine⟩ := informed.code List.mem_cons_self
    obtain rfl : code = code' := Except.ok.inj (read.symm.trans read')
    obtain ⟨_, seen⟩ := readCases_eq_ok_iff.1 reads
    obtain ⟨ids, there⟩ := informed.cases (List.mem_cons_of_mem _ List.mem_cons_self) seen
    exact ⟨mine, there c ((resolve_eq_settled_iff ids).1 resolved).mem, nofun⟩
  | @vacant d code type read check id created =>
    obtain ⟨code', read', mine⟩ := informed.code List.mem_cons_self
    obtain rfl : code = code' := Except.ok.inj (read.symm.trans read')
    exact ⟨mine, rfl, fun _ => ⟨id, List.mem_cons_self, rfl⟩⟩

theorem Informed.mono {u : Trace} (informed : Informed r hash request u)
    (sub : ∀ x ∈ t, x ∈ u) : Informed r hash request t :=
  ⟨fun told => informed.code (sub _ told), fun told => informed.cases (sub _ told)⟩

/-- A link keeps within its code and its address. -/
theorem Succeeds.within (h : Succeeds r settings hash request l t)
    (informed : Informed r hash request t) :
    ∀ d ∈ t.deeds, d.Within r hash request.place t.ids := by
  obtain ⟨asked, u, individual, company, rfl, asks, keeps, deeds⟩ := h.deeds_eq
  obtain ⟨mine, there, new⟩ := asks.about (informed.mono fun _ => List.mem_append_left _)
  intro d hd
  rw [Trace.ids_append]
  rw [deeds] at hd
  rcases List.mem_append.1 hd with hd | hd
  · rcases List.mem_append.1 hd with hd | hd
    · rw [Located.reports] at hd
      split at hd
      next isNew =>
        obtain ⟨id, drawn, named⟩ := new isNew
        simp only [List.mem_cons, List.not_mem_nil, or_false] at hd
        rcases hd with rfl | rfl
        · exact .case there (List.mem_append_left _ drawn) named
        · exact .told _
      next => cases hd
    · cases keeps with
      | alone => cases hd
      | person drawn =>
        rw [List.mem_singleton.1 hd]
        exact .case ((uprn_individualCase _ _ _).trans there) (List.mem_append_right _ drawn)
          (id_individualCase _ _ _)
  · simp only [Located.links, List.mem_cons, List.not_mem_nil, or_false] at hd
    rcases hd with rfl | rfl
    · exact .code _ mine
    · exact .told _

theorem Follows.within (named : r.WellNamed) {o : Except Fault CodeView}
    (h : Follows r settings hash request t o)
    (kept : ∀ (w : Write) f, Schema.check w.schema = .ok () → w.exchange (.error f) ∉ t)
    (informed : Informed r hash request t) :
    ∀ d ∈ t.deeds, d.Within r hash request.place t.ids := by
  rcases h.idle_or_succeeds named kept with idle | ⟨l, succeeds⟩
  · rw [idle]
    exact List.forall_mem_nil _
  · exact succeeds.within informed

theorem Succeeds.nodup_ids_keptCases (named : r.WellNamed)
    (h : Succeeds r settings hash request l t) (informed : Informed r hash request t)
    (ids : t.ids.Nodup) : ((keptCases r t.deeds).map (·.id)).Nodup := by
  obtain ⟨asked, u, individual, company, rfl, asks, keeps, deeds⟩ := h.deeds_eq
  obtain ⟨_, _, new⟩ := asks.about (informed.mono fun _ => List.mem_append_left _)
  rw [deeds, keptCases_append, keptCases_append, keptCases_reports, keptCases_links named,
    List.append_nil, Located.reported]
  cases keeps with
  | alone => cases l.isNew <;> simp
  | @person id created drawn =>
    cases isNew : l.isNew with
    | false => simp [keptCases_cons]
    | true =>
      -- the identifiers of the two cases are drawn one after the other
      obtain ⟨id', drawn', eq⟩ := new isNew
      have apart : id' ≠ id := by
        rw [Trace.ids_append] at ids
        exact (List.nodup_append.1 ids).2.2 id' drawn' id drawn
      have ne : l.subject.id ≠ (individualCase id created l.subject).id := by
        rw [eq, id_individualCase]
        exact fun same => apart (Uuid.text_injective same)
      simpa [keptCases_cons] using ne

/-- In a store in place a link is told of its code, and of cases at its address. -/
theorem informed_of_carries (named : r.WellNamed) (placed : r.Placed s)
    (proper : ∀ d ∈ t.deeds, d.Proper r) (carried : Carries Conditions.calm.Allows s t s') :
    Informed r hash request t := by
  -- whenever it asks, everything is in place
  have placedAt {before after : Trace} {s₁ : MemoryStore} (split : t = before ++ after)
      (first : Carries Conditions.calm.Allows s before s₁) : r.Placed s₁ := by
    rw [first.eq_after]
    refine placed.after named fun d hd => proper d ?_
    rw [split, Trace.deeds_append]
    exact List.mem_append_left _ hd
  constructor
  · intro d told
    obtain ⟨before, after, split⟩ := List.append_of_mem told
    obtain ⟨s₁, first, second⟩ := carries_append_iff.1 (split ▸ carried)
    have placed₁ := placedAt split first
    cases second with
    | cons here _ =>
      obtain ⟨there, _⟩ := eq_lookup_of_allows named here
      exact placed₁.codes _ (placed₁.ordered.mem_of_lookup there)
  · intro found seen told read
    obtain ⟨before, after, split⟩ := List.append_of_mem told
    obtain ⟨s₁, first, second⟩ := carries_append_iff.1 (split ▸ carried)
    have placed₁ := placedAt split first
    cases second with
    | cons here _ =>
      obtain ⟨there, _⟩ := eq_matching_of_allows named here
      rw [← there] at read
      have eq : seen = r.casesIn s₁ request.place := read
      rw [eq]
      exact ⟨r.nodup_ids_casesIn placed₁ _, fun c hc => (r.exists_of_mem_casesIn placed₁ hc).1⟩

end Link
end CensusLink
