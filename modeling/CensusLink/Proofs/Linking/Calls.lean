import CensusLink.Proofs.Linking.Growth
import CensusLink.Proofs.Linking.Protocol

/-!
The calls, the notices and the deeds of a link, whatever its store replies. Each stage makes one and
the same call, some times, and its notice is told exactly if the last of them succeeds. The main
statement gives the traces of a link in full, and says what follows for its calls and its notices.
-/
namespace CensusLink

def Exchange.call? : Exchange → Option StoreCall
  | ⟨.call c, _⟩ => some c
  | _ => none

/-- The calls of a trace, in their order. -/
def Trace.calls (t : Trace) : List StoreCall := t.filterMap Exchange.call?

def Exchange.notice? : Exchange → Option Notice
  | ⟨.publish n, _⟩ => some n
  | _ => none

/-- What is published in a trace, in its order. -/
def Trace.notices (t : Trace) : List Notice := t.filterMap Exchange.notice?

@[simp]
theorem Trace.calls_append (t u : Trace) : Trace.calls (t ++ u) = t.calls ++ u.calls :=
  List.filterMap_append

@[simp]
theorem Trace.notices_append (t u : Trace) : Trace.notices (t ++ u) = t.notices ++ u.notices :=
  List.filterMap_append

theorem Trace.mem_calls {t : Trace} {c : StoreCall} {o : c.Outcome}
    (h : (⟨.call c, o⟩ : Exchange) ∈ t) : c ∈ t.calls := List.mem_filterMap.2 ⟨_, h, rfl⟩

theorem StoreCall.deeds_of_not_isWrite : ∀ {c : StoreCall}, c.isWrite = false → c.deeds = []
  | .retrieve _ _, _ => rfl
  | .search _ _ _, _ => rfl

/-- Without calls and notices there are no deeds. -/
theorem Trace.deeds_eq_nil {t : Trace} (calls : t.calls = []) (notices : t.notices = []) :
    t.deeds = [] := by
  refine List.flatMap_eq_nil_iff.2 fun x hx => ?_
  have call := List.filterMap_eq_nil_iff.1 calls x hx
  have notice := List.filterMap_eq_nil_iff.1 notices x hx
  obtain ⟨e, reply⟩ := x
  cases e with
  | call c => cases call
  | publish n => cases notice
  | _ => rfl

namespace Write

variable {p : RetryPolicy} {w : Write} {t : Trace} {o : Except Fault Unit}

@[simp]
theorem call?_exchange (w : Write) (o : Except Fault Unit) :
    (w.exchange o).call? = some w.toCall := by
  cases w <;> rfl

@[simp]
theorem notice?_exchange (w : Write) (o : Except Fault Unit) : (w.exchange o).notice? = none := by
  cases w <;> rfl

theorem calls_waits (p : RetryPolicy) (w : Write) (number : Nat) (met : List Fault) :
    (waits p w number met).calls = List.replicate met.length w.toCall := by
  induction met generalizing number with
  | nil => rfl
  | cons f met ih =>
    rw [List.length_cons, List.replicate_succ, ← ih (number + 1)]
    exact List.filterMap_cons_some (call?_exchange w _)

theorem notices_waits (p : RetryPolicy) (w : Write) (number : Nat) (met : List Fault) :
    (waits p w number met).notices = [] := by
  induction met generalizing number with
  | nil => rfl
  | cons f met ih =>
    rw [← ih (number + 1)]
    exact List.filterMap_cons_none (notice?_exchange w _)

theorem calls_report (w : Write) (attempts : Nat) (o : Except Fault Unit) :
    (w.report attempts o).calls = [] ∧ (w.report attempts o).notices = [] := by
  cases o with
  | ok _ => exact ⟨rfl, rfl⟩
  | error f =>
    rw [report]
    split <;> exact ⟨rfl, rfl⟩

/-- A write makes its call at least once and at most as often as its policy allows. -/
theorem Persists.calls (h : w.Persists p t o) :
    ∃ n, 0 < n ∧ n ≤ p.attempts ∧ t.calls = List.replicate n w.toCall := by
  obtain ⟨met, _, few, _, rfl⟩ := h
  refine ⟨met.length + 1, by omega, by omega, ?_⟩
  have last : Trace.calls (w.exchange o :: w.report (met.length + 1) o) = [w.toCall] := by
    rw [← (calls_report w (met.length + 1) o).1]
    exact List.filterMap_cons_some (call?_exchange w o)
  rw [Trace.calls_append, calls_waits, last, List.replicate_succ']

theorem Persists.notices (h : w.Persists p t o) : t.notices = [] := by
  obtain ⟨met, _, _, _, rfl⟩ := h
  have last : Trace.notices (w.exchange o :: w.report (met.length + 1) o) = [] := by
    rw [← (calls_report w (met.length + 1) o).2]
    exact List.filterMap_cons_none (notice?_exchange w o)
  rw [Trace.notices_append, notices_waits, last, List.append_nil]

theorem deeds_waits (p : RetryPolicy) (w : Write) (number : Nat) (met : List Fault) :
    (waits p w number met).deeds = [] := by
  induction met generalizing number with
  | nil => rfl
  | cons f met ih =>
    have failed : (w.exchange (.error f)).deeds = [] := by cases w <;> rfl
    rw [waits, Trace.deeds, List.flatMap_cons, failed]
    exact ih (number + 1)

/-- A write that succeeds has done what its call does, once. -/
theorem Persists.deeds (h : w.Persists p t (.ok ())) : t.deeds = w.toCall.deeds := by
  obtain ⟨met, _, _, _, rfl⟩ := h
  have last : (w.exchange (.ok ())).deeds = w.toCall.deeds := by cases w <;> rfl
  rw [Trace.deeds_append, deeds_waits, Trace.deeds, List.flatMap_cons, last]
  exact List.append_nil _

end Write

namespace Link

variable {r : Registry} {settings : LinkSettings} {hash : String} {request : LinkRequest}
  {t : Trace} {p : RetryPolicy} {stages joining : List Stage} {l : Located}
  {individual : Option CollectionCase} {o : Except Fault Unit}

/-- Calls that are made in groups, each a number of times. -/
def repeated (groups : List (Nat × Write)) : List StoreCall :=
  groups.flatMap fun (n, w) => List.replicate n w.toCall

theorem Tells.deeds {notice : Option Notice} (h : Tells notice t) :
    t.deeds = notice.toList.map .told := by
  cases h with
  | nothing => rfl
  | notice n reply => rfl

theorem Tells.calls {notice : Option Notice} (h : Tells notice t) :
    t.calls = [] ∧ t.notices = notice.toList := by
  cases h with
  | nothing => exact ⟨rfl, rfl⟩
  | notice n reply => exact ⟨rfl, rfl⟩

/-- What is drawn for a stage is neither a call nor a notice. -/
def Stage.Quiet (stage : Stage) : Prop := stage.drawn.calls = [] ∧ stage.drawn.notices = []

/-- The calls of some stages are groups of one call each, for a beginning of the stages. -/
theorem Pursues.calls (quiet : ∀ stage ∈ stages, stage.Quiet) (h : Pursues p stages t o) :
    ∃ groups, groups.map (·.2) <+: stages.map (·.write) ∧
      (∀ g ∈ groups, 0 < g.1 ∧ g.1 ≤ p.attempts) ∧ t.calls = repeated groups := by
  induction h with
  | finished => exact ⟨[], List.nil_prefix, by simp, rfl⟩
  | @stopped stage rest t f fails =>
    obtain ⟨n, some, few, calls⟩ := fails.calls
    refine ⟨[(n, stage.write)], List.prefix_append [_] _, by simp [some, few], ?_⟩
    rw [Trace.calls_append, (quiet stage List.mem_cons_self).1, calls]
    simp [repeated]
  | @passed stage rest t told u o writes tells more ih =>
    obtain ⟨n, some, few, calls⟩ := writes.calls
    obtain ⟨groups, begins, all, later⟩ := ih fun st hst => quiet st (List.mem_cons_of_mem _ hst)
    refine ⟨(n, stage.write) :: groups, (List.prefix_cons_inj _).2 begins, ?_, ?_⟩
    · exact List.forall_mem_cons.2 ⟨⟨some, few⟩, all⟩
    · simp [(quiet stage List.mem_cons_self).1, calls, tells.calls.1, later, repeated]

/-- All notices of stages that succeed are told, and those of a beginning of stages if one fails. -/
theorem Pursues.notices (quiet : ∀ stage ∈ stages, stage.Quiet) (h : Pursues p stages t o) :
    (o = .ok () ∧ t.notices = stages.filterMap (·.notice)) ∨
      ((∃ f, o = .error f) ∧ t.notices <+: stages.dropLast.filterMap (·.notice)) := by
  induction h with
  | finished => exact .inl ⟨rfl, rfl⟩
  | @stopped stage rest t f fails =>
    refine .inr ⟨⟨f, rfl⟩, ?_⟩
    rw [Trace.notices_append, (quiet stage List.mem_cons_self).2, fails.notices]
    exact List.nil_prefix
  | @passed stage rest t told u o writes tells more ih =>
    have here : Trace.notices (stage.drawn ++ t ++ told ++ u) =
        stage.notice.toList ++ u.notices := by
      simp [(quiet stage List.mem_cons_self).2, writes.notices, tells.calls.2]
    have cons (sts : List Stage) : (stage :: sts).filterMap (·.notice) =
        stage.notice.toList ++ sts.filterMap (·.notice) := by
      cases kind : stage.notice <;> simp [kind]
    rw [here]
    rcases ih fun st hst => quiet st (List.mem_cons_of_mem _ hst) with ⟨rfl, all⟩ | ⟨failed, begins⟩
    · exact .inl ⟨rfl, by rw [all, cons]⟩
    · cases rest with
      | nil =>
        obtain ⟨f, rfl⟩ := failed
        cases more
      | cons next rest =>
        refine .inr ⟨failed, ?_⟩
        rw [List.dropLast_cons_cons, cons]
        exact (List.prefix_append_right_inj _).2 begins

/-- What a stage does if it succeeds. -/
def Stage.deeds (stage : Stage) : List Deed :=
  stage.write.toCall.deeds ++ stage.notice.toList.map .told

theorem Pursues.deeds (quiet : ∀ stage ∈ stages, stage.Quiet) (h : Pursues p stages t (.ok ())) :
    t.deeds = stages.flatMap Stage.deeds := by
  induction stages generalizing t with
  | nil =>
    cases h
    rfl
  | cons stage rest ih =>
    cases h with
    | passed writes tells more =>
      obtain ⟨calls, notices⟩ := quiet stage List.mem_cons_self
      have later := ih (fun st hst => quiet st (List.mem_cons_of_mem _ hst)) more
      simp [Trace.deeds_eq_nil calls notices, writes.deeds, tells.deeds, later, Stage.deeds]

/-- The calls of what is asked: the code, and then perhaps the cases. -/
theorem Inquires.calls {o : Except Fault Located} (h : Inquires r settings hash request t o) :
    t.notices = [] ∧
      ((∃ f, o = .error f) ∧ t.calls = [.retrieve r.schemas.accessCode hash] ∨
        t.calls = [.retrieve r.schemas.accessCode hash,
          .search r.schemas.case Registry.uprnPath request.place]) := by
  cases h with
  | codeUnread f => exact ⟨rfl, .inl ⟨⟨f, rfl⟩, rfl⟩⟩
  | unknown => exact ⟨rfl, .inl ⟨⟨_, rfl⟩, rfl⟩⟩
  | codeUnreadable _ => exact ⟨rfl, .inl ⟨⟨_, rfl⟩, rfl⟩⟩
  | refused _ _ => exact ⟨rfl, .inl ⟨⟨_, rfl⟩, rfl⟩⟩
  | casesUnread _ _ f => exact ⟨rfl, .inr rfl⟩
  | casesUnreadable _ _ _ => exact ⟨rfl, .inr rfl⟩
  | unclear _ _ _ _ => exact ⟨rfl, .inr rfl⟩
  | settled _ _ _ _ => exact ⟨rfl, .inr rfl⟩
  | vacant _ _ _ _ => exact ⟨rfl, .inr rfl⟩

/-- Every stage of a link stores something. -/
theorem Attends.mem_stages (attends : Attends r l individual joining) {stage : Stage}
    (h : stage ∈ l.reportStages r ++ joining ++ [l.linkStage r individual]) :
    stage.Quiet ∧ ∃ schema key d, stage.write = .store schema key d := by
  rcases List.mem_append.1 h with before | last
  · rcases List.mem_append.1 before with first | second
    · rw [Located.reportStages] at first
      split at first
      · rw [List.mem_singleton.1 first]
        exact ⟨⟨rfl, rfl⟩, _, _, _, rfl⟩
      · cases first
    · cases attends with
      | alone _ => cases second
      | again _ _ => cases second
      | anew _ _ id created =>
        rw [List.mem_singleton.1 second]
        exact ⟨⟨rfl, rfl⟩, _, _, _, rfl⟩
  · rw [List.mem_singleton.1 last]
    exact ⟨⟨rfl, rfl⟩, _, _, _, rfl⟩

theorem Attends.length_stages_le (attends : Attends r l individual joining) :
    (l.reportStages r ++ joining ++ [l.linkStage r individual]).length ≤ 3 := by
  have one : (l.reportStages r).length ≤ 1 := by
    rw [Located.reportStages]
    split <;> simp
  have another : joining.length ≤ 1 := by
    cases attends <;> simp
  rw [List.length_append, List.length_append, List.length_singleton]
  omega

/-- A link writes in at most three groups of calls, each of which stores something. -/
theorem Attends.calls_of_pursues (attends : Attends r l individual joining)
    (h : Pursues p (l.reportStages r ++ joining ++ [l.linkStage r individual]) t o) :
    ∃ groups, groups.length ≤ 3 ∧
      (∀ g ∈ groups, 0 < g.1 ∧ g.1 ≤ p.attempts ∧ ∃ schema key d, g.2 = .store schema key d) ∧
      t.calls = repeated groups := by
  obtain ⟨groups, begins, counts, calls⟩ := h.calls fun stage hs => (attends.mem_stages hs).1
  have few := begins.length_le
  rw [List.length_map, List.length_map] at few
  refine ⟨groups, Nat.le_trans few attends.length_stages_le, fun g hg => ?_, calls⟩
  obtain ⟨stage, hs, eq⟩ := List.mem_map.1 (begins.subset (List.mem_map_of_mem hg))
  rw [← eq]
  exact ⟨(counts g hg).1, (counts g hg).2, (attends.mem_stages hs).2⟩

theorem Attends.isWrite_of_mem_calls (attends : Attends r l individual joining)
    (h : Pursues p (l.reportStages r ++ joining ++ [l.linkStage r individual]) t o) :
    ∀ c ∈ t.calls, c.isWrite = true := by
  obtain ⟨groups, _, all, calls⟩ := attends.calls_of_pursues h
  intro c hc
  rw [calls] at hc
  obtain ⟨⟨n, w⟩, hg, hc⟩ := List.mem_flatMap.1 hc
  obtain ⟨_, _, schema, key, d, rfl⟩ := all _ hg
  rw [(List.mem_replicate.1 hc).2]
  rfl

/-- Before the code is linked, only a new case is announced. -/
theorem Attends.notices (attends : Attends r l individual joining) :
    (l.reportStages r ++ joining).filterMap (·.notice) = l.reported.map reportNotice := by
  have none : joining.filterMap (·.notice) = [] := by
    cases attends <;> rfl
  rw [List.filterMap_append, none, List.append_nil, Located.reportStages, Located.reported]
  cases l.isNew <;> rfl

/-- What a link publishes if it succeeds, and what else if it fails after it has begun to write. -/
theorem Attends.notices_of_pursues (attends : Attends r l individual joining)
    (h : Pursues p (l.reportStages r ++ joining ++ [l.linkStage r individual]) t o) :
    (o = .ok () ∧ t.notices =
        l.reported.map reportNotice ++ [linkNotice l.code l.subject individual]) ∨
      ((∃ f, o = .error f) ∧ t.notices <+: l.reported.map reportNotice) := by
  rcases h.notices fun stage hs => (attends.mem_stages hs).1 with ⟨rfl, all⟩ | ⟨failed, some⟩
  · refine .inl ⟨rfl, ?_⟩
    rw [all, List.filterMap_append, attends.notices]
    rfl
  · rw [List.dropLast_concat, attends.notices] at some
    exact .inr ⟨failed, some⟩

/-- An individual case that is attended to is what keeps a code company, whatever may be drawn. -/
theorem Attends.accompanies {k : Conditions} {s : MemoryStore} (drawn : ∀ id, k.mayDraw s id)
    (attends : Attends r l individual joining) :
    Accompanies r k s l individual (joining.flatMap Stage.deeds) := by
  cases attends with
  | alone needless => exact .alone needless
  | again needed linked => exact .again needed linked
  | anew needed unlinked id created => exact .anew needed unlinked (drawn id)

theorem Located.deeds_reportStages (r : Registry) (l : Located) :
    (l.reportStages r).flatMap Stage.deeds = l.reports r := by
  rw [reportStages, reports]
  cases l.isNew <;> rfl

/-- Stages that all succeed complete a link, on whatever store. -/
theorem Attends.completes_ok {k : Conditions} {s : MemoryStore} (drawn : ∀ s id, k.mayDraw s id)
    (attends : Attends r l individual joining) (check : Pairing.check l.code l.subject = .ok ())
    (h : Pursues p (l.reportStages r ++ joining ++ [l.linkStage r individual]) t (.ok ())) :
    Completes r k s l t.deeds
      (.ok (CodeView.merged (individual.getD l.subject) (l.linkedCode individual))) := by
  rw [h.deeds fun stage hs => (attends.mem_stages hs).1, List.flatMap_append, List.flatMap_append,
    l.deeds_reportStages]
  exact .linked check (attends.accompanies (drawn _))

/-- A link published that it linked its code exactly if it succeeded. -/
theorem Follows.succeeds_iff {o : Except Fault CodeView}
    (h : Follows r settings hash request t o) :
    (∃ v, o = .ok v) ↔ ∃ n ∈ t.notices, n.type = .questionnaireLinked := by
  cases h with
  | unlocated asks => simp [asks.calls.1]
  | unpaired asks check => simp [asks.calls.1]
  | @pursued t u l individual joining o asks check attends pursues =>
    rw [Trace.notices_append, asks.calls.1, List.nil_append]
    rcases attends.notices_of_pursues pursues with ⟨rfl, all⟩ | ⟨⟨f, rfl⟩, some⟩
    · rw [all]
      simp [linkNotice, Except.map]
    · constructor
      · rintro ⟨_, eq⟩
        cases eq
      · rintro ⟨n, hn, type⟩
        obtain ⟨c, _, rfl⟩ := List.mem_map.1 (some.subset hn)
        cases type

/-- The calls of a link: reads first, and then stores in at most three groups. -/
theorem Follows.calls {o : Except Fault CodeView} (h : Follows r settings hash request t o) :
    t.calls = [.retrieve r.schemas.accessCode hash] ∨
      ∃ groups, groups.length ≤ 3 ∧
        (∀ g ∈ groups, 0 < g.1 ∧ g.1 ≤ r.policy.attempts ∧
          ∃ schema key d, g.2 = .store schema key d) ∧
        t.calls = .retrieve r.schemas.accessCode hash ::
          .search r.schemas.case Registry.uprnPath request.place :: repeated groups := by
  cases h with
  | unlocated asks => exact asks.calls.2.imp And.right fun calls => ⟨[], by simp, by simp, calls⟩
  | unpaired asks check =>
    exact asks.calls.2.imp And.right fun calls => ⟨[], by simp, by simp, calls⟩
  | @pursued t u l individual joining o asks check attends pursues =>
    obtain ⟨groups, few, all, calls⟩ := attends.calls_of_pursues pursues
    rcases asks.calls.2 with ⟨⟨_, ⟨⟩⟩, _⟩ | asked
    refine .inr ⟨groups, few, all, ?_⟩
    rw [Trace.calls_append, asked, calls]
    rfl

/-- The traces of a link and what it comes to, on whatever store and under whatever policy: the
protocol in full; that it reads the code, then perhaps the cases, and then only stores, in at most
three groups of the same call; and that it publishes a link exactly if it succeeds. -/
theorem link_follows_protocol (r : Registry) (settings : LinkSettings) (hash : String)
    (request : LinkRequest) (t : Trace) (o : Except Fault CodeView) :
    ((link r settings hash request).run.Runs t o ↔ Follows r settings hash request t o) ∧
    (Follows r settings hash request t o →
      (t.calls = [.retrieve r.schemas.accessCode hash] ∨
        ∃ groups, groups.length ≤ 3 ∧
          (∀ g ∈ groups, 0 < g.1 ∧ g.1 ≤ r.policy.attempts ∧
            ∃ schema key d, g.2 = .store schema key d) ∧
          t.calls = .retrieve r.schemas.accessCode hash ::
            .search r.schemas.case Registry.uprnPath request.place :: repeated groups) ∧
      ((∃ v, o = .ok v) ↔ ∃ n ∈ t.notices, n.type = .questionnaireLinked)) :=
  ⟨runs_link_iff, fun h => ⟨h.calls, h.succeeds_iff⟩⟩

end Link
end CensusLink
