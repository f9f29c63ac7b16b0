import CensusLink.Proofs.Inbound.Verdict
import CensusLink.Proofs.Pool
import CensusLink.Proofs.Store.OneMap
import Mathlib.Data.List.Perm.Subperm

/-!
Messages that are handled together. Their handlers run in a pool on a store that does not fail, and
each does what it always does. What two of them do commutes unless they write under the same key, so
if the writes under one key keep their order, the store is left as if the messages had been handled
one after the other.
-/
namespace CensusLink

/-- The exchange writes under a key of a schema. -/
def Exchange.Writes (schema key : String) (x : Exchange) : Prop :=
  ∃ c, x.effect = .call c ∧ c.Writes schema key

/-- Of the writes under one key those with lower numbers come first. -/
def JointTrace.KeepsOrder (t : JointTrace Nat) : Prop :=
  t.Pairwise fun x y =>
    ∀ schema key, x.2.Writes schema key → y.2.Writes schema key → x.1 ≤ y.1

namespace Inbound

variable (r : Registry)

/-- The programs that handle messages. -/
def handlers (texts : List String) : List (Program (Except Fault EventType)) :=
  texts.map fun text => (handleMessage r text).run

/-- What messages are told, with their numbers. -/
def verdicts (texts : List String) : List (Nat × Except Fault EventType) :=
  texts.zipIdx.map fun (text, i) => (i, verdict r text)

variable {r} {texts : List String}

theorem numbers_verdicts (r : Registry) (texts : List String) :
    (verdicts r texts).map (·.1) = List.range texts.length := by
  have numbers : texts.zipIdx.map Prod.snd = List.range' 0 texts.length :=
    List.zipIdx_map_snd 0 texts
  unfold verdicts
  rw [List.range_eq_range', List.map_map]
  exact numbers

theorem outcomes_verdicts (r : Registry) (texts : List String) :
    (verdicts r texts).map (·.2) = texts.map (verdict r) := by
  have messages : texts.zipIdx.map Prod.fst = texts := List.zipIdx_map_fst 0 texts
  have split := congrArg (List.map (verdict r)) messages
  unfold verdicts
  rw [List.map_map] at split ⊢
  exact split

theorem exists_mem_zipIdx {i : Nat} (lt : i < texts.length) : ∃ text, (text, i) ∈ texts.zipIdx :=
  ⟨texts[i], by simp [List.mem_zipIdx_iff_getElem?, lt]⟩

theorem mem_pending_handlers {text : String} {i : Nat} (h : (text, i) ∈ texts.zipIdx) :
    (i, (handleMessage r text).run) ∈ (Pool.ofPrograms (handlers r texts)).pending := by
  unfold Pool.pending Pool.ofPrograms handlers
  rw [List.nil_append, List.zipIdx_map, List.map_map]
  exact List.mem_map.2 ⟨(text, i), h, rfl⟩

theorem exists_of_mem_writing (storable : r.Storable) {text : String} {x : Exchange}
    (h : x ∈ writing r text) :
    ∃ schema key d, x = (Write.store schema key d).exchange (.ok ()) := by
  unfold writing at h
  cases asked : asksFor r text with
  | error why =>
    rw [asked] at h
    cases h
  | ok a =>
    obtain ⟨type, w⟩ := a
    rw [asked] at h
    obtain ⟨_, schema, key, d, rfl⟩ := store_of_asksFor storable asked
    exact ⟨schema, key, d, List.mem_singleton.1 h⟩

/-- What two messages do commutes, unless they write under the same key. -/
theorem writes_or_commutes (storable : r.Storable) {text other : String} {x y : Exchange}
    (hx : x ∈ writing r text) (hy : y ∈ writing r other) :
    (∃ schema key, x.Writes schema key ∧ y.Writes schema key) ∨
      ∀ d ∈ x.deeds, ∀ e ∈ y.deeds, d.Commutes e := by
  obtain ⟨schema, key, d, rfl⟩ := exists_of_mem_writing storable hx
  obtain ⟨schema', key', d', rfl⟩ := exists_of_mem_writing storable hy
  by_cases same : schema = schema' ∧ key = key'
  · obtain ⟨rfl, rfl⟩ := same
    exact .inl ⟨schema, key, ⟨_, rfl, rfl, rfl⟩, ⟨_, rfl, rfl, rfl⟩⟩
  · right
    intro e he e' he' s
    obtain rfl := List.mem_singleton.1 he
    obtain rfl := List.mem_singleton.1 he'
    exact MemoryStore.undergo_kept_comm s fun eq eq' => same ⟨eq, eq'⟩

section Pooled

variable {root : String} {b : Backend} {s s' : b.Holding} {m : MemoryStore} {bound : Nat}
  {t : JointTrace Nat} {Q : Pool (Except Fault EventType)}
  {results : List (Nat × Except Fault EventType)}

theorem numbers_handlers (r : Registry) (texts : List String) :
    (Pool.ofPrograms (handlers r texts)).pending.map (·.1) = List.range texts.length := by
  have count : (handlers r texts).length = texts.length := List.length_map _
  rw [← count]
  exact Pool.numbers_ofPrograms (handlers r texts)

/-- Every exchange belongs to one of the messages. -/
theorem exists_of_mem_together
    (ends : Pool.Ends (Pool.ofPrograms (handlers r texts)).pending [] t results)
    {e : Nat × Exchange} (he : e ∈ t) : ∃ text, (text, e.1) ∈ texts.zipIdx := by
  have party := ends.parties e he
  rw [numbers_handlers] at party
  exact exists_mem_zipIdx (List.mem_range.1 party)

theorem sound_together (storable : r.Storable)
    (ends : Pool.Ends (Pool.ofPrograms (handlers r texts)).pending [] t results) :
    ∀ c ∈ t.whole.calls, c.Sound := by
  intro c hc
  obtain ⟨x, hx, call⟩ := List.mem_filterMap.1 hc
  obtain ⟨⟨i, _⟩, he, rfl⟩ := List.mem_map.1 hx
  obtain ⟨text, there⟩ := exists_of_mem_together ends he
  obtain ⟨o, _, ran⟩ := ends.ran _ (mem_pending_handlers there)
  exact sound_of_runs storable ran c
    (List.mem_filterMap.2 ⟨_, JointTrace.mem_share_iff.2 he, call⟩)

/-- If each verdict is among the results, there are no others. -/
theorem perm_verdicts
    (ends : Pool.Ends (Pool.ofPrograms (handlers r texts)).pending [] t results)
    (all : verdicts r texts ⊆ results) : results.Perm (verdicts r texts) := by
  have distinct : (verdicts r texts).Nodup :=
    List.Nodup.of_map (·.1) (numbers_verdicts r texts ▸ List.nodup_range)
  have same : results.length = (verdicts r texts).length := by
    have length := ends.numbers.length_eq
    rw [numbers_handlers] at length
    simpa [verdicts] using length
  exact ((List.subperm_of_subset distinct all).perm_of_length_le same.le).symm

/-- In a complete run of the pool each message has done what it always does and has been told what
it is always told. -/
theorem left_together (storable : r.Storable) (ordered : m.Ordered) (shows : b.Shows root s m)
    (run : Pool.Runs bound (Serves (b.step root) fun _ => False) s (.ofPrograms (handlers r texts))
      t s' Q) (none : Q.pending = []) :
    b.Shows root s' (m.after t.whole.deeds) ∧
    (∀ e ∈ t, ∃ text, (text, e.1) ∈ texts.zipIdx) ∧
    (∀ text i, (text, i) ∈ texts.zipIdx → t.share i = writing r text) ∧
    Q.results.Perm (verdicts r texts) := by
  have distinct : ((Pool.ofPrograms (handlers r texts)).pending.map (·.1)).Nodup :=
    numbers_handlers r texts ▸ List.nodup_range
  have ends := run.ends none distinct
  obtain ⟨shows, smooth⟩ := shows.carried ordered run.carries (sound_together storable ends)
  have each (text : String) (i : Nat) (h : (text, i) ∈ texts.zipIdx) :
      t.share i = writing r text ∧ (i, verdict r text) ∈ Q.results := by
    obtain ⟨o, given, ran⟩ := ends.ran _ (mem_pending_handlers h)
    have mine : Trace.Smooth (t.share i) := fun c f failed =>
      smooth c f (JointTrace.mem_whole_of_mem_share failed)
    obtain ⟨done, rfl⟩ := eq_writing_of_smooth ran mine
    exact ⟨done, given⟩
  have all : verdicts r texts ⊆ Q.results := by
    intro x hx
    obtain ⟨⟨text, i⟩, h, rfl⟩ := List.mem_map.1 hx
    exact (each text i h).2
  exact ⟨shows, fun e he => exists_of_mem_together ends he, fun text i h => (each text i h).1,
    perm_verdicts ends all⟩

/-- If the writes under one key are in their order, what is left is what is left if the messages are
handled one after the other. -/
theorem after_together (storable : r.Storable)
    (parties : ∀ e ∈ t, ∃ text, (text, e.1) ∈ texts.zipIdx)
    (shares : ∀ text i, (text, i) ∈ texts.zipIdx → t.share i = writing r text)
    (keeps : t.KeepsOrder) : m.after t.whole.deeds = m.after (writings r texts).deeds := by
  have source {e : Nat × Exchange} (he : e ∈ t) : ∃ text, e.2 ∈ writing r text := by
    obtain ⟨text, there⟩ := parties e he
    exact ⟨text, shares text e.1 there ▸ JointTrace.mem_share_iff.2 he⟩
  have number {e : Nat × Exchange} (he : e ∈ t) : e.1 ∈ List.range texts.length := by
    obtain ⟨text, there⟩ := parties e he
    exact List.mem_range.2 (List.snd_lt_of_mem_zipIdx there)
  have kept : t.Pairwise fun x y =>
      x.1 ≤ y.1 ∨ ∀ d ∈ x.2.deeds, ∀ e ∈ y.2.deeds, d.Commutes e := by
    refine List.Pairwise.imp_of_mem ?_ keeps
    intro x y hx hy order
    obtain ⟨text, hx⟩ := source hx
    obtain ⟨other, hy⟩ := source hy
    rcases writes_or_commutes storable hx hy with ⟨schema, key, first, second⟩ | commute
    · exact .inl (order schema key first second)
    · exact .inr commute
  have turns : (List.range texts.length).flatMap (JointTrace.share · t) = writings r texts := by
    have numbers : texts.zipIdx.map Prod.snd = List.range' 0 texts.length :=
      List.zipIdx_map_snd 0 texts
    have messages : texts.zipIdx.map Prod.fst = texts := List.zipIdx_map_fst 0 texts
    calc (List.range texts.length).flatMap (JointTrace.share · t)
        = texts.zipIdx.flatMap (fun x => t.share x.2) := by
          rw [List.range_eq_range', ← numbers, List.flatMap_map]
      _ = texts.zipIdx.flatMap (fun x => writing r x.1) :=
          List.flatMap_congr fun x hx => shares x.1 x.2 hx
      _ = (texts.zipIdx.map Prod.fst).flatMap (writing r) := by rw [List.flatMap_map]
      _ = writings r texts := by rw [messages, writings]
  rw [← turns]
  exact JointTrace.after_shares List.pairwise_lt_range (fun _ he => number he) kept m

end Pooled

end Inbound
end CensusLink
