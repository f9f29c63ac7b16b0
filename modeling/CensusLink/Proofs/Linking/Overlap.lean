import CensusLink.Proofs.Inbound.Handling
import CensusLink.Proofs.Linking.Footprint
import CensusLink.Proofs.Linking.Opening
import CensusLink.Proofs.Services.InStep

/-!
A link and, at the same time, a message that brings its code. The message replaces the code as a
whole, and the link writes back the code that it has read, with its case. If the message comes
between the two it is lost, and all is as the link alone would have left it. Otherwise one of the
two might as well have begun only after the other was done, and the code is as the message says.
-/
namespace CensusLink
namespace Link

/-- What a link and the handling of a message come to. -/
abbrev Ending : Bool → Type
  | true => Except Fault CodeView
  | false => Except Fault EventType

def linkAndMessage (r : Registry) (settings : LinkSettings) (hash : String) (request : LinkRequest)
    (text : String) : (i : Bool) → Program (Ending i)
  | true => (link r settings hash request).run
  | false => (Inbound.handleMessage r text).run

/-- The message comes after the link has read the code and before it writes it. -/
def Overwritten (r : Registry) (hash : String) (t : JointTrace Bool) : Prop :=
  ∃ (before : JointTrace Bool) (x : Exchange) (after : JointTrace Bool),
    t = before ++ (false, x) :: after ∧ (∃ out, asksCode r hash out ∈ before.share true) ∧
    ∃ code, (r.codeWrite code).exchange (.ok ()) ∈ after.share true

variable {r : Registry} {settings : LinkSettings} {hash : String} {request : LinkRequest}
  {text : String} {code : AccessCode} {s s' : MemoryStore} {t before after : JointTrace Bool}
  {o : (i : Bool) → Ending i} {x : Exchange}

theorem heedless_linkAndMessage (i : Bool) :
    (linkAndMessage r settings hash request text i).Heedless := by
  cases i with
  | true => exact (inStep_link settings (fun _ keeps => keeps) hash request).orderly.heedless
  | false => exact (Inbound.inStep_handleMessage (fun _ keeps => keeps) text).orderly.heedless

/-- Only its write keeps a code. -/
theorem exchange_mem_of_ofCode_mem {t : Trace} (h : Deed.ofCode r code ∈ t.deeds) :
    (r.codeWrite code).exchange (.ok ()) ∈ t := by
  obtain ⟨⟨e, reply⟩, member, here⟩ := List.mem_flatMap.1 h
  cases e with
  | call c =>
    cases c with
    | store schema key d =>
      cases reply with
      | error f => cases here
      | ok _ =>
        cases List.mem_singleton.1 here
        exact member
    | delete schema key =>
      cases reply with
      | error f => cases here
      | ok _ => cases List.mem_singleton.1 here
    | retrieve schema key => cases reply <;> cases here
    | search schema path value => cases reply <;> cases here
  | publish n => cases List.mem_singleton.1 here
  | sleep ms => cases here
  | giveUp g => cases here
  | freshId => cases here
  | now => cases here

/-- A link and a message that brings its code, of which no call fails. -/
structure Overlap (r : Registry) (settings : LinkSettings) (s : MemoryStore) (hash : String)
    (request : LinkRequest) (text : String) (code : AccessCode) (t : JointTrace Bool)
    (o : (i : Bool) → Ending i) (s' : MemoryStore) : Prop where
  named : r.WellNamed
  placed : r.Placed s
  brings : Inbound.Brings text code
  mine : code.hash = hash
  run : RunTogether Conditions.calm.Allows (linkAndMessage r settings hash request text) s t o s'

namespace Overlap

theorem share_message (v : Overlap r settings s hash request text code t o s') :
    t.share false =
      if Text.allBlank code.hash then [] else [(r.codeWrite code).exchange (.ok ())] :=
  v.brings.trace_eq (v.run.runs false) fun f => v.run.not_mem_share false _ f v.named.code

/-- A message that comes at all comes once, and keeps its code. -/
theorem split_message (v : Overlap r settings s hash request text code t o s')
    (split : t = before ++ (false, x) :: after) : before.share false = [] ∧
      x = (r.codeWrite code).exchange (.ok ()) ∧ after.share false = [] := by
  have share := v.share_message
  rw [split, JointTrace.share_append, JointTrace.share_cons_self] at share
  split at share
  · cases (List.append_eq_nil_iff.1 share).2
  · rcases List.append_eq_singleton_iff.1 share with ⟨first, last⟩ | ⟨_, ⟨⟩⟩
    obtain ⟨here, last⟩ := List.cons.inj last
    exact ⟨first, here, last⟩

theorem follows (v : Overlap r settings s hash request text code t o s') :
    Follows r settings hash request (t.share true) (o true) := runs_link_iff.1 (v.run.runs true)

theorem proper (v : Overlap r settings s hash request text code t o s') :
    ∀ d ∈ t.whole.deeds, d.Proper r := by
  have links : ∀ d ∈ (t.share true).deeds, d.Proper r :=
    v.follows.proper v.named (v.run.not_mem_share true)
  have handles : ∀ d ∈ (t.share false).deeds, d.Proper r := by
    rw [v.share_message]
    split
    · exact List.forall_mem_nil _
    · exact List.forall_mem_singleton.2 (.code code)
  intro d hd
  rcases List.mem_append.1 ((t.deeds_perm true).subset hd) with hd | hd
  · exact links d hd
  · exact handles d hd

theorem within (v : Overlap r settings s hash request text code t o s') :
    ∀ d ∈ (t.share true).deeds, d.Within r hash request.place (t.share true).ids := by
  have informed : Informed r hash request (t.share true) :=
    (informed_of_carries v.named v.placed v.proper v.run.carries).mono fun _ =>
      JointTrace.mem_whole_of_mem_share
  exact v.follows.within v.named (v.run.not_mem_share true) informed

/-- The store in the end, with the message in its place. -/
theorem left (v : Overlap r settings s hash request text code t o s')
    (split : t = before ++ (false, x) :: after) :
    s' = ((s.after (before.share true).deeds).undergo (.ofCode r code)).after
      (after.share true).deeds := by
  obtain ⟨first, rfl, last⟩ := v.split_message split
  have whole : t.whole = before.share true ++
      ((r.codeWrite code).exchange (.ok ()) :: after.share true) := by
    have begins : before.whole = before.share true := JointTrace.whole_eq_share first
    have ends : after.whole = after.share true := JointTrace.whole_eq_share last
    rw [split, JointTrace.whole_append, begins, ← ends]
    rfl
  rw [v.run.carries.eq_after, whole, Trace.deeds_append, MemoryStore.after_append]
  rfl

/-- What the message may have done makes no difference to a search. -/
theorem search_eq (v : Overlap r settings s hash request text code t o s')
    (split : t = before ++ after) {place : String} :
    ((s.after (before.share false).deeds).step
        (.search r.schemas.case Registry.uprnPath place)).1 =
      (s.step (.search r.schemas.case Registry.uprnPath place)).1 := by
  have share := v.share_message
  rw [split, JointTrace.share_append] at share
  have none_or_one : before.share false = [] ∨
      before.share false = [(r.codeWrite code).exchange (.ok ())] := by
    split at share
    · exact .inl (List.append_eq_nil_iff.1 share).1
    · rcases List.append_eq_singleton_iff.1 share with ⟨none, _⟩ | ⟨one, _⟩
      · exact .inl none
      · exact .inr one
  rcases none_or_one with none | one
  · rw [none]
    rfl
  · have same : (s.undergo (.ofCode r code)).documents r.schemas.case =
        s.documents r.schemas.case := by
      rw [Deed.ofCode, MemoryStore.documents_kept, if_neg v.named.distinct.symm]
    have kept : s.after (Trace.deeds [(r.codeWrite code).exchange (.ok ())]) =
      s.undergo (.ofCode r code) := rfl
    rw [one, kept, MemoryStore.step_fst, MemoryStore.step_fst]
    simp only [MemoryStore.apply, same]

/-- If the link has read the code before the message comes, it runs as it does alone. -/
theorem alone (v : Overlap r settings s hash request text code t o s')
    (split : t = before ++ (false, x) :: after)
    (read : ∃ out, asksCode r hash out ∈ before.share true) :
    Program.RunsOn Conditions.calm.Allows (link r settings hash request).run s (t.share true)
      (o true) (s.after (t.share true).deeds) := by
  refine runsOn_share (v.run.runs true) v.run.carries s fun t₁ c out t₂ split' idle reads => ?_
  rw [JointTrace.after_whole_of_idle idle]
  rcases reads with rfl | rfl
  · -- the link has done nothing before it reads the code, and so has the message
    have first : t₁.share true = [] := by
      obtain ⟨out', rest, whole, once⟩ := v.follows.asks_once
      rw [split', JointTrace.share_append, JointTrace.share_cons_self] at whole
      cases before₁ : t₁.share true with
      | nil => rfl
      | cons y more =>
        rw [before₁] at whole
        obtain ⟨_, rfl⟩ := List.cons.inj whole
        exact absurd (Trace.mem_calls (List.mem_append_right _ List.mem_cons_self)) once
    have none : t₁.share false = [] := by
      obtain ⟨out', member⟩ := read
      rcases List.append_eq_append_iff.1 (split'.symm.trans split) with
        ⟨more, rfl, _⟩ | ⟨more, rfl, _⟩
      · have none := (v.split_message split).1
        rw [JointTrace.share_append] at none
        exact (List.append_eq_nil_iff.1 none).1
      · rw [JointTrace.share_append] at first
        rw [(List.append_eq_nil_iff.1 first).1] at member
        cases member
    rw [show t₁.share (!true) = [] from none]
    rfl
  · exact (v.search_eq split').symm

/-- A message that comes before the link reads the code comes before all of the link. -/
theorem begins (v : Overlap r settings s hash request text code t o s')
    (split : t = before ++ (false, x) :: after)
    (unread : ¬ ∃ out, asksCode r hash out ∈ before.share true) : before.share true = [] := by
  obtain ⟨out, rest, whole, _⟩ := v.follows.asks_once
  rw [split, JointTrace.share_append] at whole
  cases first : before.share true with
  | nil => rfl
  | cons y more =>
    rw [first] at whole unread
    obtain ⟨rfl, _⟩ := List.cons.inj whole
    exact absurd ⟨out, List.mem_cons_self⟩ unread

/-- If the message is refused, there is only the link. -/
theorem inTurn_of_refused (v : Overlap r settings s hash request text code t o s')
    (none : t.share false = []) :
    InTurn Conditions.calm.Allows (linkAndMessage r settings hash request text) true s
      (fun j => t.share j) o s' := by
  have carried := v.run.carries
  rw [JointTrace.whole_eq_share (i := true) none] at carried
  refine ⟨s', ⟨v.run.runs true, carried⟩, v.run.runs false, ?_⟩
  change Carries _ s' (t.share false) s'
  rw [none]
  exact .nil s'

/-- The message alone, on any store. -/
theorem message_runsOn (v : Overlap r settings s hash request text code t o s')
    (split : t = before ++ (false, x) :: after) (base : MemoryStore) :
    Program.RunsOn Conditions.calm.Allows (Inbound.handleMessage r text).run base (t.share false)
      (o false) (base.undergo (.ofCode r code)) := by
  refine ⟨v.run.runs false, ?_⟩
  obtain ⟨first, rfl, last⟩ := v.split_message split
  have share : t.share false = [(r.codeWrite code).exchange (.ok ())] := by
    rw [split, JointTrace.share_append, JointTrace.share_cons_self, first, last]
    rfl
  exact share ▸ carries_singleton_iff.2 (calm_allows_write v.named.code)

/-- If the message comes before all of the link, the link might have begun after it. -/
theorem message_first (v : Overlap r settings s hash request text code t o s')
    (split : t = before ++ (false, x) :: after) (begins : before.share true = []) :
    InTurn Conditions.calm.Allows (linkAndMessage r settings hash request text) false s
      (fun j => t.share j) o s' := by
  refine ⟨_, v.message_runsOn split s, v.run.runs true, ?_⟩
  obtain ⟨first, rfl, last⟩ := v.split_message split
  have carried := v.run.carries
  have none : before.whole = [] := by
    rw [JointTrace.whole_eq_share (i := true) first]
    exact begins
  have ends : after.whole = after.share true := JointTrace.whole_eq_share last
  have mine : t.share true = after.whole := by
    rw [split, JointTrace.share_append, begins, JointTrace.share_cons_of_ne Bool.false_ne_true,
      ends]
    rfl
  rw [split, JointTrace.whole_append, none] at carried
  cases carried with
  | cons here rest =>
    rw [here.eq_after] at rest
    change Carries _ _ (t.share true) s'
    exact mine ▸ rest

/-- A deed of the link keeps the same code, or the message may come before or after it. -/
theorem commutes_or_undone (v : Overlap r settings s hash request text code t o s')
    {d : Deed} (hd : d ∈ (t.share true).deeds) : (Deed.ofCode r code).Commutes d ∨
      ∃ c, d = .ofCode r c ∧ c.hash = code.hash := by
  cases v.within d hd with
  | code c mine => exact .inr ⟨c, rfl, mine.trans v.mine.symm⟩
  | case _ _ _ => exact .inl fun s => s.undergo_kept_comm fun same => absurd same v.named.distinct
  | told n => exact .inl (Deed.told_commutes n _).symm

/-- If the link does not write the code after the message, the message might have come last. -/
theorem link_first (v : Overlap r settings s hash request text code t o s')
    (split : t = before ++ (false, x) :: after)
    (read : ∃ out, asksCode r hash out ∈ before.share true)
    (unwritten : ¬ ∃ code, (r.codeWrite code).exchange (.ok ()) ∈ after.share true) :
    InTurn Conditions.calm.Allows (linkAndMessage r settings hash request text) true s
      (fun j => t.share j) o s' := by
  have mine : t.share true = before.share true ++ after.share true := by
    rw [split, JointTrace.share_append, JointTrace.share_cons_of_ne Bool.false_ne_true]
  have commute : ∀ d ∈ (after.share true).deeds, (Deed.ofCode r code).Commutes d := by
    intro d hd
    have member : d ∈ (t.share true).deeds := by
      rw [mine, Trace.deeds_append]
      exact List.mem_append_right _ hd
    rcases v.commutes_or_undone member with commutes | ⟨c, rfl, _⟩
    · exact commutes
    · exact absurd ⟨c, exchange_mem_of_ofCode_mem hd⟩ unwritten
  have left : s' = (s.after (t.share true).deeds).undergo (.ofCode r code) := by
    rw [v.left split, MemoryStore.after_undergo_comm commute, mine, Trace.deeds_append,
      MemoryStore.after_append]
  exact ⟨_, v.alone split read, left ▸ v.message_runsOn split _⟩

/-- If the link writes the code after the message, the message leaves no trace. -/
theorem left_of_overwritten (v : Overlap r settings s hash request text code t o s')
    (split : t = before ++ (false, x) :: after)
    (written : ∃ code, (r.codeWrite code).exchange (.ok ()) ∈ after.share true) :
    s' = s.after (t.share true).deeds ∧ (t.share true).deeds ≠ [] := by
  have mine : t.share true = before.share true ++ after.share true := by
    rw [split, JointTrace.share_append, JointTrace.share_cons_of_ne Bool.false_ne_true]
  have member {d : Deed} (hd : d ∈ (after.share true).deeds) : d ∈ (t.share true).deeds := by
    rw [mine, Trace.deeds_append]
    exact List.mem_append_right _ hd
  have undoes {c : AccessCode} (same : c.hash = code.hash) (s : MemoryStore) :
      (s.undergo (.ofCode r code)).undergo (.ofCode r c) = s.undergo (.ofCode r c) := by
    rw [Deed.ofCode, Deed.ofCode, same, MemoryStore.undergo_kept_kept]
  obtain ⟨c, written⟩ := written
  have kept : Deed.ofCode r c ∈ (after.share true).deeds :=
    List.mem_flatMap.2 ⟨_, written, List.mem_singleton.2 rfl⟩
  have same : c.hash = code.hash := ((v.within _ (member kept)).hash_eq v.named).trans v.mine.symm
  have undone := MemoryStore.after_undone (d := Deed.ofCode r code) ⟨_, kept, undoes same⟩ <| by
    intro d hd
    rcases v.commutes_or_undone (member hd) with commutes | ⟨c, rfl, same⟩
    · exact .inl commutes
    · exact .inr (undoes same)
  refine ⟨?_, List.ne_nil_of_mem (member kept)⟩
  rw [v.left split, undone, mine, Trace.deeds_append, MemoryStore.after_append]

end Overlap

section Calm

/-- A link of which no call fails keeps its code as it was but for the case, or does nothing. -/
theorem calm_link_codeIn (named : r.WellNamed) (placed : r.Placed s) {t : Trace}
    {o : Except Fault CodeView}
    (run : Program.RunsOn Conditions.calm.Allows (link r settings hash request).run s t o s') :
    (t.deeds = [] ∧ s' = s) ∨ ∃ c id, r.codeIn s hash = some c ∧
      r.codeIn s' hash = some { c with caseId := some id } := by
  obtain ⟨does, rfl⟩ := Service.does_of_runsOn run
  cases o with
  | error f =>
    obtain ⟨idle, _⟩ := refused_of_steady Conditions.steady_calm named placed does
    exact .inl ⟨idle, by rw [idle, MemoryStore.after_nil]⟩
  | ok v =>
    obtain ⟨c, id, found, after⟩ := (linked_of_does named placed does).2.codeIn_after named placed
    exact .inr ⟨c, id, found, by rw [after, if_pos rfl]⟩

/-- If one runs after the other, the code is in the end as the message says, but for the case. -/
theorem codeIn_inTurn (named : r.WellNamed) (placed : r.Placed s)
    (brings : Inbound.Brings text code) (mine : code.hash = hash)
    (keyed : Text.allBlank hash = false) {i : Bool} {t : Bool → Trace}
    (inTurn : InTurn Conditions.calm.Allows (linkAndMessage r settings hash request text) i s t o
      s') : ∃ caseId, r.codeIn s' hash = some { code with caseId } := by
  have told (s : MemoryStore) : r.codeIn (s.undergo (.ofCode r code)) hash = some code := by
    rw [Registry.codeIn_ofCode, if_pos mine.symm]
  obtain ⟨s₁, first, second⟩ := inTurn
  cases i with
  | true =>
    obtain rfl := brings.left named (mine ▸ keyed) second
    exact ⟨code.caseId, told s₁⟩
  | false =>
    obtain rfl := brings.left named (mine ▸ keyed) first
    rcases calm_link_codeIn named (placed.undergo named (.code code)) second with
      ⟨_, rfl⟩ | ⟨c, id, found, linked⟩
    · exact ⟨code.caseId, told s⟩
    · obtain rfl : code = c := Option.some.inj ((told s).symm.trans found)
      exact ⟨some id, linked⟩

end Calm

/-- A link and a message that brings its code, run together. Unless the message comes between the
link's read of the code and its write, they leave the store that they leave one after the other, in
one of the two orders, and the code is as the message says but for the case. Otherwise the store is
left as the link alone leaves it, and the code is as it was before the message but for the case. -/
theorem update_beside_link (named : r.WellNamed) (placed : r.Placed s)
    (brings : Inbound.Brings text code) (mine : code.hash = hash)
    (run : RunTogether Conditions.calm.Allows (linkAndMessage r settings hash request text) s t o
      s') :
    (¬ Overwritten r hash t →
      (∃ i, InTurn Conditions.calm.Allows (linkAndMessage r settings hash request text) i s
          (fun j => t.share j) o s' ∧
        ∀ u b s'', InTurn Conditions.calm.Allows (linkAndMessage r settings hash request text) i s
            u b s'' → (∀ j, (u j).drawn = (t.share j).drawn) → b = o ∧ s'' = s') ∧
      (Text.allBlank hash = false → ∃ caseId, r.codeIn s' hash = some { code with caseId })) ∧
    (Overwritten r hash t →
      Program.RunsOn Conditions.calm.Allows (link r settings hash request).run s (t.share true)
        (o true) s' ∧
      ∃ c id, r.codeIn s hash = some c ∧ r.codeIn s' hash = some { c with caseId := some id }) := by
  have v : Overlap r settings s hash request text code t o s' :=
    ⟨named, placed, brings, mine, run⟩
  constructor
  · intro kept
    have inTurn : ∃ i, InTurn Conditions.calm.Allows
        (linkAndMessage r settings hash request text) i s (fun j => t.share j) o s' := by
      cases comes : t.share false with
      | nil => exact ⟨true, v.inTurn_of_refused comes⟩
      | cons x rest =>
        have comes : t.share false = [] ++ x :: rest := comes
        obtain ⟨before, after, split, _⟩ := JointTrace.exists_split comes
        by_cases read : ∃ out, asksCode r hash out ∈ before.share true
        · refine ⟨true, v.link_first split read fun written => ?_⟩
          exact kept ⟨before, x, after, split, read, written⟩
        · exact ⟨false, v.message_first split (v.begins split read)⟩
    obtain ⟨i, inTurn⟩ := inTurn
    refine ⟨⟨i, inTurn, fun u b s'' other drawn => ?_⟩, fun keyed => ?_⟩
    · obtain ⟨results, _, store⟩ :=
        inTurn.unique certain_calm heedless_linkAndMessage other drawn
      exact ⟨results, store⟩
    · exact codeIn_inTurn named placed brings mine keyed inTurn
  · rintro ⟨before, x, after, split, read, written⟩
    obtain ⟨left, busy⟩ := v.left_of_overwritten split written
    have alone := v.alone split read
    rw [← left] at alone
    refine ⟨alone, ?_⟩
    rcases calm_link_codeIn named placed alone with ⟨idle, _⟩ | linked
    · exact absurd idle busy
    · exact linked

end Link
/-! An example: a code is being linked, and a message comes that says it is no longer active. -/
namespace Sample

open Link

/-- All that passes if the message comes while the link is under way. -/
def crossing : JointTrace Bool :=
  .solo true ((opening true).inquiry registry) ++
    ((false, (registry.codeWrite withdrawn).exchange (.ok ())) ::
      JointTrace.solo true ((opening true).pursuit registry))

def crossed (type : EventType) : (i : Bool) → Ending i
  | true => .ok (opening true).view
  | false => .ok type

def reverted : MemoryStore :=
  (unoccupied.undergo (.ofCode registry withdrawn)).after ((opening true).pursuit registry).deeds

theorem share_crossing : crossing.share true =
      (opening true).inquiry registry ++ (opening true).pursuit registry ∧
    crossing.share false = [(registry.codeWrite withdrawn).exchange (.ok ())] := by
  constructor
  · simp [crossing, JointTrace.share_solo_self, JointTrace.share_cons_of_ne]
  · simp [crossing, JointTrace.share_solo_of_ne, JointTrace.share_cons_self]

theorem run_crossing : ∃ type, RunTogether Conditions.calm.Allows
    (linkAndMessage registry .standard "one" (asking true) message) unoccupied crossing
    (crossed type) reverted := by
  obtain ⟨type, handled⟩ := brings_message.exists_runsOn wellNamed keyed_withdrawn
  refine ⟨type, ⟨fun i => ?_, ?_⟩⟩
  · cases i with
    | true => exact share_crossing.1 ▸ (opening true).runs registry
    | false => exact share_crossing.2 ▸ (handled unoccupied).1
  · have whole : crossing.whole = (opening true).inquiry registry ++
        ((registry.codeWrite withdrawn).exchange (.ok ()) :: (opening true).pursuit registry) := by
      rw [crossing, JointTrace.whole_append, JointTrace.whole_solo]
      exact congrArg _ (congrArg _ (JointTrace.whole_solo _ _))
    have comes := calm_allows_write (s := unoccupied) (w := registry.codeWrite withdrawn)
      wellNamed.code
    have stores := (opening true).carries_pursuit wellNamed
      (unoccupied.undergo (.ofCode registry withdrawn))
    exact whole ▸ carries_append_iff.2 ⟨_, carries_inquiry true, .cons comes stores⟩

theorem overwritten_crossing : Overwritten registry "one" crossing := by
  let found : Except Fault (Option Document) := .ok (some (Wire.toDocument (neighbour true)))
  have read : asksCode registry "one" found ∈ (opening true).inquiry registry :=
    List.mem_cons_self
  have written : (registry.codeWrite ((opening true).located.linkedCode none)).exchange (.ok ()) ∈
      (opening true).pursuit registry :=
    List.mem_cons_of_mem _ (List.mem_cons_of_mem _ List.mem_cons_self)
  refine ⟨.solo true ((opening true).inquiry registry), _,
    .solo true ((opening true).pursuit registry), rfl, ⟨found, ?_⟩,
    ⟨(opening true).located.linkedCode none, ?_⟩⟩
  · rwa [JointTrace.share_solo_self]
  · rwa [JointTrace.share_solo_self]

end Sample

namespace Link

/-- In the example the link alone would have left the same store. -/
theorem update_beside_link_sample : ∃ type,
    RunTogether Conditions.calm.Allows (linkAndMessage Sample.registry .standard "one"
      (Sample.asking true) Sample.message) Sample.unoccupied Sample.crossing (Sample.crossed type)
      Sample.reverted ∧
    Inbound.Brings Sample.message Sample.withdrawn ∧
    Program.RunsOn Conditions.calm.Allows
      (link Sample.registry .standard "one" (Sample.asking true)).run Sample.unoccupied
      (Sample.crossing.share true) (Sample.crossed type true) Sample.reverted ∧
    ∃ c id, Sample.registry.codeIn Sample.unoccupied "one" = some c ∧
      Sample.registry.codeIn Sample.reverted "one" = some { c with caseId := some id } := by
  obtain ⟨type, run⟩ := Sample.run_crossing
  exact ⟨type, run, Sample.brings_message, (update_beside_link Sample.wellNamed
    Sample.placed_unoccupied Sample.brings_message rfl run).2 Sample.overwritten_crossing⟩

/-- A link and a message may leave a code that they do not leave one after the other in either
order. -/
theorem update_beside_link_may_be_lost :
    ¬ ∀ t o s', RunTogether Conditions.calm.Allows (linkAndMessage Sample.registry .standard "one"
        (Sample.asking true) Sample.message) Sample.unoccupied t o s' →
      ∃ i u b s'', InTurn Conditions.calm.Allows (linkAndMessage Sample.registry .standard "one"
          (Sample.asking true) Sample.message) i Sample.unoccupied u b s'' ∧
        (∀ j, (u j).drawn = (JointTrace.share j t).drawn) ∧
        Sample.registry.codeIn s'' "one" = Sample.registry.codeIn s' "one" := by
  intro claim
  obtain ⟨type, run⟩ := Sample.run_crossing
  obtain ⟨i, u, b, s'', inTurn, _, same⟩ := claim _ _ _ run
  obtain ⟨caseId, withdrawn⟩ := codeIn_inTurn Sample.wellNamed Sample.placed_unoccupied
    Sample.brings_message (show Sample.withdrawn.hash = "one" from rfl) Sample.keyed_withdrawn
    inTurn
  have active : (Sample.registry.codeIn Sample.reverted "one").map (·.active) = some true := by
    decide +kernel
  rw [← same, withdrawn] at active
  cases active

end Link
end CensusLink
