import CensusLink.Proofs.Inbound.Handling
import CensusLink.Proofs.Linking.Opening
import CensusLink.Proofs.Services.Operations

/-!
Messages and links on one store, and a message that comes once more. Links change nothing of a
code but its case, and only a message that brings a code puts another in its place. So a late
message puts back the case that it brings itself: a code that has been linked in the meantime stays
linked only if the message is about another code, or names the same case.
-/
namespace CensusLink

variable {r : Registry} {settings : LinkSettings} {k : Conditions} {s s' : MemoryStore}

/-- Messages and links. -/
inductive Operation.Ordinary : Operation → Prop
  | message (text : String) : Ordinary (.message text)
  | link (hash : String) (request : LinkRequest) : Ordinary (.link hash request)

/-- A message is handled that brings a code of this hash. -/
def Served.Rewrites (hash : String) (x : Served) : Prop :=
  ∃ text type code, x = ⟨.message text, .ok type⟩ ∧ Inbound.Brings text code ∧ code.hash = hash

/-- A code as it was, or linked to some case. -/
def Relinked (c : AccessCode) (c' : AccessCode) : Prop :=
  c' = c ∨ ∃ id, c' = { c with caseId := some id }

namespace Relinked

variable {c c' c'' : AccessCode}

theorem trans (first : Relinked c c') (second : Relinked c' c'') : Relinked c c'' := by
  rcases first with rfl | ⟨_, rfl⟩
  · exact second
  · rcases second with rfl | ⟨id, rfl⟩
    · exact .inr ⟨_, rfl⟩
    · exact .inr ⟨id, rfl⟩

theorem linked (h : Relinked c c') (linked : ∃ id, c.caseId = some id) :
    ∃ id, c'.caseId = some id := by
  rcases h with rfl | ⟨id, rfl⟩
  · exact linked
  · exact ⟨id, rfl⟩

theorem eq_of_caseId (h : Relinked c c') {id : String} (linked : c'.caseId = some id) :
    c' = { c with caseId := some id } := by
  rcases h with rfl | ⟨_, rfl⟩
  · rw [← linked]
  · cases linked
    rfl

end Relinked

/-- A link keeps everything in place and changes no code but for its case. -/
theorem Link.placed_and_codeIn (named : r.WellNamed) (placed : r.Placed s) {hash : String}
    {request : LinkRequest} {t : Trace} {o : Except Fault CodeView}
    (run : Program.RunsOn k.Allows (link r settings hash request).run s t o s') :
    r.Placed s' ∧ ∀ other c, r.codeIn s other = some c →
      ∃ c', r.codeIn s' other = some c' ∧ Relinked c c' := by
  let e : Episode := ⟨hash, request, t, o⟩
  have leads : e.Leads r settings k s s' := run
  refine ⟨leads.placed named placed, fun other c found => ?_⟩
  cases o with
  | ok v =>
    obtain ⟨does, rfl⟩ := Service.does_of_runsOn run
    obtain ⟨c₀, id, found₀, after⟩ := (linked_of_does named placed does).2.codeIn_after named placed
    by_cases mine : other = hash
    · subst mine
      obtain rfl : c = c₀ := Option.some.inj (found.symm.trans found₀)
      exact ⟨_, by rw [after, if_pos rfl], .inr ⟨id, rfl⟩⟩
    · exact ⟨c, by rw [after, if_neg mine, found], .inl rfl⟩
  | error f =>
    have same : r.codeIn s' other = r.codeIn s other := by
      rw [leads.eq_after]
      rcases leads.completes_or_idle named placed with ⟨l, _, _, ends⟩ | ⟨_, idle⟩
      · exact ends.codeIn_of_error named other
      · rw [idle, MemoryStore.after_nil]
    exact ⟨c, same.trans found, .inl rfl⟩

/-- So does a message, and it leaves the codes as they are that it does not bring. -/
theorem Inbound.placed_and_codeIn (named : r.WellNamed) (placed : r.Placed s) {text : String}
    {t : Trace} {o : Except Fault EventType}
    (run : Program.RunsOn k.Allows (handleMessage r text).run s t o s') : r.Placed s' ∧
      ∀ other, (∀ type code, o = .ok type → Brings text code → code.hash ≠ other) →
        r.codeIn s' other = r.codeIn s other := by
  rcases handled_cases run with ⟨_, rfl⟩ | ⟨type, rfl, ⟨code, brings, rfl⟩ | ⟨_, c, rfl⟩⟩
  · exact ⟨placed, fun _ _ => rfl⟩
  · refine ⟨placed.undergo named (.code code), fun other apart => ?_⟩
    rw [Registry.codeIn_ofCode, if_neg (apart type code rfl brings).symm]
  · exact ⟨placed.undergo named (.case c), fun other _ => r.codeIn_ofCase named s c other⟩

/-- An operation leaves a code as it was or links it, unless it brings another in its place. -/
theorem Served.relinks (named : r.WellNamed) (placed : r.Placed s) {x : Served}
    (ordinary : x.operation.Ordinary) {t : Trace}
    (run : Program.RunsOn k.Allows (x.operation.service r settings).run s t x.outcome s') :
    r.Placed s' ∧ ∀ hash c, ¬ x.Rewrites hash → r.codeIn s hash = some c →
      ∃ c', r.codeIn s' hash = some c' ∧ Relinked c c' := by
  obtain ⟨o, outcome⟩ := x
  cases ordinary with
  | message text =>
    obtain ⟨kept, same⟩ := Inbound.placed_and_codeIn named placed run
    refine ⟨kept, fun hash c other found => ⟨c, ?_, .inl rfl⟩⟩
    rw [same hash fun type code handled brings mine => ?_, found]
    exact other ⟨text, type, code, congrArg (Served.mk (.message text)) handled, brings, mine⟩
  | link hash request =>
    obtain ⟨kept, relinks⟩ := Link.placed_and_codeIn named placed run
    exact ⟨kept, fun other c _ found => relinks other c found⟩

/-- So do all the operations of a run. -/
theorem Serving.relinks (named : r.WellNamed) (placed : r.Placed s) {served : List Served}
    (serving : Serving k.Allows r settings s served s')
    (ordinary : ∀ x ∈ served, x.operation.Ordinary) :
    r.Placed s' ∧ ∀ hash c, (∀ x ∈ served, ¬ x.Rewrites hash) → r.codeIn s hash = some c →
      ∃ c', r.codeIn s' hash = some c' ∧ Relinked c c' := by
  induction serving with
  | nil s => exact ⟨placed, fun hash c _ found => ⟨c, found, .inl rfl⟩⟩
  | cons run _ ih =>
    obtain ⟨here, later⟩ := List.forall_mem_cons.1 ordinary
    obtain ⟨placed₁, first⟩ := Served.relinks named placed here run
    obtain ⟨placed₂, rest⟩ := ih placed₁ later
    refine ⟨placed₂, fun hash c since found => ?_⟩
    obtain ⟨other, since⟩ := List.forall_mem_cons.1 since
    obtain ⟨c₁, found₁, relinked₁⟩ := first hash c other found
    obtain ⟨c₂, found₂, relinked₂⟩ := rest hash c₁ since found₁
    exact ⟨c₂, found₂, relinked₁.trans relinked₂⟩

/-- A message leaves a case to a linked code if it is about another one, or names that case. -/
theorem caseId_ofCode_iff {hash id : String} {c m : AccessCode} (found : r.codeIn s hash = some c)
    (linked : c.caseId = some id) :
    (∃ c', r.codeIn (s.undergo (.ofCode r m)) hash = some c' ∧ c'.caseId = some id) ↔
      m.hash ≠ hash ∨ m.caseId = some id := by
  rw [Registry.codeIn_ofCode, found]
  by_cases mine : hash = m.hash
  · rw [if_pos mine]
    constructor
    · rintro ⟨c', same, kept⟩
      exact .inr (Option.some.inj same ▸ kept)
    · rintro (other | kept)
      · exact absurd mine.symm other
      · exact ⟨m, rfl, kept⟩
  · rw [if_neg mine]
    exact ⟨fun _ => .inl fun same => mine same.symm, fun _ => ⟨c, rfl, linked⟩⟩

/-- A message that brings a code is handled again. It puts its code in its place as it was sent, so
a code that has been linked after the message, and that no message has put back since, keeps its
case only if the message is about another code or names that case itself. If no message has put it
back in between either, it is as it was sent but for its case. -/
theorem redelivery_keeps_link_iff (named : r.WellNamed) {ops : List Operation}
    (ordinary : ∀ o ∈ ops, o.Ordinary) {t u : Trace} (earlier between later : List Served)
    {text hash : String} {type : EventType} {request : LinkRequest} {v : CodeView} {m : AccessCode}
    {o : Except Fault EventType} (brings : Inbound.Brings text m)
    (run : Program.RunsOn k.Allows (serveAll r settings ops) .empty t
      (earlier ++ ⟨.message text, .ok type⟩ :: (between ++ ⟨.link hash request, .ok v⟩ :: later)) s)
    (since : ∀ x ∈ later, ¬ x.Rewrites hash)
    (again : Program.RunsOn k.Allows (Inbound.handleMessage r text).run s u o s') :
    s' = (if o.isOk then s.undergo (.ofCode r m) else s) ∧
    ∃ c id, r.codeIn s hash = some c ∧ c.caseId = some id ∧
      ((∃ c', r.codeIn s' hash = some c' ∧ c'.caseId = some id) ↔
        o.isOk = false ∨ m.hash ≠ hash ∨ m.caseId = some id) ∧
      (m.hash = hash → (∀ x ∈ between, ¬ x.Rewrites hash) → c = { m with caseId := some id }) := by
  obtain ⟨serving, rfl⟩ := serving_of_runsOn run
  rw [List.forall_mem_map, List.forall_mem_append, List.forall_mem_cons, List.forall_mem_append,
    List.forall_mem_cons] at ordinary
  obtain ⟨early, _, mid, _, late⟩ := ordinary
  obtain ⟨s₁, before, serving⟩ := serving_append_iff.1 serving
  obtain ⟨_, s₂, handled, serving⟩ := serving_cons_iff.1 serving
  obtain ⟨s₃, meanwhile, serving⟩ := serving_append_iff.1 serving
  obtain ⟨_, s₄, linked, after⟩ := serving_cons_iff.1 serving
  -- The message puts its code in its place, the link finds a code and gives it a case, and the
  -- operations after it leave a case to that code.
  have placed₁ : r.Placed s₁ := (before.relinks named r.placed_empty early).1
  have placed₂ : r.Placed s₂ := (Inbound.placed_and_codeIn named placed₁ handled).1
  obtain ⟨placed₃, meanwhile⟩ := meanwhile.relinks named placed₂ mid
  obtain ⟨placed₄, _⟩ := Link.placed_and_codeIn named placed₃ linked
  obtain ⟨does, ends⟩ := Service.does_of_runsOn linked
  obtain ⟨c₃, id₃, found₃, linked⟩ :=
    (Link.linked_of_does named placed₃ does).2.codeIn_after named placed₃
  have found₄ : r.codeIn s₄ hash = some { c₃ with caseId := some id₃ } := by
    rw [ends, linked, if_pos rfl]
  obtain ⟨c, found, relinked⟩ := (after.relinks named placed₄ late).2 hash _ since found₄
  obtain ⟨id, holds⟩ := relinked.linked ⟨id₃, rfl⟩
  have left := brings.handled again
  refine ⟨left, c, id, found, holds, ?_, fun mine quiet => ?_⟩
  · rw [left]
    cases o.isOk with
    | false => exact ⟨fun _ => .inl rfl, fun _ => ⟨c, found, holds⟩⟩
    | true =>
      rw [if_pos rfl, caseId_ofCode_iff found holds]
      exact ⟨.inr, fun kept => kept.resolve_left nofun⟩
  · obtain rfl := brings.handled handled
    have told : r.codeIn (s₁.undergo (.ofCode r m)) hash = some m := by
      rw [Registry.codeIn_ofCode, if_pos mine.symm]
    obtain ⟨c', found', first⟩ := meanwhile hash m quiet told
    obtain rfl : c₃ = c' := Option.some.inj (found₃.symm.trans found')
    have second : Relinked c₃ { c₃ with caseId := some id₃ } := .inr ⟨id₃, rfl⟩
    exact ((first.trans second).trans relinked).eq_of_caseId holds

/-! An example: a message comes, its code is linked, and the message comes again. -/
namespace Sample

def linking : Link.Opening .standard :=
  { opening true with code := withdrawn, paired := rfl, alone := rfl }

def known : MemoryStore := MemoryStore.empty.undergo (.ofCode registry withdrawn)

def joined : MemoryStore := known.after (linking.pursuit registry).deeds

def history (type : EventType) : List Served :=
  [⟨.message message, .ok type⟩, ⟨.link "one" (asking true), .ok linking.view⟩]

theorem run_history : ∃ type, (∃ t, Program.RunsOn Conditions.calm.Allows
      (serveAll registry .standard [.message message, .link "one" (asking true)]) .empty t
      (history type) joined) ∧
    Program.RunsOn Conditions.calm.Allows (Inbound.handleMessage registry message).run joined
      [(registry.codeWrite withdrawn).exchange (.ok ())] (.ok type)
      (joined.undergo (.ofCode registry withdrawn)) := by
  obtain ⟨type, handled⟩ := brings_message.exists_runsOn wellNamed keyed_withdrawn
  have asks : Carries Conditions.calm.Allows known (linking.inquiry registry) known :=
    linking.carries_inquiry wellNamed rfl rfl
  have links : Program.RunsOn Conditions.calm.Allows
      (Link.link registry .standard "one" (asking true)).run known
      (linking.inquiry registry ++ linking.pursuit registry) (.ok linking.view) joined :=
    ⟨linking.runs registry,
      carries_append_iff.2 ⟨known, asks, linking.carries_pursuit wellNamed known⟩⟩
  have serving : Serving Conditions.calm.Allows registry .standard .empty (history type) joined :=
    .cons (handled .empty) (.cons links (.nil joined))
  exact ⟨type, serving.exists_runsOn, handled joined⟩

theorem ordinary_history :
    ∀ o ∈ [Operation.message message, .link "one" (asking true)], o.Ordinary :=
  List.forall_mem_cons.2 ⟨.message _, List.forall_mem_singleton.2 (.link _ _)⟩

end Sample

/-- In the example the code is linked as it was sent, and the message takes its case away. -/
theorem redelivery_keeps_link_iff_sample : ∃ type t u s',
    Program.RunsOn Conditions.calm.Allows (serveAll Sample.registry .standard
      [.message Sample.message, .link "one" (Sample.asking true)]) .empty t (Sample.history type)
      Sample.joined ∧
    Program.RunsOn Conditions.calm.Allows
      (Inbound.handleMessage Sample.registry Sample.message).run Sample.joined u (.ok type) s' ∧
    ∃ c id, Sample.registry.codeIn Sample.joined "one" = some c ∧ c.caseId = some id ∧
      c = { Sample.withdrawn with caseId := some id } ∧
      ¬ ∃ c', Sample.registry.codeIn s' "one" = some c' ∧ c'.caseId = some id := by
  obtain ⟨type, ⟨t, run⟩, again⟩ := Sample.run_history
  obtain ⟨_, c, id, found, linked, kept, sent⟩ := redelivery_keeps_link_iff Sample.wellNamed
    Sample.ordinary_history [] [] [] Sample.brings_message run (List.forall_mem_nil _) again
  refine ⟨type, t, _, _, run, again, c, id, found, linked, sent rfl (List.forall_mem_nil _),
    fun still => ?_⟩
  rcases kept.1 still with failed | other | named
  · cases failed
  · exact other rfl
  · cases named

/-- A message that is handled again may take its case away from a code that has been linked. -/
theorem redelivery_may_unlink :
    ¬ ∀ (ops : List Operation) (earlier between later : List Served) (text hash : String)
        (type : EventType) (request : LinkRequest) (v : CodeView) (m : AccessCode) (t u : Trace)
        (s s' : MemoryStore),
      (∀ o ∈ ops, o.Ordinary) → Inbound.Brings text m →
      Program.RunsOn Conditions.calm.Allows (serveAll Sample.registry .standard ops) .empty t
        (earlier ++ ⟨.message text, .ok type⟩ :: (between ++ ⟨.link hash request, .ok v⟩ :: later))
        s →
      (∀ x ∈ later, ¬ x.Rewrites hash) →
      Program.RunsOn Conditions.calm.Allows (Inbound.handleMessage Sample.registry text).run s u
        (.ok type) s' →
      (Sample.registry.codeIn s' hash).map (·.caseId) =
        (Sample.registry.codeIn s hash).map (·.caseId) := by
  intro claim
  obtain ⟨type, ⟨t, run⟩, again⟩ := Sample.run_history
  have kept := claim _ [] [] [] _ _ _ _ _ _ _ _ _ _ Sample.ordinary_history Sample.brings_message
    run (List.forall_mem_nil _) again
  have linked : (Sample.registry.codeIn Sample.joined "one").map (·.caseId) =
      some (some (Sample.drawn true).text) := by
    decide +kernel
  rw [linked, Registry.codeIn_ofCode] at kept
  cases kept

end CensusLink
