import CensusLink.Inbound
import CensusLink.Proofs.Linking.Protocol
import CensusLink.Proofs.Services.Orderly
import CensusLink.Queries

/-!
Services that go in step. Two programs do if they ask for the same, read and search no schema but
the two of the registry, write under its policy only, take no notice of what becomes of an event,
and go on in step, even if a search has told them of the same cases in another order. Every service
goes in step with itself. This is the one account of what services ask for; that they are orderly,
keep to their schemas and do not depend on the order of what is found all follows from it.
-/
namespace CensusLink

/-- A call to one of the two schemas of a registry. -/
def StoreCall.Own (r : Registry) (c : StoreCall) : Prop :=
  c.schema = r.schemas.accessCode ∨ c.schema = r.schemas.case

/-- The writes of codes and cases under their own keys. -/
inductive Registry.Keeps (r : Registry) : Write → Prop
  | code (code : AccessCode) : Keeps r (r.codeWrite code)
  | case (c : CollectionCase) : Keeps r (r.caseWrite c)

/-- The same documents, or those of cases of different ids in another order. -/
inductive SameFound : List Document → List Document → Prop
  | refl (found : List Document) : SameFound found found
  | reordered {found others : List Document} (perm : found.Perm others)
      (reads : ∀ d ∈ found, ∃ c : CollectionCase, Wire.ofDocument d = .ok c)
      (ids : ((found.filterMap Document.read?).map fun c : CollectionCase => c.id).Nodup) :
    SameFound found others

/-- The same cases, or cases of different ids in another order. -/
inductive SameCases : List CollectionCase → List CollectionCase → Prop
  | refl (cases : List CollectionCase) : SameCases cases cases
  | reordered {cases others : List CollectionCase} (perm : cases.Perm others)
      (ids : (cases.map (·.id)).Nodup) : SameCases cases others

namespace SameCases

variable {cases others : List CollectionCase} (same : SameCases cases others)
include same

theorem perm : cases.Perm others := by
  cases same with
  | refl => exact .refl _
  | reordered perm _ => exact perm

theorem latestEligible?_eq :
    CollectionCase.latestEligible? cases = CollectionCase.latestEligible? others := by
  cases same with
  | refl => rfl
  | reordered perm ids => exact CollectionCase.latestEligible?_eq_of_perm ids perm

theorem resolve_eq : Link.resolve cases = Link.resolve others := by
  cases same with
  | refl => rfl
  | reordered perm ids => exact Link.resolve_eq_of_perm ids perm

theorem linkedIndividual?_eq (code : AccessCode) :
    Link.linkedIndividual? code cases = Link.linkedIndividual? code others := by
  cases same with
  | refl => rfl
  | reordered perm ids => exact Link.linkedIndividual?_eq_of_perm ids perm code

end SameCases

/-- The same failure, or results that are related. -/
inductive Service.Alike {α β : Type} (same : α → β → Prop) : Except Fault α → Except Fault β → Prop
  | ok {a : α} {b : β} (h : same a b) : Alike same (.ok a) (.ok b)
  | error (f : Fault) : Alike same (.error f) (.error f)

theorem Service.Alike.refl {α : Type} {same : α → α → Prop} (all : ∀ a, same a a) :
    (o : Except Fault α) → Alike same o o
  | .ok a => .ok (all a)
  | .error f => .error f

/-- Programs in step, which make none but certain writes and come to related results. -/
inductive Program.InStep (r : Registry) (may : Write → Prop) {α β : Type} (same : α → β → Prop) :
    Program α → Program β → Prop
  | done {a : α} {b : β} (h : same a b) : InStep r may same (.done a) (.done b)
  | get {schema key : String} {next : Except Fault (Option Document) → Program α}
      {next' : Except Fault (Option Document) → Program β}
      (own : (StoreCall.retrieve schema key).Own r)
      (rest : ∀ o, InStep r may same (next o) (next' o)) :
    InStep r may same (.perform (.call (.retrieve schema key)) next)
      (.perform (.call (.retrieve schema key)) next')
  | find {uprn : String} {next : Except Fault (List Document) → Program α}
      {next' : Except Fault (List Document) → Program β}
      (rest : ∀ o o', Service.Alike SameFound o o' → InStep r may same (next o) (next' o')) :
    InStep r may same (.perform (.call (.search r.schemas.case Registry.uprnPath uprn)) next)
      (.perform (.call (.search r.schemas.case Registry.uprnPath uprn)) next')
  | draw {next : Uuid → Program α} {next' : Uuid → Program β}
      (rest : ∀ id, InStep r may same (next id) (next' id)) :
    InStep r may same (.perform .freshId next) (.perform .freshId next')
  | time {next : Instant → Program α} {next' : Instant → Program β}
      (rest : ∀ now, InStep r may same (next now) (next' now)) :
    InStep r may same (.perform .now next) (.perform .now next')
  | tell {n : Notice} {p : Program α} {q : Program β} (rest : InStep r may same p q) :
    InStep r may same (.perform (.publish n) fun _ => p) (.perform (.publish n) fun _ => q)
  | write {w : Write} {next : Except Fault Unit → Program α} {next' : Except Fault Unit → Program β}
      (allowed : may w) (rest : ∀ o, InStep r may same (next o) (next' o)) :
    InStep r may same ((w.make r.policy).run >>= next) ((w.make r.policy).run >>= next')

namespace Program

variable {r : Registry} {may : Write → Prop} {α β γ δ : Type} {same : α → β → Prop}
  {p : Program α} {q : Program β}

theorem InStep.mono {may' : Write → Prop} {same' : α → β → Prop} (h : InStep r may same p q)
    (more : ∀ w, may w → may' w) (weaker : ∀ a b, same a b → same' a b) :
    InStep r may' same' p q := by
  induction h with
  | done h => exact .done (weaker _ _ h)
  | get own _ ih => exact .get own ih
  | find _ ih => exact .find ih
  | draw _ ih => exact .draw ih
  | time _ ih => exact .time ih
  | tell _ ih => exact .tell ih
  | write allowed _ ih => exact .write (more _ allowed) ih

theorem InStep.bind {same' : γ → δ → Prop} {f : α → Program γ} {g : β → Program δ}
    (h : InStep r may same p q) (rest : ∀ a b, same a b → InStep r may same' (f a) (g b)) :
    InStep r may same' (p >>= f) (q >>= g) := by
  induction h with
  | done h => exact rest _ _ h
  | get own _ ih => exact .get own ih
  | find _ ih => exact .find ih
  | draw _ ih => exact .draw ih
  | time _ ih => exact .time ih
  | tell _ ih => exact .tell ih
  | write allowed _ ih =>
    rw [bind_assoc, bind_assoc]
    exact .write allowed ih

/-- Programs in step are orderly. -/
theorem InStep.orderly (h : InStep r may same p q) : p.Orderly r.policy := by
  induction h with
  | done _ => exact .done _
  | get _ _ ih => exact .read rfl ih
  | find _ ih => exact .read rfl fun o => ih o o (.refl .refl o)
  | draw _ ih => exact .draw ih
  | time _ ih => exact .time ih
  | tell _ ih => exact .tell ih
  | write _ _ ih => exact .write ih

/-- The calls in a run of a program in step are reads of the two schemas and those of its writes,
for all attempts at a write are the same call. -/
theorem InStep.calls_of_runs (h : InStep r may same p q) {t : Trace} {a : α} (run : p.Runs t a) :
    ∀ c ∈ t.calls, (c.isWrite = false ∧ c.Own r) ∨ ∃ w, may w ∧ c = w.toCall := by
  induction h generalizing t with
  | done _ =>
    rw [(runs_done_iff.1 run).1]
    exact List.forall_mem_nil _
  | get own _ ih =>
    cases run with | perform rest =>
    exact List.forall_mem_cons.2 ⟨.inl ⟨rfl, own⟩, ih _ rest⟩
  | find _ ih =>
    cases run with | perform rest =>
    exact List.forall_mem_cons.2 ⟨.inl ⟨rfl, .inr rfl⟩, ih _ _ (.refl .refl _) rest⟩
  | draw _ ih =>
    cases run with | perform rest =>
    exact (ih _ rest :)
  | time _ ih =>
    cases run with | perform rest =>
    exact (ih _ rest :)
  | tell _ ih =>
    cases run with | perform rest =>
    exact (ih rest :)
  | write allowed _ ih =>
    obtain ⟨o, t₁, t₂, rfl, first, rest⟩ := runs_bind_iff.1 run
    obtain ⟨n, _, _, calls⟩ := (Write.runs_make_iff.1 first).calls
    rw [Trace.calls_append, calls]
    exact List.forall_mem_append.2
      ⟨fun c hc => .inr ⟨_, allowed, List.eq_of_mem_replicate hc⟩, ih o rest⟩

end Program

namespace Service

variable {r : Registry} {may : Write → Prop} {α β γ δ : Type}

def InStep (r : Registry) (may : Write → Prop) (same : α → β → Prop) (x : Service α)
    (y : Service β) : Prop :=
  Program.InStep r may (Alike same) x.run y.run

theorem inStep_of (o : Except Fault α) : InStep r may Eq (Service.of o) (Service.of o) :=
  .done (.refl (fun _ => rfl) o)

theorem inStep_pure {same : α → β → Prop} {a : α} {b : β} (h : same a b) :
    InStep r may same (pure a) (pure b) := .done (.ok h)

theorem inStep_throw {same : α → β → Prop} (f : Fault) :
    InStep r may same (throw f) (throw f) := .done (.error f)

theorem inStep_freshId : InStep r may Eq Service.freshId Service.freshId :=
  .draw fun _ => .done (.ok rfl)

theorem inStep_now : InStep r may Eq Service.now Service.now := .time fun _ => .done (.ok rfl)

theorem inStep_make {w : Write} (allowed : may w) :
    InStep r may Eq (w.make r.policy) (w.make r.policy) := by
  have h : Program.InStep r may (Alike Eq) ((w.make r.policy).run >>= Program.done)
      ((w.make r.policy).run >>= Program.done) :=
    .write allowed fun o => .done (.refl (fun _ => rfl) o)
  rwa [Program.bind_done] at h

theorem InStep.mono {may' : Write → Prop} {same same' : α → β → Prop} {x : Service α}
    {y : Service β} (h : InStep r may same x y) (more : ∀ w, may w → may' w)
    (weaker : ∀ a b, same a b → same' a b) : InStep r may' same' x y := by
  refine Program.InStep.mono h more fun o o' alike => ?_
  cases alike with
  | ok h => exact .ok (weaker _ _ h)
  | error f => exact .error f

theorem InStep.bind {same : α → β → Prop} {same' : γ → δ → Prop} {x : Service α} {y : Service β}
    {f : α → Service γ} {g : β → Service δ} (h : InStep r may same x y)
    (rest : ∀ a b, same a b → InStep r may same' (f a) (g b)) :
    InStep r may same' (x >>= f) (y >>= g) := by
  refine Program.InStep.bind h fun o o' alike => ?_
  cases alike with
  | ok h => exact rest _ _ h
  | error f => exact .done (.error f)

/-- What follows the same result. -/
theorem InStep.then {same : γ → δ → Prop} {x y : Service α} {f : α → Service γ}
    {g : α → Service δ} (h : InStep r may Eq x y) (rest : ∀ a, InStep r may same (f a) (g a)) :
    InStep r may same (x >>= f) (y >>= g) := by
  refine h.bind fun a b same => ?_
  rw [same]
  exact rest b

end Service

namespace Registry

variable {r : Registry} {may : Write → Prop}

theorem inStep_get? {α : Type} [Wire α] {schema key : String}
    (own : (StoreCall.retrieve schema key).Own r) :
    (Records.get? schema key : Service (Option α)).InStep r may Eq (Records.get? schema key) := by
  have asked : (Service.call (.retrieve schema key)).InStep r may Eq
      (Service.call (.retrieve schema key)) := .get own fun o => .done (.refl (fun _ => rfl) o)
  refine asked.then fun d => ?_
  split
  · exact Service.inStep_pure rfl
  · split
    · exact Service.inStep_pure rfl
    · exact Service.inStep_throw _

theorem inStep_readCode (hash : String) : (r.readCode hash).InStep r may Eq (r.readCode hash) :=
  inStep_get? (.inl rfl)

theorem inStep_readCase (id : String) : (r.readCase id).InStep r may Eq (r.readCase id) :=
  inStep_get? (.inr rfl)

/-- The same cases are read from the same documents. -/
theorem inStep_casesAt (uprn : String) :
    (r.casesAt uprn).InStep r may SameCases (r.casesAt uprn) := by
  have asked : (Service.call (.search r.schemas.case uprnPath uprn)).InStep r may SameFound
      (Service.call (.search r.schemas.case uprnPath uprn)) := .find fun _ _ same => .done same
  refine asked.bind fun found others same => ?_
  cases same with
  | refl => exact (Service.inStep_of _).mono (fun _ => id) fun _ _ same => same ▸ .refl _
  | reordered perm reads ids =>
    rw [mapM_ofFound _ _ _ reads,
      mapM_ofFound _ _ _ fun d hd => reads d (perm.mem_iff.2 hd)]
    exact Service.inStep_pure (.reordered (perm.filterMap _) ids)

theorem inStep_latestCaseAt (uprn : String) :
    (r.latestCaseAt uprn).InStep r may Eq (r.latestCaseAt uprn) :=
  (inStep_casesAt uprn).bind fun _ _ same => Service.inStep_pure same.latestEligible?_eq

section Writing

variable (own : ∀ w, r.Keeps w → may w)
include own

theorem inStep_writeCode (code : AccessCode) :
    (r.writeCode code).InStep r may Eq (r.writeCode code) :=
  Service.inStep_make (own _ (.code code))

theorem inStep_writeCase (c : CollectionCase) :
    (r.writeCase c).InStep r may Eq (r.writeCase c) :=
  Service.inStep_make (own _ (.case c))

end Writing
end Registry

variable {r : Registry} {may : Write → Prop}

namespace Inbound

variable (own : ∀ w, r.Keeps w → may w)
include own

theorem inStep_handleUpdate (u : Update) :
    (handleUpdate r u).InStep r may Eq (handleUpdate r u) := by
  cases u with
  | code e =>
    simp only [handleUpdate, handleCode]
    split
    · exact Service.inStep_of _
    · exact Registry.inStep_writeCode own _
  | case e =>
    simp only [handleUpdate, handleCase]
    split
    · exact Service.inStep_of _
    · exact Registry.inStep_writeCase own _

theorem inStep_handleMessage (text : String) :
    (handleMessage r text).InStep r may Eq (handleMessage r text) :=
  (Service.inStep_of _).then fun _ =>
    (inStep_handleUpdate own _).then fun _ => Service.inStep_pure rfl

end Inbound

namespace Link

variable (settings : LinkSettings)

theorem inStep_announce (type : EventType) (a : Announcement) :
    (announce type a).InStep r may Eq (announce type a) := .tell (.done (.ok rfl))

theorem inStep_findCode (hash : String) :
    (findCode r hash).InStep r may Eq (findCode r hash) := by
  refine (Registry.inStep_readCode hash).then fun code => ?_
  cases code with
  | none => exact Service.inStep_throw _
  | some code => exact Service.inStep_pure rfl

theorem inStep_findCase (code : AccessCode) (request : LinkRequest) (type : AddressType)
    {cases others : List CollectionCase} (same : SameCases cases others) :
    (findCase settings code request type cases).InStep r may Eq
      (findCase settings code request type others) := by
  rw [findCase, findCase, same.resolve_eq]
  cases resolve others with
  | settled c => exact Service.inStep_pure rfl
  | unclear count => exact Service.inStep_throw _
  | vacant => exact Service.inStep_freshId.then fun _ => Service.inStep_now.then fun _ =>
      Service.inStep_pure rfl

/-- What has been found out about the same cases. -/
structure Located.Same (l l' : Located) : Prop where
  code : l.code = l'.code
  subject : l.subject = l'.subject
  isNew : l.isNew = l'.isNew
  linked : linkedIndividual? l.code l.cases = linkedIndividual? l'.code l'.cases

theorem inStep_locate (hash : String) (request : LinkRequest) :
    (locate r settings hash request).InStep r may Located.Same (locate r settings hash request) :=
  (inStep_findCode hash).then fun code => (Service.inStep_of _).then fun _ =>
    (Registry.inStep_casesAt _).bind fun _ _ same =>
      (inStep_findCase settings code request _ same).then fun _ => Service.inStep_pure
        ⟨rfl, rfl, rfl, same.linkedIndividual?_eq code⟩

section Writing

variable (own : ∀ w, r.Keeps w → may w)
include own

theorem inStep_findIndividual (code : AccessCode) (c : CollectionCase)
    (linked : Option CollectionCase) :
    (findIndividual r code c linked).InStep r may Eq (findIndividual r code c linked) := by
  simp only [findIndividual]
  split
  · cases linked with
    | some individual => exact Service.inStep_pure rfl
    | none =>
      refine Service.InStep.then ?_ fun _ => Service.inStep_pure rfl
      exact Service.inStep_freshId.then fun _ => Service.inStep_now.then fun _ =>
        (Registry.inStep_writeCase own _).then fun _ => Service.inStep_pure rfl
  · exact Service.inStep_pure rfl

theorem inStep_report {l l' : Located} (same : l.Same l') :
    (report r l).InStep r may Eq (report r l') := by
  rw [report, report, same.isNew, same.subject]
  split
  · exact (Registry.inStep_writeCase own _).then fun _ => inStep_announce _ _
  · exact Service.inStep_pure rfl

theorem inStep_complete {l l' : Located} (same : l.Same l') :
    (complete r l).InStep r may Eq (complete r l') := by
  have linked (individual : Option CollectionCase) :
      l.linkedCode individual = l'.linkedCode individual := by
    rw [Located.linkedCode, Located.linkedCode, same.code, same.subject]
  rw [complete, complete, same.linked, same.code, same.subject]
  refine (Service.inStep_of _).then fun _ => (inStep_report own same).then fun _ =>
    (inStep_findIndividual own _ _ _).then fun individual => ?_
  rw [linked]
  exact (Registry.inStep_writeCode own _).then fun _ => (inStep_announce _ _).then fun _ =>
    Service.inStep_pure rfl

theorem inStep_link (hash : String) (request : LinkRequest) :
    (link r settings hash request).InStep r may Eq (link r settings hash request) := by
  rw [link_eq]
  exact (inStep_locate settings hash request).bind fun _ _ same => inStep_complete own same

end Writing
end Link

namespace Queries

theorem inStep_code (hash : String) : (code r hash).InStep r may Eq (code r hash) := by
  refine (Link.inStep_findCode hash).then fun code => ?_
  split
  · exact Service.inStep_pure rfl
  · refine (Registry.inStep_readCase _).then fun c => ?_
    split
    · exact Service.inStep_pure rfl
    · exact Service.inStep_pure rfl

theorem inStep_case (id : String) : (case r id).InStep r may Eq (case r id) :=
  (Registry.inStep_readCase id).then fun _ => Service.inStep_of _

theorem inStep_latestCaseAt (uprn : String) :
    (latestCaseAt r uprn).InStep r may Eq (latestCaseAt r uprn) :=
  (Registry.inStep_latestCaseAt uprn).then fun _ => Service.inStep_of _

end Queries
end CensusLink
