import CensusLink.Proofs.Services.InStep

/-!
What the service is asked to do, and what it does when it is asked for one thing after another. An
operation that fails does not keep the next one from being served. The service goes in step with
itself, whatever it is asked for.
-/
namespace CensusLink

/-- Messages and updates that come in, writes, reads, links and queries. -/
inductive Operation
  | message (text : String)
  | update (u : Inbound.Update)
  | write (w : Write)
  | writeCode (code : AccessCode)
  | writeCase (c : CollectionCase Moment)
  | readCode (hash : String)
  | readCase (id : String)
  | readCasesAt (uprn : String)
  | readLatestCaseAt (uprn : String)
  | link (hash : String) (request : LinkRequest)
  | showCode (hash : String)
  | showCase (id : String)
  | showLatestCaseAt (uprn : String)

namespace Operation

def Result : Operation → Type
  | .message _ => EventType
  | .update _ => Unit
  | .write _ => Unit
  | .writeCode _ => Unit
  | .writeCase _ => Unit
  | .readCode _ => Option AccessCode
  | .readCase _ => Option CollectionCase
  | .readCasesAt _ => List CollectionCase
  | .readLatestCaseAt _ => Option CollectionCase
  | .link _ _ => CodeView
  | .showCode _ => CodeView
  | .showCase _ => CollectionCase
  | .showLatestCaseAt _ => CollectionCase

variable (r : Registry) (settings : LinkSettings)

def service : (o : Operation) → Service o.Result
  | .message text => Inbound.handleMessage r text
  | .update u => Inbound.handleUpdate r u
  | .write w => w.make r.policy
  | .writeCode code => r.writeCode code
  | .writeCase c => r.writeCase c
  | .readCode hash => r.readCode hash
  | .readCase id => r.readCase id
  | .readCasesAt uprn => r.casesAt uprn
  | .readLatestCaseAt uprn => r.latestCaseAt uprn
  | .link hash request => Link.link r settings hash request
  | .showCode hash => Queries.code r hash
  | .showCase id => Queries.case r id
  | .showLatestCaseAt uprn => Queries.latestCaseAt r uprn

/-- All operations but writes of arbitrary documents. -/
def Typed : Operation → Prop
  | .write _ => False
  | _ => True

/-- The operation asks for what is there. -/
def isRead : Operation → Bool
  | .readCode _ => true
  | .readCase _ => true
  | .readCasesAt _ => true
  | .readLatestCaseAt _ => true
  | .showCode _ => true
  | .showCase _ => true
  | .showLatestCaseAt _ => true
  | _ => false

/-- The writes that an operation may make: the one that it asks for, or those of codes and cases
unless it is a read. -/
def May (o : Operation) (w : Write) : Prop :=
  match o with
  | .write asked => w = asked
  | _ => o.isRead = false ∧ r.Keeps w

/-- Cases at an address may be listed in any order; all other results are the same. -/
def Same : (o : Operation) → o.Result → o.Result → Prop
  | .readCasesAt _, (cases : List CollectionCase), (others : List CollectionCase) =>
    cases.Perm others
  | _, a, b => a = b

theorem inStep_service (o : Operation) :
    (o.service r settings).InStep r (o.May r) o.Same (o.service r settings) := by
  cases o with
  | message text => exact Inbound.inStep_handleMessage (fun _ own => ⟨rfl, own⟩) text
  | update u => exact Inbound.inStep_handleUpdate (fun _ own => ⟨rfl, own⟩) u
  | write w => exact Service.inStep_make rfl
  | writeCode code => exact Registry.inStep_writeCode (fun _ own => ⟨rfl, own⟩) code
  | writeCase c =>
    rw [service, r.writeCase_told]
    exact Registry.inStep_writeCase (fun _ own => ⟨rfl, own⟩) c.told
  | readCode hash => exact Registry.inStep_readCode hash
  | readCase id => exact Registry.inStep_readCase id
  | readCasesAt uprn =>
    exact (Registry.inStep_casesAt uprn).mono (fun _ => id) fun _ _ same => same.perm
  | readLatestCaseAt uprn => exact Registry.inStep_latestCaseAt uprn
  | link hash request => exact Link.inStep_link settings (fun _ own => ⟨rfl, own⟩) hash request
  | showCode hash => exact Queries.inStep_code hash
  | showCase id => exact Queries.inStep_case id
  | showLatestCaseAt uprn => exact Queries.inStep_latestCaseAt uprn

variable {r} {o : Operation}

theorem Typed.keeps (typed : o.Typed) {w : Write} (may : o.May r w) : r.Keeps w := by
  cases o with
  | write _ => exact typed.elim
  | _ => exact may.2

theorem May.writes (reads : o.isRead = true) {w : Write} : ¬ o.May r w := by
  intro may
  cases o with
  | write _ => cases reads
  | _ => cases reads.symm.trans may.1

/-- Only reads may come to results that are the same but for their order. -/
theorem eq_of_same {a b : o.Result} (writes : o.isRead = false) (same : o.Same a b) : a = b := by
  cases o with
  | readCasesAt uprn => cases writes
  | _ => exact same

end Operation

/-- An operation and what came of it. -/
structure Served where
  operation : Operation
  outcome : Except Fault operation.Result

/-- One operation with the same outcome, but for the order of the cases in it. -/
inductive Served.Alike : Served → Served → Prop
  | intro {o : Operation} {outcome outcome' : Except Fault o.Result}
      (h : Service.Alike o.Same outcome outcome') : Alike ⟨o, outcome⟩ ⟨o, outcome'⟩

/-- Serves operations one after the other. -/
def serveAll (r : Registry) (settings : LinkSettings) : List Operation → Program (List Served)
  | [] => .done []
  | o :: rest => do
    let outcome ← (o.service r settings).run
    let served ← serveAll r settings rest
    .done (⟨o, outcome⟩ :: served)

theorem inStep_serveAll (r : Registry) (settings : LinkSettings) (ops : List Operation) :
    (serveAll r settings ops).InStep r (fun w => ∃ o ∈ ops, o.May r w)
      (List.Forall₂ Served.Alike) (serveAll r settings ops) := by
  induction ops with
  | nil => exact .done .nil
  | cons o rest ih =>
    refine Program.InStep.bind ((o.inStep_service r settings).mono
      (fun w may => ⟨o, List.mem_cons_self, may⟩) fun _ _ => id) fun _ _ alike => ?_
    refine Program.InStep.bind (ih.mono ?_ fun _ _ => id) fun _ _ others => ?_
    · rintro w ⟨o', member, may⟩
      exact ⟨o', List.mem_cons_of_mem _ member, may⟩
    · exact .done (.cons (.intro alike) others)

section Serving

variable {σ : Type} {allows : σ → Exchange → σ → Prop} {r : Registry} {settings : LinkSettings}
  {s s' : σ} {ops : List Operation} {served more : List Served} {t : Trace}

/-- What is served, each operation from where the one before it has led. -/
inductive Serving (allows : σ → Exchange → σ → Prop) (r : Registry) (settings : LinkSettings) :
    σ → List Served → σ → Prop
  | nil (s : σ) : Serving allows r settings s [] s
  | cons {s s₁ s₂ : σ} {x : Served} {t : Trace} {rest : List Served}
      (run : Program.RunsOn allows (x.operation.service r settings).run s t x.outcome s₁)
      (more : Serving allows r settings s₁ rest s₂) : Serving allows r settings s (x :: rest) s₂

theorem serving_of_runsOn
    (run : Program.RunsOn allows (serveAll r settings ops) s t served s') :
    Serving allows r settings s served s' ∧ served.map (·.operation) = ops := by
  induction ops generalizing s t served with
  | nil =>
    obtain ⟨runs, carried⟩ := run
    obtain ⟨rfl, rfl⟩ := Program.runs_done_iff.1 runs
    cases carried
    exact ⟨.nil _, rfl⟩
  | cons o rest ih =>
    obtain ⟨outcome, t₁, s₁, _, rfl, first, run⟩ := Program.runsOn_bind_iff.1 run
    obtain ⟨more, t₂, s₂, _, rfl, second, runs, carried⟩ := Program.runsOn_bind_iff.1 run
    obtain ⟨rfl, rfl⟩ := Program.runs_done_iff.1 runs
    cases carried
    obtain ⟨serving, operations⟩ := ih second
    exact ⟨.cons first serving, congrArg (o :: ·) operations⟩

theorem Serving.exists_runsOn (serving : Serving allows r settings s served s') :
    ∃ t, Program.RunsOn allows (serveAll r settings (served.map (·.operation))) s t served s' := by
  induction serving with
  | nil s => exact ⟨[], .done _, .nil s⟩
  | @cons s s₁ s₂ x t₁ rest run _ ih =>
    obtain ⟨t₂, more⟩ := ih
    refine ⟨t₁ ++ (t₂ ++ []), Program.runsOn_bind_iff.2
      ⟨x.outcome, t₁, s₁, t₂ ++ [], rfl, run, ?_⟩⟩
    exact Program.runsOn_bind_iff.2 ⟨rest, t₂, s₂, [], rfl, more, .done _, .nil _⟩

theorem serving_cons_iff {x : Served} : Serving allows r settings s (x :: served) s' ↔
    ∃ t s₁, Program.RunsOn allows (x.operation.service r settings).run s t x.outcome s₁ ∧
      Serving allows r settings s₁ served s' := by
  constructor
  · intro h
    cases h with
    | cons run more => exact ⟨_, _, run, more⟩
  · rintro ⟨t, s₁, run, more⟩
    exact .cons run more

theorem serving_append_iff : Serving allows r settings s (served ++ more) s' ↔
    ∃ s₁, Serving allows r settings s served s₁ ∧ Serving allows r settings s₁ more s' := by
  constructor
  · intro h
    induction served generalizing s with
    | nil => exact ⟨s, .nil s, h⟩
    | cons x rest ih =>
      cases h with
      | cons run h =>
        obtain ⟨s₁, first, second⟩ := ih h
        exact ⟨s₁, .cons run first, second⟩
  · rintro ⟨s₁, first, second⟩
    induction first with
    | nil => exact second
    | cons run _ ih => exact .cons run (ih second)

end Serving
end CensusLink
