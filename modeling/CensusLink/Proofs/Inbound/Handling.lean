import CensusLink.Inbound
import CensusLink.Proofs.Linking.Calls
import CensusLink.Proofs.Store.Calm

/-!
What it is to handle a message. A message is refused, or it asks for one write of a code or a case
under its own key; the handler makes just that write and says of what type the message was. So a
message that is handled does one deed, and one that is not handled does nothing.
-/
namespace CensusLink

/-- A write that fails does nothing. -/
theorem Write.Persists.deeds_of_error {p : RetryPolicy} {w : Write} {t : Trace} {f : Fault}
    (h : w.Persists p t (.error f)) : t.deeds = [] := by
  obtain ⟨met, _, _, _, rfl⟩ := h
  have failed : (w.exchange (.error f)).deeds = [] := by cases w <;> rfl
  have report : (w.report (met.length + 1) (.error f)).deeds = [] :=
    Trace.deeds_eq_nil (calls_report w _ _).1 (calls_report w _ _).2
  rw [Trace.deeds_append, deeds_waits, List.nil_append, Trace.deeds, List.flatMap_cons, failed]
  exact report

/-- Of a write of which no attempt fails there is one attempt. -/
theorem Write.Persists.eq_of_kept {p : RetryPolicy} {w : Write} {t : Trace}
    {o : Except Fault Unit} (h : w.Persists p t o) (kept : ∀ f, w.exchange (.error f) ∉ t) :
    t = [w.exchange (.ok ())] ∧ o = .ok () := by
  cases o with
  | error f => exact absurd h.exchange_mem (kept f)
  | ok u =>
    obtain ⟨met, _, _, _, rfl⟩ := h
    cases met with
    | nil => exact ⟨rfl, rfl⟩
    | cons f met => exact absurd List.mem_cons_self (kept f)

namespace Inbound

variable (r : Registry)

/-- The write that an update asks for, or why it is refused. -/
def Update.write? : Update → Except Refusal Write
  | .code e =>
    if Text.allBlank e.payload.code.hash then .error (.noCodeHash e.header.transaction)
    else .ok (r.codeWrite e.payload.code)
  | .case e =>
    if Text.allBlank e.payload.subject.id then .error (.noCaseId e.header.transaction)
    else .ok (r.caseWrite e.payload.subject)

/-- The type of a message and the write that it asks for, or why it is refused. -/
def asksFor (text : String) : Except Refusal (EventType × Write) :=
  match ofMessage text with
  | .ok (type, u) => (u.write? r).map fun w => (type, w)
  | .error why => .error why

theorem handleUpdate_eq (u : Update) : handleUpdate r u =
    Service.of ((u.write? r).mapError Refusal.fault) >>= fun w => w.make r.policy := by
  cases u with
  | code e =>
    rw [handleUpdate, handleCode, Update.write?]
    split <;> rfl
  | case e =>
    rw [handleUpdate, handleCase, Update.write?]
    split <;> rfl

theorem handleMessage_eq (text : String) : handleMessage r text =
    Service.of ((asksFor r text).mapError Refusal.fault) >>= fun (type, w) =>
      w.make r.policy >>= fun _ => pure type := by
  rw [handleMessage, asksFor]
  cases ofMessage text with
  | error why => rfl
  | ok read =>
    obtain ⟨type, u⟩ := read
    change handleUpdate r u >>= (fun _ => pure type) = _
    rw [handleUpdate_eq]
    dsimp only
    cases u.write? r with
    | error why => rfl
    | ok w => rfl

/-- The code that a message brings. -/
def code? (text : String) : Option AccessCode :=
  match ofMessage text with
  | .ok (_, .code e) => some e.payload.code
  | _ => none

def Brings (text : String) (code : AccessCode) : Prop := code? text = some code

variable {r} {text : String} {code : AccessCode} {t : Trace} {o : Except Fault EventType}

theorem Brings.read (brings : Brings text code) :
    ∃ type e, ofMessage text = .ok (type, .code e) ∧ e.payload.code = code := by
  rw [Brings, code?] at brings
  split at brings
  next type e read => exact ⟨type, e, read, Option.some.inj brings⟩
  next => cases brings

/-- A message that brings a code asks to keep it, unless that has no hash. -/
theorem Brings.asks (brings : Brings text code) :
    (Text.allBlank code.hash = true ∧ ∃ why, asksFor r text = .error why) ∨
      (Text.allBlank code.hash = false ∧
        ∃ type, asksFor r text = .ok (type, r.codeWrite code)) := by
  obtain ⟨type, e, read, rfl⟩ := brings.read
  rw [asksFor, read]
  cases blank : Text.allBlank e.payload.code.hash with
  | true =>
    refine .inl ⟨rfl, .noCodeHash e.header.transaction, ?_⟩
    simp only [Update.write?, blank, if_true, Except.map]
  | false =>
    refine .inr ⟨rfl, type, ?_⟩
    simp only [Update.write?, blank, Bool.false_eq_true, if_false, Except.map]

/-- A message is refused at once, or its write is made. -/
theorem runs_handleMessage_iff : (handleMessage r text).run.Runs t o ↔
    (∃ why, asksFor r text = .error why ∧ t = [] ∧ o = .error why.fault) ∨
      ∃ type w q, asksFor r text = .ok (type, w) ∧ w.Persists r.policy t q ∧
        o = q.map fun _ => type := by
  rw [handleMessage_eq, Service.runs_of_bind_iff]
  cases asked : asksFor r text with
  | error why =>
    constructor
    · rintro (⟨_, ⟨⟩, idle, outcome⟩ | ⟨_, ⟨⟩, _⟩)
      exact .inl ⟨why, rfl, idle, outcome⟩
    · rintro (⟨_, ⟨⟩, idle, outcome⟩ | ⟨_, _, _, ⟨⟩, _⟩)
      exact .inl ⟨_, rfl, idle, outcome⟩
  | ok a =>
    obtain ⟨type, w⟩ := a
    have makes : (w.make r.policy >>= fun _ => pure type : Service EventType).run.Runs t o ↔
        ∃ q, w.Persists r.policy t q ∧ o = q.map fun _ => type := by
      simp only [Service.runs_bind_pure_iff, Write.runs_make_iff]
    constructor
    · rintro (⟨_, ⟨⟩, _⟩ | ⟨_, ⟨⟩, run⟩)
      obtain ⟨q, persists, outcome⟩ := makes.1 run
      exact .inr ⟨type, w, q, rfl, persists, outcome⟩
    · rintro (⟨_, ⟨⟩, _⟩ | ⟨_, _, q, ⟨⟩, persists, outcome⟩)
      exact .inr ⟨_, rfl, makes.2 ⟨q, persists, outcome⟩⟩

/-- A message asks to keep the code that it brings, or a case. -/
theorem asksFor_cases {type : EventType} {w : Write} (asks : asksFor r text = .ok (type, w)) :
    (∃ code, Brings text code ∧ w = r.codeWrite code) ∨
      ((∀ code, ¬ Brings text code) ∧ ∃ c, w = r.caseWrite c) := by
  rw [asksFor] at asks
  split at asks
  next type u read =>
    cases u with
    | code e =>
      have brings : Brings text e.payload.code := by rw [Brings, code?, read]
      rw [Update.write?] at asks
      split at asks
      · cases asks
      · cases asks
        exact .inl ⟨_, brings, rfl⟩
    | case e =>
      have brings (code : AccessCode) : ¬ Brings text code := by
        rw [Brings, code?, read]
        exact nofun
      rw [Update.write?] at asks
      split at asks
      · cases asks
      · cases asks
        exact .inr ⟨brings, _, rfl⟩
  next => cases asks

/-- A message that is handled keeps the code that it brings, or a case. If it is not handled,
nothing is done. -/
theorem handled_cases {k : Conditions} {s s' : MemoryStore}
    (run : Program.RunsOn k.Allows (handleMessage r text).run s t o s') :
    ((∃ why, o = .error why) ∧ s' = s) ∨ ∃ type, o = .ok type ∧
      ((∃ code, Brings text code ∧ s' = s.undergo (.ofCode r code)) ∨
        ((∀ code, ¬ Brings text code) ∧ ∃ c, s' = s.undergo (.ofCase r c))) := by
  obtain ⟨runs, carried⟩ := run
  rw [carried.eq_after]
  rcases runs_handleMessage_iff.1 runs with ⟨why, _, rfl, rfl⟩ | ⟨type, w, q, asks, persists, rfl⟩
  · exact .inl ⟨⟨_, rfl⟩, rfl⟩
  cases q with
  | error f => exact .inl ⟨⟨f, rfl⟩, by rw [persists.deeds_of_error, MemoryStore.after_nil]⟩
  | ok u =>
    refine .inr ⟨type, rfl, ?_⟩
    rw [persists.deeds]
    rcases asksFor_cases asks with ⟨code, brings, rfl⟩ | ⟨other, c, rfl⟩
    · exact .inl ⟨code, brings, rfl⟩
    · exact .inr ⟨other, c, rfl⟩

/-- A message that brings a code puts that in its place, if it is handled. -/
theorem Brings.handled {k : Conditions} {s s' : MemoryStore} (brings : Brings text code)
    (run : Program.RunsOn k.Allows (handleMessage r text).run s t o s') :
    s' = if o.isOk then s.undergo (.ofCode r code) else s := by
  rcases handled_cases run with ⟨⟨_, rfl⟩, rfl⟩ | ⟨_, rfl, ⟨c, same, rfl⟩ | ⟨other, _⟩⟩
  · rfl
  · obtain rfl : code = c := Option.some.inj (brings.symm.trans same)
    rfl
  · exact absurd brings (other code)

/-- If no attempt fails, a message that brings a code keeps it at the first one. -/
theorem Brings.trace_eq (brings : Brings text code) (run : (handleMessage r text).run.Runs t o)
    (kept : ∀ f, (r.codeWrite code).exchange (.error f) ∉ t) :
    t = if Text.allBlank code.hash then [] else [(r.codeWrite code).exchange (.ok ())] := by
  rcases brings.asks (r := r) with ⟨blank, why, refused⟩ | ⟨keyed, type, asks⟩
  · rw [blank, if_pos rfl]
    rcases runs_handleMessage_iff.1 run with ⟨_, _, idle, _⟩ | ⟨_, _, _, asks, _⟩
    · exact idle
    · rw [refused] at asks
      cases asks
  · rw [keyed, if_neg Bool.false_ne_true]
    rcases runs_handleMessage_iff.1 run with ⟨_, refused, _⟩ | ⟨_, _, _, wanted, persists, _⟩
    · rw [asks] at refused
      cases refused
    · rw [asks] at wanted
      cases wanted
      exact (persists.eq_of_kept kept).1

/-- So it leaves the code in its place. -/
theorem Brings.left (named : r.WellNamed) (brings : Brings text code)
    (keyed : Text.allBlank code.hash = false) {s s' : MemoryStore}
    (run : Program.RunsOn Conditions.calm.Allows (handleMessage r text).run s t o s') :
    s' = s.undergo (.ofCode r code) := by
  have trace := brings.trace_eq run.1 (run.2.not_mem_of_valid named.code)
  rw [keyed, if_neg Bool.false_ne_true] at trace
  rw [run.2.eq_after, trace]
  rfl

/-- And there is a way to handle it from any store. -/
theorem Brings.exists_runsOn (named : r.WellNamed) (brings : Brings text code)
    (keyed : Text.allBlank code.hash = false) : ∃ type, ∀ s, Program.RunsOn Conditions.calm.Allows
      (handleMessage r text).run s [(r.codeWrite code).exchange (.ok ())] (.ok type)
      (s.undergo (.ofCode r code)) := by
  rcases brings.asks (r := r) with ⟨blank, _⟩ | ⟨_, type, asks⟩
  · exact absurd (keyed.symm.trans blank) Bool.false_ne_true
  · refine ⟨type, fun s => ⟨runs_handleMessage_iff.2 ?_, ?_⟩⟩
    · exact .inr ⟨type, _, .ok (), asks, Write.persists_once _ _, rfl⟩
    · exact .cons (calm_allows_write named.code) (.nil _)

end Inbound
/-! An example: a code is withdrawn. -/
namespace Sample

def withdrawn : AccessCode :=
  { AccessCode.issued "one" "questionnaire" .household .household with active := false }

theorem keyed_withdrawn : Text.allBlank withdrawn.hash = false := by
  decide +kernel

def message : String :=
  "\x7b\"event\":\x7b\"type\":\"UAC_UPDATED\",\"source\":\"CASE_SERVICE\",\"channel\":\"RM\",
    \"dateTime\":\"2021-03-01T00:00:00Z\",
    \"transactionId\":\"00000000-0000-0000-0000-000000000001\"\x7d,
    \"payload\":\x7b\"uac\":\x7b\"codeHash\":\"one\",\"active\":false,
    \"questionnaireId\":\"questionnaire\",\"formType\":\"H\",\"caseType\":\"HH\"\x7d\x7d\x7d"

set_option maxRecDepth 4000 in
theorem brings_message : Inbound.Brings message withdrawn := by
  have chars : message.toList = _ := String.toList_ofList
  rw [Inbound.Brings, Inbound.code?, Inbound.ofMessage, Inbound.readMessage, Wire.ofText,
    Shape.ofText, chars]
  decide +kernel

end Sample
end CensusLink
