import CensusLink.Proofs.Inbound.Handling
import CensusLink.Proofs.Linking.Meaning
import CensusLink.Proofs.Registry.Entries
import CensusLink.Proofs.Services.Indifference

/-!
What operations enter in a registry. On a store where all is in place every operation enters the
codes and cases that it writes, brings or links, or none if it is a read or refused, and does
nothing else to the store.
-/
namespace CensusLink

def Deed.isTold : Deed → Bool
  | .told _ => true
  | _ => false

/-- What is done to the store in a trace. -/
def Trace.written (t : Trace) : List Deed := t.deeds.filter fun d => !d.isTold

namespace Inbound

/-- What an update brings. -/
def Update.entry : Update → Entry
  | .code e => .code e.payload.code
  | .case e => .case e.payload.subject

variable {r : Registry} {u : Update} {w : Write}

end Inbound

/-- What is entered by an operation with its outcome. A code or a case that is written is entered,
the case as its text tells it, and so is what an accepted message brings; a link enters new cases at
its address, and then its code as it is shown. Nothing else is entered. -/
inductive Served.Enters (r : Registry) : Served → List Entry → Prop
  | code (a : AccessCode) : Enters r ⟨.writeCode a, .ok ()⟩ [.code a]
  | case (c : CollectionCase Moment) : Enters r ⟨.writeCase c, .ok ()⟩ [.case c.told]
  | update {u : Inbound.Update} {w : Write} (asks : u.write? r = .ok w) :
    Enters r ⟨.update u, .ok ()⟩ [u.entry]
  | updateRefused {u : Inbound.Update} {why : Inbound.Refusal} (refused : u.write? r = .error why) :
    Enters r ⟨.update u, .error why.fault⟩ []
  | message {text : String} {type : EventType} {u : Inbound.Update} {w : Write}
      (read : Inbound.ofMessage text = .ok (type, u)) (asks : u.write? r = .ok w) :
    Enters r ⟨.message text, .ok type⟩ [u.entry]
  | messageRefused {text : String} {why : Inbound.Refusal}
      (refused : Inbound.asksFor r text = .error why) :
    Enters r ⟨.message text, .error why.fault⟩ []
  | link {hash : String} {request : LinkRequest} {cases : List CollectionCase}
      {target : CollectionCase} {linked : AccessCode} (mine : linked.hash = hash)
      (joined : linked.caseId = some target.id) (there : ∀ c ∈ cases, c.uprn = request.place) :
    Enters r ⟨.link hash request, .ok (CodeView.merged target linked)⟩
      (cases.map .case ++ [.code linked])
  | linkRefused {hash : String} {request : LinkRequest} (f : Fault) :
    Enters r ⟨.link hash request, .error f⟩ []
  | read {x : Served} (reads : x.operation.isRead) : Enters r x []

namespace Served

variable {r : Registry} {settings : LinkSettings} {m m' : MemoryStore} {t : Trace}

theorem Enters.of_alike {x y : Served} (alike : x.Alike y) {es : List Entry}
    (h : y.Enters r es) : x.Enters r es := by
  obtain ⟨h'⟩ := alike
  rename_i o outcome outcome'
  cases reads : o.isRead with
  | true =>
    obtain rfl : es = [] := by
      cases h <;> first | rfl | cases reads
    exact .read reads
  | false =>
    obtain rfl : outcome = outcome' := by
      cases h' with
      | ok same => exact congrArg Except.ok (Operation.eq_of_same reads same)
      | error f => rfl
    exact h

end Served

end CensusLink
