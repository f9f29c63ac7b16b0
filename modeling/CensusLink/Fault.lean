import CensusLink.Json.Flaw

/-!
What an operation reports when it fails. Only contention passes by itself, so only contention is
worth another attempt.
-/
namespace CensusLink

inductive FaultKind
  | notFound
  | badRequest
  | contention
  | system
  deriving DecidableEq, Repr

structure Fault where
  kind : FaultKind
  message : String
  deriving DecidableEq, Repr

def FaultKind.heading : FaultKind → String
  | .notFound => "Not found: "
  | .badRequest => "Bad request: "
  | .contention => "Contention: "
  | .system => "System error: "

namespace Fault

def text (f : Fault) : String := f.kind.heading ++ f.message

def isContention (f : Fault) : Bool := f.kind == .contention

/-- Whether another attempt may succeed. -/
def isRetryable (f : Fault) : Bool := f.isContention

def system (message : String) : Fault := ⟨.system, message⟩

def badRequest (message : String) : Fault := ⟨.badRequest, message⟩

def notFound (message : String) : Fault := ⟨.notFound, message⟩

def contention (message : String) : Fault := ⟨.contention, message⟩

/-- A text that is no JSON. -/
def ofFlaw (f : Flaw) : Fault := .system ("JSON error: " ++ f.message)

/-- A file or device that could not be used. -/
def ofDevice (reason : String) : Fault := .system ("I/O error: " ++ reason)

end Fault
end CensusLink
