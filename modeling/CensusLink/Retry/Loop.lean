import CensusLink.Program
import CensusLink.Retry.Policy

/-!
Writes under a retry policy. A write that meets contention is made again after a delay, as often as
the policy allows; the last failure is then reported and the write given up.
-/
namespace CensusLink

/-- A call that changes what is stored. -/
inductive Write
  | store (schema key : String) (document : Document)
  | delete (schema key : String)

namespace Write

def operation : Write → String
  | .store _ _ _ => "store"
  | .delete _ _ => "delete"

def schema : Write → String
  | .store schema _ _ => schema
  | .delete schema _ => schema

def key : Write → String
  | .store _ key _ => key
  | .delete _ key => key

/-- The call itself, once. -/
def attempt : Write → Program (Except Fault Unit)
  | .store schema key document => Program.of (.call (.store schema key document))
  | .delete schema key => Program.of (.call (.delete schema key))

def givenUp (w : Write) (attempts : Nat) (f : Fault) : GivenUp :=
  ⟨w.operation, w.schema, w.key, attempts, f⟩

/-- Makes the write as attempt number `number`, with so many attempts left after it. -/
def persist (p : RetryPolicy) (w : Write) : Nat → Nat → Program (Except Fault Unit)
  | left, number => do
    match ← w.attempt with
    | .ok () => .done (.ok ())
    | .error f =>
      if f.isRetryable then
        match left with
        | 0 => do
          let _ ← Program.of (.giveUp (w.givenUp number f))
          .done (.error f)
        | left + 1 => do
          let _ ← Program.of (.sleep (p.delayAfter number))
          persist p w left (number + 1)
      else .done (.error f)

/-- Makes the write as often as a policy allows. -/
def make (p : RetryPolicy) (w : Write) : Service Unit :=
  ExceptT.mk (w.persist p (p.attempts - 1) 1)

end Write
end CensusLink
