import CensusLink.Event.Payload
import CensusLink.Store.Call

/-!
Programs: what the service does, apart from who carries it out. A program is a result, or an effect
and a program for each reply to it. A host gives every effect a reply, and running a program on it
is one pass over the effects that the program comes to. A service is a program that may fail.
-/
namespace CensusLink

/-- An event to be published, before it has a time and a transaction. -/
structure Notice where
  type : EventType
  source : EventSource
  channel : Channel
  payload : Announcement
  deriving DecidableEq

/-- A store call that was given up after a last attempt. -/
structure GivenUp where
  operation : String
  schema : String
  key : String
  attempts : Nat
  fault : Fault
  deriving DecidableEq

inductive Effect
  | call (c : StoreCall)
  | publish (n : Notice)
  | sleep (milliseconds : Nat)
  | giveUp (g : GivenUp)
  | freshId
  | now

def Effect.Reply : Effect → Type
  | .call c => c.Outcome
  | .publish _ => Except Fault Unit
  | .sleep _ => Unit
  | .giveUp _ => Unit
  | .freshId => Uuid
  | .now => Instant

inductive Program (α : Type) : Type
  | done (a : α)
  | perform (e : Effect) (next : e.Reply → Program α)

namespace Program

variable {α β : Type}

def bind (p : Program α) (f : α → Program β) : Program β :=
  match p with
  | .done a => f a
  | .perform e next => .perform e fun r => (next r).bind f

instance : Monad Program where
  pure := .done
  bind := bind

/-- One effect and its reply. -/
def of (e : Effect) : Program e.Reply := .perform e .done

/-- Carries a program out. -/
def run {m : Type → Type} [Monad m] (host : (e : Effect) → m e.Reply) : Program α → m α
  | .done a => pure a
  | .perform e next => do
    let r ← host e
    (next r).run host

@[simp]
theorem done_bind (a : α) (f : α → Program β) : (Program.done a >>= f) = f a := rfl

@[simp]
theorem perform_bind (e : Effect) (next : e.Reply → Program α) (f : α → Program β) :
    (Program.perform e next >>= f) = .perform e fun r => next r >>= f := rfl

theorem bind_done (p : Program α) : (p >>= Program.done) = p := by
  induction p with
  | done a => rfl
  | perform e next ih => simp [ih]

theorem bind_bind {γ : Type} (p : Program α) (f : α → Program β) (g : β → Program γ) :
    (p >>= f >>= g) = p >>= fun a => f a >>= g := by
  induction p with
  | done a => rfl
  | perform e next ih => simp [ih]

instance : LawfulMonad Program :=
  LawfulMonad.mk' Program bind_done (fun _ _ => rfl) bind_bind

end Program

/-- A program that may fail. -/
abbrev Service := ExceptT Fault Program

namespace Service

variable {α : Type}

def call (c : StoreCall) : Service c.Reply := ExceptT.mk (Program.of (.call c))

def publish (n : Notice) : Service Unit := ExceptT.mk (Program.of (.publish n))

/-- What a rule decides, as a step that may fail. -/
def of (r : Except Fault α) : Service α := ExceptT.mk (.done r)

def freshId : Service Uuid := ExceptT.lift (Program.of .freshId)

def now : Service Instant := ExceptT.lift (Program.of .now)

/-- The outcome of a service, be it a failure. -/
def attempt (s : Service α) : Service (Except Fault α) := ExceptT.lift s.run

end Service
end CensusLink
