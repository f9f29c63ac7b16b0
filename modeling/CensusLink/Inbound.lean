import CensusLink.Registry

/-!
Events that come in: each brings an access code or a case as it stands now, which replaces what is
kept under its key. A message is read in two steps, first as an event with any payload, then its
payload by the type of the event; a message that is no such event is refused and nothing is written.
-/
namespace CensusLink.Inbound

/-- Why a message or an event is refused. -/
inductive Refusal
  | unreadable (m : Misfit)
  | payload (type : EventType) (transaction : Uuid) (m : Misfit)
  | unsupported (type : EventType)
  | noCodeHash (transaction : Uuid)
  | noCaseId (transaction : Uuid)
  deriving DecidableEq, Repr

def Refusal.message : Refusal → String
  | .unreadable m => "Undecodable event: " ++ m.message
  | .payload type transaction m =>
    "Invalid " ++ type.name ++ " payload in event " ++ transaction.text ++ ": " ++ m.message
  | .unsupported type => "Unsupported inbound event type " ++ type.name
  | .noCodeHash transaction => "Access code event " ++ transaction.text ++ " has no code hash"
  | .noCaseId transaction => "Case event " ++ transaction.text ++ " has no case id"

def Refusal.fault (r : Refusal) : Fault := .badRequest r.message

/-- What kind of thing an event type brings. -/
inductive Topic
  | code
  | case
  | other
  deriving DecidableEq, Repr

def topic : EventType → Topic
  | .codeCreated => .code
  | .codeUpdated => .code
  | .caseCreated => .case
  | .caseUpdated => .case
  | .newAddressReported => .other
  | .questionnaireLinked => .other

/-- An event with its payload read. -/
def readPayload (α : Type) [Wire α] (e : Envelope Document) : Except Refusal (Envelope α) :=
  match Wire.ofDocument e.payload with
  | .ok a => .ok ⟨e.header, a⟩
  | .error m => .error (.payload e.header.type e.header.transaction m)

/-- What a message comes to, apart from its key. -/
inductive Update
  | code (e : CodeEvent)
  | case (e : CaseEvent)

def readMessage (message : String) : Except Refusal (Envelope Document) :=
  match Wire.ofText message with
  | .ok e => .ok e
  | .error m => .error (.unreadable m)

/-- The update in an event, by the type of the event. -/
def Update.ofEvent (e : Envelope Document) : Except Refusal Update :=
  match topic e.header.type with
  | .code => (readPayload CodeUpdate e).map .code
  | .case => (readPayload CaseUpdate e).map .case
  | .other => .error (.unsupported e.header.type)

variable (r : Registry)

def handleCode (e : CodeEvent) : Service Unit :=
  let code := e.payload.code
  if Text.allBlank code.hash then
    Service.of (.error (Refusal.noCodeHash e.header.transaction).fault)
  else r.writeCode code

def handleCase (e : CaseEvent) : Service Unit :=
  let c := e.payload.subject
  if Text.allBlank c.id then
    Service.of (.error (Refusal.noCaseId e.header.transaction).fault)
  else r.writeCase c

def handleUpdate : Update → Service Unit
  | .code e => handleCode r e
  | .case e => handleCase r e

/-- The event and its update in a message. -/
def ofMessage (message : String) : Except Refusal (EventType × Update) := do
  let e ← readMessage message
  let u ← Update.ofEvent e
  .ok (e.header.type, u)

/-- Handles a message and says of what type it was. -/
def handleMessage (message : String) : Service EventType := do
  let (type, u) ← Service.of ((ofMessage message).mapError Refusal.fault)
  handleUpdate r u
  pure type

end CensusLink.Inbound
