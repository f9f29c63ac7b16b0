import CensusLink.Json.Wire

/-!
The envelope of an event: what happened, who says so and over which channel, when, and under which
transaction, together with a payload that depends on what happened.
-/
namespace CensusLink

inductive EventType
  | newAddressReported
  | questionnaireLinked
  | codeCreated
  | codeUpdated
  | caseCreated
  | caseUpdated
  deriving DecidableEq, Repr

def EventType.name : EventType → String
  | .newAddressReported => "NEW_ADDRESS_REPORTED"
  | .questionnaireLinked => "QUESTIONNAIRE_LINKED"
  | .codeCreated => "UAC_CREATED"
  | .codeUpdated => "UAC_UPDATED"
  | .caseCreated => "CASE_CREATED"
  | .caseUpdated => "CASE_UPDATED"

instance : Named EventType where
  all := [.newAddressReported, .questionnaireLinked, .codeCreated, .codeUpdated, .caseCreated,
    .caseUpdated]
  name := EventType.name
  place
    | .newAddressReported => 0
    | .questionnaireLinked => 1
    | .codeCreated => 2
    | .codeUpdated => 3
    | .caseCreated => 4
    | .caseUpdated => 5
  get_place t := by cases t <;> rfl
  distinct := by decide

inductive EventSource
  | respondentHome
  | caseService
  | sampleLoader
  deriving DecidableEq, Repr

def EventSource.name : EventSource → String
  | .respondentHome => "RESPONDENT_HOME"
  | .caseService => "CASE_SERVICE"
  | .sampleLoader => "SAMPLE_LOADER"

instance : Named EventSource where
  all := [.respondentHome, .caseService, .sampleLoader]
  name := EventSource.name
  place
    | .respondentHome => 0
    | .caseService => 1
    | .sampleLoader => 2
  get_place s := by cases s <;> rfl
  distinct := by decide

/-- Channels of respondents and of response management. -/
inductive Channel
  | respondent
  | management
  deriving DecidableEq, Repr

def Channel.name : Channel → String
  | .respondent => "RH"
  | .management => "RM"

instance : Named Channel where
  all := [.respondent, .management]
  name := Channel.name
  place
    | .respondent => 0
    | .management => 1
  get_place c := by cases c <;> rfl
  distinct := by decide

/-- What is said of every event, with the time of it. -/
structure EventHeader (τ : Type := Instant) where
  type : EventType
  source : EventSource
  channel : Channel
  time : τ
  transaction : Uuid
  deriving DecidableEq

section Header

variable {τ : Type}

instance EventHeader.packed [Packed τ] : Packed (EventHeader τ) where
  shape := .record "EventHeader" <|
    .cons "type" .required (Wire.shape EventType) <|
    .cons "source" .required (Wire.shape EventSource) <|
    .cons "channel" .required (Wire.shape Channel) <|
    .cons "dateTime" .required (Wire.shape τ) <|
    .cons "transactionId" .required (Wire.shape Uuid) .nil
  pack h := (Wire.pack h.type, Wire.pack h.source, Wire.pack h.channel, Wire.pack h.time,
    Wire.pack h.transaction, ())
  unpack := fun (type, source, channel, time, transaction, ()) =>
    ⟨Wire.unpack type, Wire.unpack source, Wire.unpack channel, Wire.unpack time,
      Wire.unpack transaction⟩

/-- A header is kept but for its time. -/
theorem EventHeader.unpack_pack [Packed τ] (h : EventHeader τ) :
    Wire.unpack (Wire.pack h) = { h with time := Wire.unpack (Wire.pack h.time) } := by
  unfold packed
  simp [Wire.unpack_pack]

instance [Wire τ] : Wire (EventHeader τ) where
  unpack_pack h := by rw [h.unpack_pack, Wire.unpack_pack]

end Header

structure Envelope (α : Type) (τ : Type := Instant) where
  header : EventHeader τ
  payload : α
  deriving DecidableEq

section Envelope

variable {α τ : Type}

instance Envelope.packed [Packed α] [Packed τ] : Packed (Envelope α τ) where
  shape := .record "GenericEvent" <|
    .cons "event" .required (Wire.shape (EventHeader τ)) <|
    .cons "payload" .required (Wire.shape α) .nil
  pack e := (Wire.pack e.header, Wire.pack e.payload, ())
  unpack := fun (header, payload, ()) => ⟨Wire.unpack header, Wire.unpack payload⟩

/-- The parts of an event are kept each for itself. -/
theorem Envelope.unpack_pack [Packed α] [Packed τ] (e : Envelope α τ) : Wire.unpack (Wire.pack e) =
    ⟨Wire.unpack (Wire.pack e.header), Wire.unpack (Wire.pack e.payload)⟩ := rfl

instance [Wire α] [Wire τ] : Wire (Envelope α τ) where
  unpack_pack e := by rw [e.unpack_pack, Wire.unpack_pack, Wire.unpack_pack]

end Envelope
end CensusLink
