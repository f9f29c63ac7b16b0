import CensusLink.Proofs.Inbound.Handling
import CensusLink.Proofs.Json.Forms
import CensusLink.Proofs.Registry.Placed

/-!
How an event in a message is routed. The text of an event is read twice, first with its payload set
aside as a document, then the payload for what the type of the event brings. The main statement is
that a message with an event in it is handled as that event is on its own, whatever the backend
does, if its type is one of those that bring such a payload; under any other type it is refused.
-/
namespace CensusLink

/-- An event with its payload set aside, as a first reading of its text has it. -/
def Envelope.aside {α : Type} [Wire α] (e : Envelope α) : Envelope Document :=
  ⟨e.header, Wire.toDocument e.payload⟩

namespace Wire

variable {α : Type} [Wire α]

theorem toJson_envelope (e : Envelope α) : toJson e =
    .object [("event", toJson e.header), ("payload", toJson e.payload)] := rfl

/-- Where there is room for an event it is read with its payload set aside. -/
theorem fit_aside (e : Envelope α) {o : Origin} (holds : o.Holds (toJson e)) :
    (shape (Envelope Document)).fit o (Draft.ofJson (toJson e)) = .ok (pack e.aside) := by
  rw [toJson_envelope] at holds ⊢
  obtain ⟨inner, enter, room⟩ := holds.enter rfl
  have header : inner.Holds (toJson e.header) := room _ (Nat.le_max_left _ _)
  have payload : inner.Holds (toJson e.payload) :=
    room _ (Nat.le_trans (Nat.le_max_left _ _) (Nat.le_max_right _ _))
  refine (Shape.fit_object_iff enter (by decide) (by simp)).2 ⟨⟨_, ⟨_, rfl, ?_⟩, rfl⟩,
    ⟨_, ⟨_, rfl, ?_⟩, rfl⟩, trivial⟩
  · exact Shape.fit_write Json.rearranges_id (by decide) (pack e.header) header
  · change fitDocument inner (Draft.ofJson (toJson e.payload)) = .ok (toDocument e.payload)
    rw [fitDocument, payload.toJson]
    rfl

/-- A text that spells an event is read as that event, with its payload set aside. -/
theorem ofText_aside (low : (shape (Envelope α)).isPlain ∧
    (shape (Envelope α)).height < Json.roomOfText) {e : Envelope α} {text : String}
    (spells : (toJson e).Spells text.toList []) : ofText text = .ok e.aside := by
  have levels := ((shape (Envelope α)).write_of_isPlain low.1 (pack e)).2
  have holds : (Origin.text Json.roomOfText).Holds (toJson e) := by
    rintro room ⟨⟩
    exact Nat.lt_of_le_of_lt levels low.2
  rw [ofText, Shape.ofText, Draft.ofText_of_spells spells]
  change (((shape (Envelope Document)).fit _ _ >>= fun v => Except.ok v) >>= _) = _
  rw [fit_aside e holds]
  exact congrArg Except.ok (unpack_pack e.aside)

end Wire

/-- An object with one member, of another name, lacks the field of a record that has just one. -/
theorem Shape.fit_lacking {key field : String} (other : key ≠ field) {s : Shape}
    (demanded : s.absent? .required = none) (name : String) (j : Json) :
    (Shape.record name (.cons field .required s .nil)).ofJson (.object [(key, j)]) =
      .error (.missing field) := by
  have placed : (Fields.cons field .required s .nil).place .tree key (Draft.ofJson j)
      (none, ()) = .ok (none, ()) := by
    simp only [Fields.place, if_neg other, Draft.skip_ofJson]
    rfl
  have gathered : (Fields.cons field .required s .nil).gather (none, ()) =
      .error (.missing field) := by
    simp only [Fields.gather, demanded]
    rfl
  rw [Shape.ofJson, Draft.ofJson, Shape.fit_record]
  change ((Fields.cons field .required s .nil).place .tree key (Draft.ofJson j) (none, ()) >>=
    fun slots => Except.ok slots) >>= _ = _
  rw [placed]
  exact gathered

namespace Inbound

/-- A text that spells an event, with any blanks between its tokens. -/
def Prints {α : Type} [Wire α] (text : String) (e : Envelope α) : Prop :=
  (Wire.toJson e).Spells text.toList []

section Printing

variable {α : Type} [Wire α] (plain : (Wire.shape (Envelope α)).isPlain) (e : Envelope α)

include plain

theorem prints_text : Prints (Wire.text e) e := by
  rw [Prints, Wire.text, Json.compact, String.toList_ofList]
  exact Json.spells_write (Shape.write_of_isPlain _ plain (Wire.pack e)).1 Numeral.ends_nil

theorem prints_prettyText : Prints (Wire.prettyText e) e := by
  rw [Prints, Wire.prettyText, Json.pretty, String.toList_ofList]
  exact Json.spells_writePretty 0 (Shape.write_of_isPlain _ plain (Wire.pack e)).1 Numeral.ends_nil

end Printing

/-- A payload that was set aside is read as what it was. -/
theorem readPayload_aside {α : Type} [Wire α] (sound : (Wire.shape α).isSound) (e : Envelope α) :
    readPayload α e.aside = .ok e := by
  have read : Wire.ofDocument e.aside.payload = .ok e.payload :=
    Wire.ofDocument_toDocument sound e.payload
  rw [readPayload, read]
  rfl

/-- A payload that was set aside is refused as what it is not. -/
theorem readPayload_foreign {α β : Type} [Wire α] [Wire β] {e : Envelope α} {m : Misfit}
    (misfit : (Wire.ofDocument (Wire.toDocument e.payload) : Except Misfit β) = .error m) :
    readPayload β e.aside = .error (.payload e.header.type e.header.transaction m) := by
  have read : (Wire.ofDocument e.aside.payload : Except Misfit β) = .error m := misfit
  rw [readPayload, read]
  rfl

theorem ofDocument_code (u : CodeUpdate) :
    (Wire.ofDocument (Wire.toDocument u) : Except Misfit CaseUpdate) =
      .error (.missing "collectionCase") := by
  have lacking : (Wire.shape CaseUpdate).ofJson (Wire.toDocument u).json = .error _ :=
    Shape.fit_lacking (by decide : "uac" ≠ "collectionCase") rfl "CasePayload" _
  rw [Wire.ofDocument, Wire.ofJson, lacking]
  rfl

theorem ofDocument_case (u : CaseUpdate) :
    (Wire.ofDocument (Wire.toDocument u) : Except Misfit CodeUpdate) =
      .error (.missing "uac") := by
  have lacking : (Wire.shape CodeUpdate).ofJson (Wire.toDocument u).json = .error _ :=
    Shape.fit_lacking (by decide : "collectionCase" ≠ "uac") rfl "AccessCodePayload" _
  rw [Wire.ofDocument, Wire.ofJson, lacking]
  rfl

theorem topic_eq_code_iff {type : EventType} :
    topic type = .code ↔ type ∈ [.codeCreated, .codeUpdated] := by
  cases type <;> decide

theorem topic_eq_case_iff {type : EventType} :
    topic type = .case ↔ type ∈ [.caseCreated, .caseUpdated] := by
  cases type <;> decide

theorem topic_eq_other_iff {type : EventType} :
    topic type = .other ↔ type ∈ [.newAddressReported, .questionnaireLinked] := by
  cases type <;> decide

/-- A message with an event in it is that event by its type. -/
theorem ofMessage_of_prints {α : Type} [Wire α] (low : (Wire.shape (Envelope α)).isPlain ∧
    (Wire.shape (Envelope α)).height < Json.roomOfText) {e : Envelope α} {text : String}
    (prints : Prints text e) :
    ofMessage text = (Update.ofEvent e.aside).map fun u => (e.header.type, u) := by
  rw [ofMessage, readMessage, Wire.ofText_aside low prints]
  change (Update.ofEvent e.aside >>= fun u => Except.ok (e.header.type, u)) = _
  cases Update.ofEvent e.aside <;> rfl

/-- The update in a text that spells an event with a code, or why there is none. -/
theorem ofMessage_code {e : CodeEvent} {text : String} (prints : Prints text e) :
    ofMessage text = match topic e.header.type with
      | .code => .ok (e.header.type, .code e)
      | .case => .error (.payload e.header.type e.header.transaction (.missing "collectionCase"))
      | .other => .error (.unsupported e.header.type) := by
  have header : e.aside.header = e.header := rfl
  rw [ofMessage_of_prints (by decide) prints, Update.ofEvent, header,
    readPayload_aside (by decide), readPayload_foreign (ofDocument_code e.payload)]
  cases topic e.header.type <;> rfl

theorem ofMessage_case {e : CaseEvent} {text : String} (prints : Prints text e) :
    ofMessage text = match topic e.header.type with
      | .code => .error (.payload e.header.type e.header.transaction (.missing "uac"))
      | .case => .ok (e.header.type, .case e)
      | .other => .error (.unsupported e.header.type) := by
  have header : e.aside.header = e.header := rfl
  rw [ofMessage_of_prints (by decide) prints, Update.ofEvent, header,
    readPayload_aside (by decide), readPayload_foreign (ofDocument_case e.payload)]
  cases topic e.header.type <;> rfl

/-- On every host the one passes what the other passes and leaves the host where the other leaves
it. It fails with the same fault, and where the other is done it answers with a type. -/
def ActsAs (x : Service EventType) (type : EventType) (direct : Service Unit) : Prop :=
  ∀ {σ : Type} (allows : σ → Exchange → σ → Prop) (s : σ) (t : Trace)
    (o : Except Fault EventType) (s' : σ), Program.RunsOn allows x.run s t o s' ↔
      ∃ q, Program.RunsOn allows direct.run s t q s' ∧ o = q.map fun _ => type

/-- On every host it is a bad request, for one reason, and nothing happens. -/
def Refuses (x : Service EventType) (why : Refusal) : Prop :=
  ∀ {σ : Type} (allows : σ → Exchange → σ → Prop) (s : σ) (t : Trace)
    (o : Except Fault EventType) (s' : σ), Program.RunsOn allows x.run s t o s' ↔
      t = [] ∧ o = .error (.badRequest why.message) ∧ s' = s

variable {r : Registry} {text : String}

theorem actsAs_of_read {type : EventType} {u : Update} (read : ofMessage text = .ok (type, u)) :
    ActsAs (handleMessage r text) type (handleUpdate r u) := by
  intro σ allows s t o s'
  have split : handleMessage r text = handleUpdate r u >>= fun _ => pure type := by
    rw [handleMessage, read]
    rfl
  rw [Program.RunsOn, split, Service.runs_bind_pure_iff]
  constructor
  · rintro ⟨⟨q, runs, outcome⟩, carried⟩
    exact ⟨q, ⟨runs, carried⟩, outcome⟩
  · rintro ⟨q, ⟨runs, carried⟩, outcome⟩
    exact ⟨⟨q, runs, outcome⟩, carried⟩

theorem refuses_of_read {why : Refusal} (read : ofMessage text = .error why) :
    Refuses (handleMessage r text) why := by
  intro σ allows s t o s'
  have stops : handleMessage r text = throw why.fault := by
    rw [handleMessage, read]
    rfl
  rw [Program.RunsOn, stops, Service.runs_throw_iff]
  constructor
  · rintro ⟨⟨rfl, rfl⟩, carried⟩
    cases carried
    exact ⟨rfl, rfl, rfl⟩
  · rintro ⟨rfl, rfl, rfl⟩
    exact ⟨⟨rfl, rfl⟩, .nil _⟩

/-- What becomes of a message with an event in it. Under its own types it is handled as the event
is, under those of the other kind it lacks a field, and under the types of what is announced it is
not supported. -/
structure Routes (r : Registry) (text : String) (h : EventHeader) (own foreign : List EventType)
    (field : String) (direct : Service Unit) : Prop where
  own : h.type ∈ own → ActsAs (handleMessage r text) h.type direct
  foreign : h.type ∈ foreign →
    Refuses (handleMessage r text) (.payload h.type h.transaction (.missing field))
  announced : h.type ∈ [.newAddressReported, .questionnaireLinked] →
    Refuses (handleMessage r text) (.unsupported h.type)

theorem routes_code (r : Registry) {e : CodeEvent} (prints : Prints text e) :
    Routes r text e.header [.codeCreated, .codeUpdated] [.caseCreated, .caseUpdated]
      "collectionCase" (handleCode r e) := by
  refine ⟨fun own => actsAs_of_read (u := .code e) ?_, fun foreign => refuses_of_read ?_,
    fun announced => refuses_of_read ?_⟩
  · rw [ofMessage_code prints, topic_eq_code_iff.2 own]
  · rw [ofMessage_code prints, topic_eq_case_iff.2 foreign]
  · rw [ofMessage_code prints, topic_eq_other_iff.2 announced]

theorem routes_case (r : Registry) {e : CaseEvent} (prints : Prints text e) :
    Routes r text e.header [.caseCreated, .caseUpdated] [.codeCreated, .codeUpdated]
      "uac" (handleCase r e) := by
  refine ⟨fun own => actsAs_of_read (u := .case e) ?_, fun foreign => refuses_of_read ?_,
    fun announced => refuses_of_read ?_⟩
  · rw [ofMessage_case prints, topic_eq_case_iff.2 own]
  · rw [ofMessage_case prints, topic_eq_code_iff.2 foreign]
  · rw [ofMessage_case prints, topic_eq_other_iff.2 announced]

/-- A message in which an event is printed, on one line, over several lines or with other blanks, is
handled as the event itself, on every store and whatever the backend does. -/
theorem raw_agrees_with_typed (r : Registry) :
    (∀ (e : CodeEvent) (text : String), Prints text e →
      Routes r text e.header [.codeCreated, .codeUpdated] [.caseCreated, .caseUpdated]
        "collectionCase" (handleCode r e)) ∧
    (∀ (e : CaseEvent) (text : String), Prints text e →
      Routes r text e.header [.caseCreated, .caseUpdated] [.codeCreated, .codeUpdated]
        "uac" (handleCase r e)) ∧
    (∀ e : CodeEvent, Prints (Wire.text e) e ∧ Prints (Wire.prettyText e) e) ∧
    ∀ e : CaseEvent, Prints (Wire.text e) e ∧ Prints (Wire.prettyText e) e := by
  refine ⟨fun e text => routes_code r, fun e text => routes_case r, fun e => ?_, fun e => ?_⟩
  · exact ⟨prints_text (by decide) e, prints_prettyText (by decide) e⟩
  · exact ⟨prints_text (by decide) e, prints_prettyText (by decide) e⟩

end Inbound

/-! An example: the withdrawal of a code, sent as the update of a code and as that of a case. -/
namespace Sample

theorem valid_march : Civil.Valid ⟨2021, 3, 1, 0, 0⟩ := by decide

def withdrawnAs (type : EventType) : CodeEvent where
  header := {
    type
    source := .caseService
    channel := .management
    time := ⟨⟨2021, 3, 1, 0, 0⟩, valid_march⟩
    transaction := ⟨1, Nat.le_of_ble_eq_true rfl⟩ }
  payload := ⟨withdrawn⟩

end Sample

theorem Inbound.raw_agrees_with_typed_sample :
    ActsAs (handleMessage Sample.registry (Wire.text (Sample.withdrawnAs .codeUpdated)))
      .codeUpdated (handleCode Sample.registry (Sample.withdrawnAs .codeUpdated)) ∧
    Refuses (handleMessage Sample.registry (Wire.text (Sample.withdrawnAs .caseUpdated)))
      (.payload .caseUpdated (Sample.withdrawnAs .caseUpdated).header.transaction
        (.missing "collectionCase")) := by
  obtain ⟨code, _, printed, _⟩ := raw_agrees_with_typed Sample.registry
  have update := code (Sample.withdrawnAs .codeUpdated) _ (printed _).1
  have misrouted := code (Sample.withdrawnAs .caseUpdated) _ (printed _).1
  exact ⟨update.own (by decide), misrouted.foreign (by decide)⟩

end CensusLink
