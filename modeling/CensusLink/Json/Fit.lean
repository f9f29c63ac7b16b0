import CensusLink.Json.Misfit
import CensusLink.Json.Shape

/-!
Fitting a draft to a shape. The draft is walked in the order in which its text is written, and the
first thing that does not fit is reported. A record may also be given as an array of its fields, and
a name as an object with that one key and null.
-/
namespace CensusLink

/-- Where a draft comes from: a text, with room left for containers inside one another, a value in
memory, or a value set aside until its shape is known. -/
inductive Origin
  | text (room : Nat)
  | tree
  | aside
  deriving DecidableEq, Repr

namespace Origin

def room : Origin → Option Nat
  | .text room => some room
  | _ => none

/-- Goes into a container. -/
def enter (o : Origin) : Except Misfit Origin :=
  match Draft.enter o.room with
  | .error f => .error (.flaw f)
  | .ok (some room) => .ok (.text room)
  | .ok none => .ok o

/-- The report on items that no field is left for. -/
def surplus (o : Origin) (total : Nat) : Misfit :=
  match o with
  | .text _ => .flaw .trailingCharacters
  | _ => .wrongLength total "fewer elements in array"

end Origin

namespace Misfit

/-- A fault of the text is a misfit of any shape. -/
def ofFlaw {α : Type} : Except Flaw α → Except Misfit α
  | .ok a => .ok a
  | .error f => .error (.flaw f)

/-- Refuses a draft for being something else. -/
def refuse {α : Type} (d : Draft) (wanted : String) : Except Misfit α :=
  match d.found with
  | .ok found => .error (.wrongType found wanted)
  | .error f => .error (.flaw f)

def elements (name : String) (count : Nat) : String :=
  "struct " ++ name ++ " with " ++ toString count ++ (if count = 1 then " element" else " elements")

end Misfit

open Misfit (ofFlaw refuse)

def fitText (d : Draft) (wanted : String) : Except Misfit String :=
  match d with
  | .string s => ofFlaw s
  | d => refuse d wanted

def fitFlag : Draft → Except Misfit Bool
  | .bool b => .ok b
  | d => refuse d "a boolean"

def fitWhole (name : String) (low high : Int) (d : Draft) :
    Except Misfit { n : Int // low ≤ n ∧ n ≤ high } :=
  match d with
  | .number (.ok (.whole n fits)) =>
    if h : low ≤ n ∧ n ≤ high then .ok ⟨n, h⟩
    else .error (.wrongValue (.number (.whole n fits)) name)
  | d => refuse d name

def fitReal : Draft → Except Misfit Binary64
  | .number (.ok (.whole n _)) => .ok (.ofInt n)
  | .number (.ok (.real x)) => .ok x
  | d => refuse d "f64"

def fitInstant (d : Draft) : Except Misfit Instant := do
  let s ← fitText d "an RFC 3339 formatted date and time string"
  match Instant.ofText s with
  | .ok t => .ok t
  | .error e => .error (.instant e)

def fitUuid (d : Draft) : Except Misfit Uuid := do
  let s ← fitText d "a formatted UUID string"
  match Uuid.ofText s with
  | .ok u => .ok u
  | .error e => .error (.uuid e)

def fitDocument (o : Origin) (d : Draft) : Except Misfit Document := do
  let j ← ofFlaw (d.toJson o.room)
  .ok (.ofJson j)

/-- The place of a name in a list of names. -/
def placeOf (name : String) (names : List String) : Except Misfit (Fin names.length) :=
  match names.finIdxOf? name with
  | some i => .ok i
  | none => .error (.unknownName name names)

/-- The value that a name given as a key must have. -/
def fitUnit : Draft → Except Misfit Unit
  | .null => .ok ()
  | d => refuse d "unit"

/-- The end of an object that names a choice, in a text. -/
def checkSingle (more : List (Except Flaw String × Draft)) (close : MembersEnd) :
    Except Misfit Unit :=
  match more, close with
  | [], .closed => .ok ()
  | [], .cut fault => .error (.flaw (if fault.kept = .endInObject then .endInObject
      else .expectedValue))
  | _ :: _, _ => .error (.flaw .expectedValue)

/-- A choice in a text: every other kind of value is just not the one expected. -/
def fitChoiceInText (names : List String) (o : Origin) :
    Draft → Except Misfit (Fin names.length)
  | .string s => do placeOf (← ofFlaw s) names
  | .object [] close => do
    let _ ← o.enter
    match close with
    | .closed => .error (.flaw .expectedValue)
    | .cut fault => .error (.flaw fault.kept)
  | .object ((key, value) :: more) close => do
    let _ ← o.enter
    let i ← placeOf (← ofFlaw key) names
    fitUnit value
    checkSingle more close
    .ok i
  | .keyless => do
    let _ ← o.enter
    .error (.flaw .keyNotString)
  | .broken opening fault =>
    .error (.flaw (if opening = none ∨ opening = some '"' then fault.kept else .expectedValue))
  | _ => .error (.flaw .expectedValue)

def fitChoiceInMemory (names : List String) : Draft → Except Misfit (Fin names.length)
  | .string s => do placeOf (← ofFlaw s) names
  | .object [(key, value)] _ => do
    let i ← placeOf (← ofFlaw key) names
    fitUnit value
    .ok i
  | .object _ _ => .error (.wrongValue .map "map with a single key")
  | d => refuse d "string or map"

def fitChoice (names : List String) (o : Origin) (d : Draft) : Except Misfit (Fin names.length) :=
  match o with
  | .text _ => fitChoiceInText names o d
  | _ => fitChoiceInMemory names d

/-- The value of what may be left out. -/
def Shape.blank? : (s : Shape) → Option s.Value
  | .optional _ => some none
  | .flag => some false
  | _ => none

/-- The value of a field that a record has not; what is optional may always be missing. -/
def Shape.absent? (presence : Presence) : (s : Shape) → Option s.Value
  | .optional _ => some none
  | s => if presence = .required then none else s.blank?

/-- The value of a field that an array of fields is too short for. -/
def Shape.cutOff? (presence : Presence) (s : Shape) : Option s.Value :=
  if presence = .required then none else s.blank?

/-- Fields of which each has been met or not. -/
def Fields.Slots : Fields → Type
  | .nil => Unit
  | .cons _ _ s rest => Option s.Value × rest.Slots

def Fields.vacant : (fields : Fields) → fields.Slots
  | .nil => ()
  | .cons _ _ _ rest => (none, rest.vacant)

/-- The values of the fields; the first that is missing is reported. -/
def Fields.gather : (fields : Fields) → fields.Slots → Except Misfit fields.Value
  | .nil, _ => .ok ()
  | .cons name presence s rest, (slot, slots) => do
    let v ← match slot <|> s.absent? presence with
      | some v => .ok v
      | none => .error (.missing name)
    let vs ← rest.gather slots
    .ok (v, vs)

mutual
/-- The value of a shape that a draft gives. -/
def Shape.fit : (s : Shape) → Origin → Draft → Except Misfit s.Value
  | .text, _, d => fitText d "a string"
  | .flag, _, d => fitFlag d
  | .whole name low high, _, d => fitWhole name low high d
  | .real, _, d => fitReal d
  | .instant, _, d => fitInstant d
  | .uuid, _, d => fitUuid d
  | .document, o, d => fitDocument o d
  | .choice names, o, d => fitChoice names o d
  | .optional s, o, d =>
    match d with
    | .null => .ok none
    | .broken (some 'n') fault => .error (.flaw fault.kept)
    | d => do
      let v ← s.fit o d
      .ok (some v)
  | .list s, o, d =>
    match d with
    | .array items close => do
      let o ← o.enter
      let vs ← items.mapM (s.fit o)
      ofFlaw (Draft.checkItems close)
      .ok vs
    | d => refuse d "a sequence"
  | .record name fields, o, d =>
    match d with
    | .object members close => do
      let o ← o.enter
      let slots ← members.foldlM (fun slots (key, value) => do
        fields.place o (← ofFlaw key) value slots) fields.vacant
      ofFlaw (Draft.checkMembers close)
      fields.gather slots
    | .keyless => do
      let _ ← o.enter
      .error (.flaw .keyNotString)
    | .array items close => do
      let o ← o.enter
      fields.fitItems o (Misfit.elements name fields.count) items.length close 0 items
    | d => refuse d ("struct " ++ name)
  | .either name first second, o, d => do
    let _ ← ofFlaw (d.toJson o.room)
    match first.fit .aside d with
    | .ok v => .ok (.inl v)
    | .error _ =>
      match second.fit .aside d with
      | .ok v => .ok (.inr v)
      | .error _ => .error (.noAlternative name)

/-- Puts the value of a member in the slot of the field with its key; a field may be met only once,
and a key of no field is passed over. -/
def Fields.place : (fields : Fields) → Origin → String → Draft → fields.Slots →
    Except Misfit fields.Slots
  | .nil, _, _, d, _ => ofFlaw d.skip
  | .cons name _ s rest, o, key, d, (slot, slots) =>
    if key = name then
      match slot with
      | some _ => .error (.duplicate name)
      | none => do
        let v ← s.fit o d
        .ok (some v, slots)
    else do
      let slots ← rest.place o key d slots
      .ok (slot, slots)

/-- The fields in their order from an array. -/
def Fields.fitItems : (fields : Fields) → Origin → String → Nat → ItemsEnd → Nat → List Draft →
    Except Misfit fields.Value
  | .nil, o, _, total, close, _, items =>
    match items with
    | [] => ofFlaw (Draft.checkCount close)
    | _ :: _ => .error (o.surplus total)
  | .cons _ presence s rest, o, wanted, total, close, index, items =>
    match items with
    | [] => do
      ofFlaw (Draft.checkItems close)
      match s.cutOff? presence with
      | some v => do
        let vs ← rest.fitItems o wanted total close (index + 1) []
        .ok (v, vs)
      | none => .error (.wrongLength index wanted)
    | d :: items => do
      let v ← s.fit o d
      let vs ← rest.fitItems o wanted total close (index + 1) items
      .ok (v, vs)
end

/-- Reads a value of a shape from a text that holds nothing else. -/
def Shape.ofText (s : Shape) (text : String) : Except Misfit s.Value := do
  let (d, rest) := Draft.ofText text.toList
  let v ← s.fit (.text Json.roomOfText) d
  ofFlaw (Draft.checkRest rest)
  .ok v

/-- Reads a value of a shape from a JSON value. -/
def Shape.ofJson (s : Shape) (j : Json) : Except Misfit s.Value := s.fit .tree (Draft.ofJson j)

end CensusLink
