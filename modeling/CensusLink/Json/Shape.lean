import CensusLink.Instant.Printer
import CensusLink.Json.Printer
import CensusLink.Uuid

/-!
Shapes of JSON values, and the values that have a shape. A record writes its fields in the order in
which they are declared.
-/
namespace CensusLink

/-- Whether a field may be left out: never, when read, or also when written without a value. -/
inductive Presence
  | required
  | defaulted
  | omittable
  deriving DecidableEq, Repr

mutual
inductive Shape
  | text
  | flag
  | whole (name : String) (low high : Int)
  | real
  | instant
  | uuid
  | document
  | choice (names : List String)
  | optional (s : Shape)
  | list (s : Shape)
  | record (name : String) (fields : Fields)
  | either (name : String) (first second : Shape)

inductive Fields
  | nil
  | cons (name : String) (presence : Presence) (shape : Shape) (rest : Fields)
end

mutual
def Shape.Value : Shape → Type
  | .text => String
  | .flag => Bool
  | .whole _ low high => { n : Int // low ≤ n ∧ n ≤ high }
  | .real => Binary64
  | .instant => Instant
  | .uuid => Uuid
  | .document => Document
  | .choice names => Fin names.length
  | .optional s => Option s.Value
  | .list s => List s.Value
  | .record _ fields => fields.Value
  | .either _ first second => first.Value ⊕ second.Value

def Fields.Value : Fields → Type
  | .nil => Unit
  | .cons _ _ s rest => s.Value × rest.Value
end

/-- The number of fields. -/
def Fields.count : Fields → Nat
  | .nil => 0
  | .cons _ _ _ rest => rest.count + 1

/-- A whole number of 64 bits, or the binary number nearest to a larger one. -/
def Number.ofInt (n : Int) : Number :=
  if h : -9223372036854775808 ≤ n ∧ n < 18446744073709551616 then .whole n h else .real (.ofInt n)

/-- Nothing is there to be written. -/
def Shape.isVoid : (s : Shape) → s.Value → Bool
  | .optional _, none => true
  | _, _ => false

mutual
def Shape.write : (s : Shape) → s.Value → Json
  | .text, v => .string v
  | .flag, v => .bool v
  | .whole _ _ _, v => .number (.ofInt v.val)
  | .real, v => .number (.real v)
  | .instant, v => .string (Instant.text v)
  | .uuid, v => .string (Uuid.text v)
  | .document, v => Document.json v
  | .choice names, v => .string (names.get v)
  | .optional _, none => .null
  | .optional s, some v => s.write v
  | .list s, vs => .array (List.map s.write vs)
  | .record _ fields, v => .object (fields.write v)
  | .either _ first _, .inl v => first.write v
  | .either _ _ second, .inr v => second.write v

def Fields.write : (fields : Fields) → fields.Value → List (String × Json)
  | .nil, _ => []
  | .cons name presence s rest, (v, vs) =>
    if presence = .omittable && s.isVoid v then rest.write vs
    else (name, s.write v) :: rest.write vs
end

end CensusLink
