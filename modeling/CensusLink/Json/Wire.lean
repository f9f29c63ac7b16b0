import CensusLink.Instant.Moment
import CensusLink.Json.Fit

/-!
Types that are kept and sent as JSON values: each has a shape, and a value of the shape for each of
its own. A value is written as its packed form, and what fits the shape is unpacked. That gives the
value back unless it is, or has in it, a moment which is written as another.
-/
namespace CensusLink

class Packed (α : Type) where
  shape : Shape
  pack : α → shape.Value
  unpack : shape.Value → α

/-- A type whose values are unpacked as they were packed. -/
class Wire (α : Type) extends Packed α where
  unpack_pack : ∀ a, unpack (pack a) = a

namespace Wire

export Packed (shape pack unpack)

variable {α : Type} [Packed α]

/-- The JSON value of `a`, its members in declared order. -/
def toJson (a : α) : Json := (shape α).write (pack a)

def toDocument (a : α) : Document := .ofJson (toJson a)

def text (a : α) : String := (toJson a).compact

def prettyText (a : α) : String := (toJson a).pretty

def ofJson (j : Json) : Except Misfit α := do
  let v ← (shape α).ofJson j
  .ok (unpack v)

def ofDocument (d : Document) : Except Misfit α := ofJson d.json

def ofText (s : String) : Except Misfit α := do
  let v ← (shape α).ofText s
  .ok (unpack v)

end Wire

/-- A type of few values, each with a name. -/
class Named (α : Type) where
  all : List α
  name : α → String
  place : α → Fin all.length
  get_place : ∀ a, all.get (place a) = a
  distinct : (all.map name).Nodup

namespace Named

instance (α : Type) [Named α] : Wire α where
  shape := .choice ((all (α := α)).map name)
  pack a := (place a).cast (List.length_map _).symm
  unpack i := (all (α := α)).get (i.cast (List.length_map _))
  unpack_pack := get_place

end Named

instance : Wire String where
  shape := .text
  pack s := s
  unpack s := s
  unpack_pack _ := rfl

instance : Wire Bool where
  shape := .flag
  pack b := b
  unpack b := b
  unpack_pack _ := rfl

instance : Wire Int32 where
  shape := .whole "i32" (-2147483648) 2147483647
  pack n := ⟨n.toInt, n.le_toInt, Int.le_sub_one_of_lt n.toInt_lt⟩
  unpack n := .ofInt n.val
  unpack_pack n := Int32.ofInt_toInt n

instance : Wire UInt64 where
  shape := .whole "u64" 0 18446744073709551615
  pack n := ⟨n.toNat, Int.natCast_nonneg _, by have := n.toNat_lt; omega⟩
  unpack n := .ofNat n.val.toNat
  unpack_pack n := by simp

instance : Wire UInt32 where
  shape := .whole "u32" 0 4294967295
  pack n := ⟨n.toNat, Int.natCast_nonneg _, by have := n.toNat_lt; omega⟩
  unpack n := .ofNat n.val.toNat
  unpack_pack n := by simp

instance : Wire Binary64 where
  shape := .real
  pack x := x
  unpack x := x
  unpack_pack _ := rfl

instance : Wire Instant where
  shape := .instant
  pack t := t
  unpack t := t
  unpack_pack _ := rfl

instance : Wire Uuid where
  shape := .uuid
  pack u := u
  unpack u := u
  unpack_pack _ := rfl

instance : Wire Document where
  shape := .document
  pack d := d
  unpack d := d
  unpack_pack _ := rfl

/-- A moment is packed as the instant that its text tells. -/
instance : Packed Moment where
  shape := .instant
  pack t := t.told
  unpack t := t.moment

section Containers

variable {α : Type}

instance [Packed α] : Packed (Option α) where
  shape := .optional (Wire.shape α)
  pack a := a.map Wire.pack
  unpack v := v.map Wire.unpack

instance [Wire α] : Wire (Option α) where
  unpack_pack
    | none => rfl
    | some a => congrArg some (Wire.unpack_pack a)

instance [Packed α] : Packed (List α) where
  shape := .list (Wire.shape α)
  pack a := a.map Wire.pack
  unpack v := v.map Wire.unpack

instance [Wire α] : Wire (List α) where
  unpack_pack a := by
    induction a with
    | nil => rfl
    | cons a rest ih => exact congr (congrArg List.cons (Wire.unpack_pack a)) ih

end Containers

end CensusLink
