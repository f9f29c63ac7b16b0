import CensusLink.Binary64.Decimal
import CensusLink.Keyed

/-!
JSON values. An object is a list of members in some order; in a canonical value every object has its
keys in strictly increasing order, and `Json.canonical` brings a value into that form, the last of
several members with one key winning.
-/
namespace CensusLink

/-- A whole number of at most 64 bits, with a sign when negative, or a binary number. -/
inductive Number
  | whole (n : Int) (fits : -9223372036854775808 ≤ n ∧ n < 18446744073709551616)
  | real (x : Binary64)
  deriving DecidableEq, Repr

inductive Json
  | null
  | bool (b : Bool)
  | number (n : Number)
  | string (s : String)
  | array (items : List Json)
  | object (members : List (String × Json))

namespace Json

/-- The value under a key of an object; nothing else has members. -/
def get? (key : String) : Json → Option Json
  | .object members => members.lookup key
  | _ => none

mutual
def canonical : Json → Json
  | .null => .null
  | .bool b => .bool b
  | .number n => .number n
  | .string s => .string s
  | .array items => .array (canonicalItems items)
  | .object members => .object (Keyed.sort (canonicalMembers members))

def canonicalItems : List Json → List Json
  | [] => []
  | j :: rest => canonical j :: canonicalItems rest

def canonicalMembers : List (String × Json) → List (String × Json)
  | [] => []
  | (k, j) :: rest => (k, canonical j) :: canonicalMembers rest
end

mutual
/-- Every object in the value has its keys in strictly increasing order. -/
def Canonical : Json → Prop
  | .null => True
  | .bool _ => True
  | .number _ => True
  | .string _ => True
  | .array items => CanonicalItems items
  | .object members => Keyed.Sorted members ∧ CanonicalMembers members

def CanonicalItems : List Json → Prop
  | [] => True
  | j :: rest => Canonical j ∧ CanonicalItems rest

def CanonicalMembers : List (String × Json) → Prop
  | [] => True
  | (_, j) :: rest => Canonical j ∧ CanonicalMembers rest
end

mutual
/-- How many arrays and objects lie one inside the other. -/
def depth : Json → Nat
  | .array items => depthItems items + 1
  | .object members => depthMembers members + 1
  | _ => 0

def depthItems : List Json → Nat
  | [] => 0
  | j :: rest => Nat.max (depth j) (depthItems rest)

def depthMembers : List (String × Json) → Nat
  | [] => 0
  | (_, j) :: rest => Nat.max (depth j) (depthMembers rest)
end

theorem canonicalMembers_iff {members : List (String × Json)} :
    CanonicalMembers members ↔ ∀ m ∈ members, Canonical m.2 := by
  induction members with
  | nil => simp [CanonicalMembers]
  | cons m rest ih => simp [CanonicalMembers, ih]

theorem canonicalMembers_sort {members : List (String × Json)} (h : CanonicalMembers members) :
    CanonicalMembers (Keyed.sort members) := by
  suffices ∀ sorted, CanonicalMembers sorted →
      CanonicalMembers (members.foldl (fun s m => Keyed.insert m.1 m.2 s) sorted) from
    this [] (by simp [CanonicalMembers])
  induction members with
  | nil => exact fun _ hs => hs
  | cons m rest ih =>
    simp only [CanonicalMembers] at h
    refine fun sorted hs => ih h.2 _ (canonicalMembers_iff.2 ?_)
    exact Keyed.forall_insert h.1 (canonicalMembers_iff.1 hs)

mutual
theorem canonical_canonical : ∀ j : Json, Canonical (canonical j)
  | .null => trivial
  | .bool _ => trivial
  | .number _ => trivial
  | .string _ => trivial
  | .array items => canonicalItems_canonical items
  | .object members =>
    ⟨Keyed.sorted_sort _, canonicalMembers_sort (canonicalMembers_canonical members)⟩

theorem canonicalItems_canonical : ∀ items, CanonicalItems (canonicalItems items)
  | [] => trivial
  | j :: rest => ⟨canonical_canonical j, canonicalItems_canonical rest⟩

theorem canonicalMembers_canonical : ∀ members, CanonicalMembers (canonicalMembers members)
  | [] => trivial
  | (_, j) :: rest => ⟨canonical_canonical j, canonicalMembers_canonical rest⟩
end

end Json

/-- A canonical JSON value: what a store keeps. -/
structure Document where
  json : Json
  canonical : json.Canonical

namespace Document

def ofJson (j : Json) : Document := ⟨j.canonical, j.canonical_canonical⟩

@[ext]
theorem ext {a b : Document} (h : a.json = b.json) : a = b := by
  cases a
  cases b
  simp_all

end Document
end CensusLink
