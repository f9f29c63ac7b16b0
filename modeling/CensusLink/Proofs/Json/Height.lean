import CensusLink.Json.Wire
import CensusLink.Proofs.Json.Depth

/-!
Shapes of bounded height. Where a shape leaves no room for other documents and for binary numbers,
whatever is written in it has whole numbers only, and no more levels than the shape itself.
-/
namespace CensusLink

mutual
/-- No value of the shape has a document or a binary number in it. -/
def Shape.isPlain : Shape → Bool
  | .real => false
  | .document => false
  | .whole _ low high => decide (-9223372036854775808 ≤ low ∧ high < 18446744073709551616)
  | .optional s => s.isPlain
  | .list s => s.isPlain
  | .record _ fields => fields.isPlain
  | .either _ first second => first.isPlain && second.isPlain
  | _ => true

def Fields.isPlain : Fields → Bool
  | .nil => true
  | .cons _ _ s rest => s.isPlain && rest.isPlain
end

mutual
/-- The levels that a plain value of the shape has at most. -/
def Shape.height : Shape → Nat
  | .optional s => s.height
  | .list s => s.height + 1
  | .record _ fields => fields.height + 1
  | .either _ first second => Nat.max first.height second.height
  | _ => 0

def Fields.height : Fields → Nat
  | .nil => 0
  | .cons _ _ s rest => Nat.max s.height rest.height
end

open Json

theorem isExact_whole {low high : Int}
    (bounds : -9223372036854775808 ≤ low ∧ high < 18446744073709551616)
    (v : { n : Int // low ≤ n ∧ n ≤ high }) : (Json.number (.ofInt v.val)).isExact := by
  have fits : -9223372036854775808 ≤ v.val ∧ v.val < 18446744073709551616 :=
    ⟨Int.le_trans bounds.1 v.2.1, Int.lt_of_le_of_lt v.2.2 bounds.2⟩
  rw [Number.ofInt, dif_pos fits]
  rfl

mutual
theorem Shape.write_of_isPlain : ∀ (s : Shape), s.isPlain → ∀ v : s.Value,
    (s.write v).isExact ∧ (s.write v).depth ≤ s.height
  | .text, _, _ => ⟨rfl, Nat.zero_le _⟩
  | .flag, _, _ => ⟨rfl, Nat.zero_le _⟩
  | .whole _ _ _, plain, v => ⟨isExact_whole (of_decide_eq_true plain) v, Nat.zero_le _⟩
  | .instant, _, _ => ⟨rfl, Nat.zero_le _⟩
  | .uuid, _, _ => ⟨rfl, Nat.zero_le _⟩
  | .choice _, _, _ => ⟨rfl, Nat.zero_le _⟩
  | .optional _, _, none => ⟨rfl, Nat.zero_le _⟩
  | .optional s, plain, some v => s.write_of_isPlain plain v
  | .list s, plain, vs => by
    constructor
    · refine isExactItems_iff.2 fun j hj => ?_
      obtain ⟨v, _, rfl⟩ := List.mem_map.1 hj
      exact (s.write_of_isPlain plain v).1
    · refine Nat.succ_le_succ (depthItems_le_iff.2 fun j hj => ?_)
      obtain ⟨v, _, rfl⟩ := List.mem_map.1 hj
      exact (s.write_of_isPlain plain v).2
  | .record _ fields, plain, v => by
    have all := fields.write_of_isPlain plain v
    exact ⟨isExactMembers_iff.2 fun m hm => (all m hm).1,
      Nat.succ_le_succ (depthMembers_le_iff.2 fun m hm => (all m hm).2)⟩
  | .either _ first second, plain, .inl v => by
    obtain ⟨exact, le⟩ := first.write_of_isPlain (Bool.and_eq_true_iff.1 plain).1 v
    exact ⟨exact, Nat.le_trans le (Nat.le_max_left _ _)⟩
  | .either _ first second, plain, .inr v => by
    obtain ⟨exact, le⟩ := second.write_of_isPlain (Bool.and_eq_true_iff.1 plain).2 v
    exact ⟨exact, Nat.le_trans le (Nat.le_max_right _ _)⟩

theorem Fields.write_of_isPlain : ∀ (fields : Fields), fields.isPlain → ∀ v : fields.Value,
    ∀ m ∈ fields.write v, m.2.isExact ∧ m.2.depth ≤ fields.height
  | .nil, _, _, _, hm => nomatch hm
  | .cons name presence s rest, plain, (v, vs), m, hm => by
    obtain ⟨here, later⟩ := Bool.and_eq_true_iff.1 plain
    have among (h : m ∈ rest.write vs) : m.2.isExact ∧
        m.2.depth ≤ (Fields.cons name presence s rest).height := by
      obtain ⟨exact, le⟩ := rest.write_of_isPlain later vs m h
      exact ⟨exact, Nat.le_trans le (Nat.le_max_right _ _)⟩
    rw [Fields.write] at hm
    split at hm
    · exact among hm
    · rcases List.mem_cons.1 hm with rfl | hm
      · obtain ⟨exact, le⟩ := s.write_of_isPlain here v
        exact ⟨exact, Nat.le_trans le (Nat.le_max_left _ _)⟩
      · exact among hm
end

namespace Wire

variable {α : Type} [Packed α]

/-- The document of a value has whole numbers only and at most the levels of its shape. -/
theorem toDocument_of_isPlain (plain : (shape α).isPlain) (a : α) :
    (toDocument a).json.isExact ∧ (toDocument a).json.depth ≤ (shape α).height := by
  obtain ⟨exact, le⟩ := (shape α).write_of_isPlain plain (pack a)
  exact ⟨isExact_canonical exact, Nat.le_trans (depth_canonical_le _) le⟩

end Wire
end CensusLink
