import CensusLink.Proofs.Store.OneMap
import CensusLink.Proofs.Text.Lowercase

/-!
Which names a group of schemas can have. A store takes a name in a group exactly if the group and
the name are spelled with letters, digits, underscores and hyphens, where a letter may be of either
case and the Kelvin sign is a k. Two names in one group are the same exactly if they are so in small
letters: the hyphen behind the group keeps the one from having a part in the other.
-/
namespace CensusLink
namespace Schema
open Text

/-- What comes to be a character of a name when it is put into small letters. -/
def Spells (c : Char) : Prop :=
  ('a' ≤ c ∧ c ≤ 'z') ∨ ('A' ≤ c ∧ c ≤ 'Z') ∨ ('0' ≤ c ∧ c ≤ '9') ∨ c = '_' ∨ c = '-' ∨
    c = '\u212A'

instance : DecidablePred Spells := fun c =>
  inferInstanceAs (Decidable (('a' ≤ c ∧ c ≤ 'z') ∨ ('A' ≤ c ∧ c ≤ 'Z') ∨ ('0' ≤ c ∧ c ≤ '9') ∨
    c = '_' ∨ c = '-' ∨ c = '\u212A'))

variable {c : Char} {before rest cs : List Char} {group name other : String}

theorem isNameChar_eq_true_iff : isNameChar c = true ↔
    ('a' ≤ c ∧ c ≤ 'z') ∨ ('0' ≤ c ∧ c ≤ '9') ∨ c = '_' ∨ c = '-' := by
  simp [isNameChar, or_assoc]

theorem near_of_isNameChar (named : isNameChar c = true) : c.toNat < 128 := by
  rcases isNameChar_eq_true_iff.1 named with ⟨-, le⟩ | ⟨-, le⟩ | rfl | rfl
  · exact Nat.lt_of_le_of_lt (UInt32.le_iff_toNat_le.1 le) (by decide)
  · exact Nat.lt_of_le_of_lt (UInt32.le_iff_toNat_le.1 le) (by decide)
  · decide
  · decide

theorem near_of_spells (spells : Spells c) : c.toNat < 128 ∨ c.toNat = 0x212A := by
  rcases spells with ⟨-, le⟩ | ⟨-, le⟩ | ⟨-, le⟩ | rfl | rfl | rfl
  · exact .inl (Nat.lt_of_le_of_lt (UInt32.le_iff_toNat_le.1 le) (by decide))
  · exact .inl (Nat.lt_of_le_of_lt (UInt32.le_iff_toNat_le.1 le) (by decide))
  · exact .inl (Nat.lt_of_le_of_lt (UInt32.le_iff_toNat_le.1 le) (by decide))
  · exact .inl (by decide)
  · exact .inl (by decide)
  · exact .inr rfl

/-- Of the first 128 characters those are characters of a name in small letters that spell one. -/
theorem isNameChar_toLower_iff (near : c.toNat < 128) :
    isNameChar c.toLower = true ↔ Spells c := by
  have all : ∀ n : Fin 128, isNameChar (Char.ofNat n.val).toLower = true ↔
      Spells (Char.ofNat n.val) := by
    decide +kernel
  have here := all ⟨c.toNat, near⟩
  rwa [Char.ofNat_toNat] at here

/-- Of the others only the Kelvin sign is. -/
theorem isNameChar_lowerChar_iff (far : 128 ≤ c.toNat) :
    isNameChar (lowerChar c) = true ↔ Spells c := by
  by_cases kelvin : c.toNat = 0x212A
  · obtain rfl : c = '\u212A' := Char.toNat_inj.1 kelvin
    decide +kernel
  · have foreign : ¬ Spells c := fun spells => by
      rcases near_of_spells spells with near | same
      · omega
      · exact kelvin same
    refine ⟨fun named => ?_, fun spells => absurd spells foreign⟩
    rcases lowerChar_beyond far kelvin with beyond | null
    · exact absurd (near_of_isNameChar named) (Nat.not_lt.2 beyond)
    · rw [null] at named
      exact absurd named (by decide)

/-- A character comes to be characters of a name exactly if it spells one. -/
theorem forall_lowered_iff (before : List Char) (c : Char) (rest : List Char) :
    (∀ d ∈ lowered before c rest, isNameChar d = true) ↔ Spells c := by
  rw [lowered]
  split
  next sigma =>
    obtain rfl := eq_of_beq sigma
    have foreign : ¬ Spells 'Σ' := by decide
    refine ⟨fun named => ?_, fun spells => absurd spells foreign⟩
    have here := named _ (List.mem_singleton_self _)
    split at here
    · exact absurd here (by decide)
    · exact absurd here (by decide)
  next =>
    split
    next dotted =>
      obtain rfl := eq_of_beq dotted
      have foreign : ¬ Spells 'İ' := by decide
      have dot : isNameChar '\u0307' = false := by decide
      refine ⟨fun named => ?_, fun spells => absurd spells foreign⟩
      have here := named '\u0307' (List.mem_cons_of_mem _ (List.mem_singleton_self _))
      exact absurd (dot.symm.trans here) (by decide)
    next =>
      split
      next near =>
        rw [List.forall_mem_singleton]
        exact isNameChar_toLower_iff near
      next far =>
        rw [List.forall_mem_singleton]
        exact isNameChar_lowerChar_iff (Nat.not_lt.1 far)

theorem forall_lowerFrom_iff (before cs : List Char) :
    (∀ d ∈ lowerFrom before cs, isNameChar d = true) ↔ ∀ c ∈ cs, Spells c := by
  induction cs generalizing before with
  | nil => exact ⟨fun _ => List.forall_mem_nil _, fun _ => List.forall_mem_nil _⟩
  | cons c rest ih =>
    rw [lowerFrom_cons, List.forall_mem_append, forall_lowered_iff, ih, List.forall_mem_cons]

/-- A text in small letters is a name that a store accepts exactly if it is spelled as one. -/
theorem valid_lowercase_iff {s : String} :
    Valid (lowercase s) ↔ s ≠ "" ∧ ∀ c ∈ s.toList, Spells c := by
  have chars := forall_lowerFrom_iff [] s.toList
  simp only [isNameChar_eq_true_iff] at chars
  rw [Valid, Ne, lowercase_eq_empty_iff, ← chars, lowercase, String.toList_ofList]

/-- A name in a group is one that a store accepts exactly if both are spelled as one. -/
theorem valid_nameIn_iff : Valid (nameIn group name) ↔
    (group ≠ "" ∨ name ≠ "") ∧ ∀ c ∈ group.toList ++ name.toList, Spells c := by
  rw [nameIn, valid_lowercase_iff]
  split
  next none =>
    subst none
    simp
  next some =>
    have hyphen : Spells '-' := by decide
    have long : group ++ "-" ++ name ≠ "" := fun empty => by
      have none := congrArg String.toList empty
      simp at none
    have chars : (group ++ "-" ++ name).toList = group.toList ++ '-' :: name.toList := by
      simp
    rw [chars, List.forall_mem_append, List.forall_mem_append, List.forall_mem_cons]
    exact ⟨fun h => ⟨.inl some, h.2.1, h.2.2.2⟩, fun h => ⟨long, h.2.1, hyphen, h.2.2⟩⟩

/-- Names in one group are the same exactly if they are so in small letters. -/
theorem nameIn_eq_iff : nameIn group name = nameIn group other ↔
    lowercase name = lowercase other := by
  rw [nameIn, nameIn]
  split
  · rfl
  · rw [lowercase_hyphen, lowercase_hyphen]
    refine ⟨fun same => ?_, fun same => by rw [same]⟩
    have chars := congrArg String.toList same
    simp only [String.toList_append] at chars
    exact String.toList_inj.1 (List.append_cancel_left chars)

end Schema
end CensusLink
