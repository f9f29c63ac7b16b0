import CensusLink.Proofs.Json.Spelled

/-!
The limit on texts. A value can be taken from its own draft exactly if there is room for all of its
levels, and what is taken from any draft has no more levels than there is room for. Canonical form
has no more levels and no other numbers than the value itself.
-/
namespace CensusLink

namespace Json

variable {n : Nat}

theorem depthItems_le_iff {items : List Json} :
    depthItems items ≤ n ↔ ∀ j ∈ items, j.depth ≤ n := by
  induction items with
  | nil => simp [depthItems]
  | cons j rest ih => simp only [depthItems, Nat.max_le, ih, List.forall_mem_cons]

theorem depthMembers_le_iff {members : List (String × Json)} :
    depthMembers members ≤ n ↔ ∀ m ∈ members, m.2.depth ≤ n := by
  induction members with
  | nil => simp [depthMembers]
  | cons m rest ih => simp only [depthMembers, Nat.max_le, ih, List.forall_mem_cons]

theorem depth_le_of_mem_items {items : List Json} {j : Json} (h : j ∈ items) :
    j.depth ≤ depthItems items := depthItems_le_iff.1 (Nat.le_refl _) j h

theorem depth_le_of_mem_members {members : List (String × Json)} {m : String × Json}
    (h : m ∈ members) : m.2.depth ≤ depthMembers members :=
  depthMembers_le_iff.1 (Nat.le_refl _) m h

theorem isExactItems_iff {items : List Json} : isExactItems items ↔ ∀ j ∈ items, j.isExact := by
  induction items with
  | nil => simp [isExactItems]
  | cons j rest ih => simp [isExactItems, ih]

theorem isExactMembers_iff {members : List (String × Json)} :
    isExactMembers members ↔ ∀ m ∈ members, m.2.isExact := by
  induction members with
  | nil => simp [isExactMembers]
  | cons m rest ih => simp [isExactMembers, ih]

mutual
theorem depth_canonical_le : ∀ j : Json, j.canonical.depth ≤ j.depth
  | .null => Nat.le_refl _
  | .bool _ => Nat.le_refl _
  | .number _ => Nat.le_refl _
  | .string _ => Nat.le_refl _
  | .array items => Nat.succ_le_succ (depthItems_canonicalItems_le items)
  | .object members => by
    refine Nat.succ_le_succ (depthMembers_le_iff.2 fun m hm => ?_)
    have le := depthMembers_le_iff.1 (depthMembers_canonicalMembers_le members)
    exact le m (Keyed.mem_of_mem_sort hm)

theorem depthItems_canonicalItems_le : ∀ items, depthItems (canonicalItems items) ≤ depthItems items
  | [] => Nat.le_refl _
  | j :: rest => by
    have head := depth_canonical_le j
    have tail := depthItems_canonicalItems_le rest
    simp only [canonicalItems, depthItems]
    exact Nat.max_le.2 ⟨Nat.le_trans head (Nat.le_max_left _ _),
      Nat.le_trans tail (Nat.le_max_right _ _)⟩

theorem depthMembers_canonicalMembers_le :
    ∀ members, depthMembers (canonicalMembers members) ≤ depthMembers members
  | [] => Nat.le_refl _
  | (_, j) :: rest => by
    have head := depth_canonical_le j
    have tail := depthMembers_canonicalMembers_le rest
    simp only [canonicalMembers, depthMembers]
    exact Nat.max_le.2 ⟨Nat.le_trans head (Nat.le_max_left _ _),
      Nat.le_trans tail (Nat.le_max_right _ _)⟩
end

mutual
theorem isExact_canonical : ∀ {j : Json}, j.isExact → j.canonical.isExact
  | .null, _ => rfl
  | .bool _, _ => rfl
  | .number _, h => h
  | .string _, _ => rfl
  | .array _, h => isExactItems_canonicalItems h
  | .object _, h => isExactMembers_iff.2 fun m hm =>
    isExactMembers_iff.1 (isExactMembers_canonicalMembers h) m (Keyed.mem_of_mem_sort hm)

theorem isExactItems_canonicalItems : ∀ {items : List Json}, isExactItems items →
    isExactItems (canonicalItems items)
  | [], _ => rfl
  | _ :: _, h => by
    obtain ⟨head, tail⟩ := Bool.and_eq_true_iff.1 h
    exact Bool.and_eq_true_iff.2 ⟨isExact_canonical head, isExactItems_canonicalItems tail⟩

theorem isExactMembers_canonicalMembers : ∀ {members : List (String × Json)},
    isExactMembers members → isExactMembers (canonicalMembers members)
  | [], _ => rfl
  | (_, _) :: _, h => by
    obtain ⟨head, tail⟩ := Bool.and_eq_true_iff.1 h
    exact Bool.and_eq_true_iff.2 ⟨isExact_canonical head, isExactMembers_canonicalMembers tail⟩
end

end Json

namespace Draft

open Json

theorem enter_some {room : Nat} : enter (some (room + 1)) =
    if room = 0 then .error .tooDeep else .ok (some room) := by
  simp [enter]

mutual
/-- A value is taken from its draft if there is room for all of its levels, and only then. -/
theorem toJson_ofJson_within : ∀ (j : Json) (room : Nat), toJson (some (room + 1)) (ofJson j) =
    if j.depth ≤ room then .ok j else .error .tooDeep
  | .null, _ => rfl
  | .bool _, _ => rfl
  | .number _, _ => rfl
  | .string _, _ => rfl
  | .array items, 0 => rfl
  | .object members, 0 => rfl
  | .array items, room + 1 => by
    have inner := toItems_ofItems_within items room
    simp only [ofJson, toJson, enter_some, inner, depth, Nat.add_one_ne_zero, if_false,
      Nat.add_le_add_iff_right, bind, Except.bind, checkItems]
    by_cases within : depthItems items ≤ room <;> simp [within]
  | .object members, room + 1 => by
    have inner := toMembers_ofMembers_within members room
    simp only [ofJson, toJson, enter_some, inner, depth, Nat.add_one_ne_zero, if_false,
      Nat.add_le_add_iff_right, bind, Except.bind, checkMembers]
    by_cases within : depthMembers members ≤ room <;> simp [within]

theorem toItems_ofItems_within : ∀ (items : List Json) (room : Nat),
    toItems (some (room + 1)) (ofItems items) =
      if depthItems items ≤ room then .ok items else .error .tooDeep
  | [], _ => by simp [ofItems, toItems, depthItems]
  | j :: rest, room => by
    simp only [ofItems, toItems, toJson_ofJson_within j room, toItems_ofItems_within rest room,
      depthItems, Nat.max_le, bind, Except.bind]
    by_cases head : j.depth ≤ room <;> by_cases tail : depthItems rest ≤ room <;>
      simp [head, tail]

theorem toMembers_ofMembers_within : ∀ (members : List (String × Json)) (room : Nat),
    toMembers (some (room + 1)) (ofMembers members) =
      if depthMembers members ≤ room then .ok members else .error .tooDeep
  | [], _ => by simp [ofMembers, toMembers, depthMembers]
  | (k, j) :: rest, room => by
    simp only [ofMembers, toMembers, toJson_ofJson_within j room,
      toMembers_ofMembers_within rest room, depthMembers, Nat.max_le, bind, Except.bind]
    by_cases head : j.depth ≤ room <;> by_cases tail : depthMembers rest ≤ room <;>
      simp [head, tail]
end

mutual
/-- What is taken from a draft has no more levels than there is room for. -/
theorem depth_le_of_toJson : ∀ {d : Draft} {room : Nat} {j : Json},
    toJson (some (room + 1)) d = .ok j → j.depth ≤ room
  | .null, _, _, h => by
    cases h
    exact Nat.zero_le _
  | .bool _, _, _, h => by
    cases h
    exact Nat.zero_le _
  | .number (.ok _), _, _, h => by
    cases h
    exact Nat.zero_le _
  | .string (.ok _), _, _, h => by
    cases h
    exact Nat.zero_le _
  | .array _ _, 0, _, h => nomatch h
  | .array items close, room + 1, j, h => by
    obtain ⟨_, entered, h⟩ := bind_eq_ok_iff.1 h
    obtain rfl : some (room + 1) = _ := Except.ok.inj entered
    obtain ⟨taken, eq, h⟩ := bind_eq_ok_iff.1 h
    obtain ⟨_, _, h⟩ := bind_eq_ok_iff.1 h
    cases h
    exact Nat.succ_le_succ (depthItems_le_of_toItems eq)
  | .object _ _, 0, _, h => nomatch h
  | .object members close, room + 1, j, h => by
    obtain ⟨_, entered, h⟩ := bind_eq_ok_iff.1 h
    obtain rfl : some (room + 1) = _ := Except.ok.inj entered
    obtain ⟨taken, eq, h⟩ := bind_eq_ok_iff.1 h
    obtain ⟨_, _, h⟩ := bind_eq_ok_iff.1 h
    cases h
    exact Nat.succ_le_succ (depthMembers_le_of_toMembers eq)
  | .keyless, 0, _, h => nomatch h
  | .keyless, _ + 1, _, h => nomatch h

theorem depthItems_le_of_toItems : ∀ {ds : List Draft} {room : Nat} {items : List Json},
    toItems (some (room + 1)) ds = .ok items → depthItems items ≤ room
  | [], _, _, h => by
    cases h
    exact Nat.zero_le _
  | d :: ds, room, items, h => by
    obtain ⟨j, head, h⟩ := bind_eq_ok_iff.1 h
    obtain ⟨rest, tail, h⟩ := bind_eq_ok_iff.1 h
    cases h
    exact Nat.max_le.2 ⟨depth_le_of_toJson head, depthItems_le_of_toItems tail⟩

theorem depthMembers_le_of_toMembers : ∀ {ds : List (Except Flaw String × Draft)} {room : Nat}
    {members : List (String × Json)}, toMembers (some (room + 1)) ds = .ok members →
      depthMembers members ≤ room
  | [], _, _, h => by
    cases h
    exact Nat.zero_le _
  | (key, d) :: ds, room, members, h => by
    obtain ⟨k, _, h⟩ := bind_eq_ok_iff.1 h
    obtain ⟨j, head, h⟩ := bind_eq_ok_iff.1 h
    obtain ⟨rest, tail, h⟩ := bind_eq_ok_iff.1 h
    cases h
    exact Nat.max_le.2 ⟨depth_le_of_toJson head, depthMembers_le_of_toMembers tail⟩
end

end Draft
end CensusLink
