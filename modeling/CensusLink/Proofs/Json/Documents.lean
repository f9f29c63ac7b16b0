import CensusLink.Json.Draft

/-!
Canonical values and the drafts of values. Bringing a canonical value into canonical form changes
nothing, a key finds in the canonical form of an object what it finds in the object, and the draft
of a value has no fault and is that value.
-/
namespace CensusLink

theorem bind_eq_ok_iff {ε α β : Type} {x : Except ε α} {f : α → Except ε β} {b : β} :
    (x >>= f) = .ok b ↔ ∃ a, x = .ok a ∧ f a = .ok b := by
  cases x with
  | error e => exact ⟨fun h => (nomatch h), fun ⟨_, h, _⟩ => nomatch h⟩
  | ok a => exact ⟨fun h => ⟨a, rfl, h⟩, fun ⟨_, h, h'⟩ => Except.ok.inj h ▸ h'⟩

theorem forall_of_mapM_eq_ok {ε α β : Type} {f : α → Except ε β} {as : List α} {bs : List β}
    (h : as.mapM f = .ok bs) : ∀ a ∈ as, ∃ b, f a = .ok b := by
  induction as generalizing bs with
  | nil => exact fun _ => nofun
  | cons a rest ih =>
    rw [List.mapM_cons] at h
    obtain ⟨b, here, h⟩ := bind_eq_ok_iff.1 h
    obtain ⟨bs, later, _⟩ := bind_eq_ok_iff.1 h
    exact List.forall_mem_cons.2 ⟨⟨b, here⟩, ih later⟩

theorem exists_of_mapM_eq_error {ε α β : Type} {f : α → Except ε β} {as : List α} {e : ε}
    (h : as.mapM f = .error e) : ∃ a ∈ as, f a = .error e := by
  induction as with
  | nil => cases h
  | cons a rest ih =>
    rw [List.mapM_cons] at h
    cases here : f a with
    | error e' =>
      rw [here] at h
      cases h
      exact ⟨a, List.mem_cons_self, here⟩
    | ok b =>
      cases later : rest.mapM f with
      | error e' =>
        rw [here, later] at h
        cases h
        obtain ⟨a', member, failed⟩ := ih later
        exact ⟨a', List.mem_cons_of_mem a member, failed⟩
      | ok bs =>
        rw [here, later] at h
        cases h

namespace Json

theorem canonicalItems_eq_map (items : List Json) : canonicalItems items = items.map canonical := by
  induction items with
  | nil => rfl
  | cons j rest ih => simp [canonicalItems, ih]

theorem canonicalMembers_eq_map (members : List (String × Json)) :
    canonicalMembers members = members.map fun m => (m.1, m.2.canonical) := by
  induction members with
  | nil => rfl
  | cons m rest ih => simp [canonicalMembers, ih]

theorem keys_canonicalMembers (members : List (String × Json)) :
    (canonicalMembers members).map (·.1) = members.map (·.1) := by
  simp [canonicalMembers_eq_map, Function.comp_def]

theorem lookup_canonicalMembers (members : List (String × Json)) (key : String) :
    (canonicalMembers members).lookup key = (members.lookup key).map canonical := by
  induction members with
  | nil => rfl
  | cons m rest ih =>
    obtain ⟨k, j⟩ := m
    by_cases same : key = k
    · subst same
      simp [canonicalMembers]
    · rw [canonicalMembers, Keyed.lookup_cons_of_ne same, Keyed.lookup_cons_of_ne same, ih]

/-- In canonical form a key finds the canonical form of what it found. -/
theorem lookup_sort_canonicalMembers {members : List (String × Json)}
    (h : (members.map (·.1)).Nodup) (key : String) :
    (Keyed.sort (canonicalMembers members)).lookup key = (members.lookup key).map canonical := by
  rw [Keyed.lookup_sort (by rwa [keys_canonicalMembers]), lookup_canonicalMembers]

theorem get?_canonical_object {members : List (String × Json)}
    (h : (members.map (·.1)).Nodup) (key : String) :
    (canonical (.object members)).get? key = (members.lookup key).map canonical :=
  lookup_sort_canonicalMembers h key

mutual
theorem canonical_eq_self : ∀ j : Json, Canonical j → canonical j = j
  | .null, _ => rfl
  | .bool _, _ => rfl
  | .number _, _ => rfl
  | .string _, _ => rfl
  | .array items, h => by rw [canonical, canonicalItems_eq_self items h]
  | .object members, h => by
    rw [canonical, canonicalMembers_eq_self members h.2, Keyed.sort_eq_self h.1]

theorem canonicalItems_eq_self : ∀ items, CanonicalItems items → canonicalItems items = items
  | [], _ => rfl
  | j :: rest, h => by
    rw [canonicalItems, canonical_eq_self j h.1, canonicalItems_eq_self rest h.2]

theorem canonicalMembers_eq_self :
    ∀ members, CanonicalMembers members → canonicalMembers members = members
  | [], _ => rfl
  | (_, j) :: rest, h => by
    rw [canonicalMembers, canonical_eq_self j h.1, canonicalMembers_eq_self rest h.2]
end

/-- Values rewritten with their members in another order: where the keys differ, each finds what it
found, rewritten. Everything else is left as it is, and so is a canonical value. -/
structure Rearranges (form : Json → Json) : Prop where
  null : form .null = .null
  bool : ∀ b, form (.bool b) = .bool b
  number : ∀ n, form (.number n) = .number n
  string : ∀ s, form (.string s) = .string s
  array : ∀ items, form (.array items) = .array (items.map form)
  object : ∀ members, ∃ others, form (.object members) = .object others ∧
    ((members.map (·.1)).Nodup → (others.map (·.1)).Nodup ∧
      ∀ key, others.lookup key = (members.lookup key).map form)
  canonical : ∀ j, j.Canonical → form j = j

theorem rearranges_canonical : Rearranges canonical where
  null := rfl
  bool _ := rfl
  number _ := rfl
  string _ := rfl
  array items := congrArg Json.array (canonicalItems_eq_map items)
  object _ := ⟨_, rfl, fun distinct => ⟨Keyed.nodup_keys (Keyed.sorted_sort _),
    lookup_sort_canonicalMembers distinct⟩⟩
  canonical := canonical_eq_self

theorem rearranges_id : Rearranges id where
  null := rfl
  bool _ := rfl
  number _ := rfl
  string _ := rfl
  array items := congrArg Json.array (List.map_id items).symm
  object members := ⟨members, rfl, fun distinct => ⟨distinct, fun _ => (Option.map_id_apply).symm⟩⟩
  canonical _ _ := rfl

theorem Rearranges.ne_null {form : Json → Json} (h : Rearranges form) :
    ∀ {j : Json}, j ≠ .null → form j ≠ .null
  | .null, ne => absurd rfl ne
  | .bool b, _ => by simp [h.bool]
  | .number n, _ => by simp [h.number]
  | .string s, _ => by simp [h.string]
  | .array items, _ => by simp [h.array]
  | .object members, _ => by
    obtain ⟨_, eq, _⟩ := h.object members
    simp [eq]

/-- Different members of a canonical object have different keys. -/
theorem Canonical.nodup_keys {members : List (String × Json)}
    (h : (Json.object members).Canonical) : (members.map (·.1)).Nodup := Keyed.nodup_keys h.1

end Json

theorem Document.ofJson_json (d : Document) : Document.ofJson d.json = d :=
  Document.ext (Json.canonical_eq_self _ d.canonical)

namespace Draft

theorem ofItems_eq_map (items : List Json) : ofItems items = items.map ofJson := by
  induction items with
  | nil => rfl
  | cons j rest ih => simp [ofItems, ih]

mutual
theorem toJson_ofJson : ∀ j : Json, toJson none (ofJson j) = .ok j
  | .null => rfl
  | .bool _ => rfl
  | .number _ => rfl
  | .string _ => rfl
  | .array items => by
    simp [ofJson, toJson, enter, checkItems, toItems_ofItems items, bind, Except.bind]
  | .object members => by
    simp [ofJson, toJson, enter, checkMembers, toMembers_ofMembers members, bind, Except.bind]

theorem toItems_ofItems : ∀ items, toItems none (ofItems items) = .ok items
  | [] => rfl
  | j :: rest => by
    simp [ofItems, toItems, toJson_ofJson j, toItems_ofItems rest, bind, Except.bind]

theorem toMembers_ofMembers : ∀ members, toMembers none (ofMembers members) = .ok members
  | [] => rfl
  | (key, j) :: rest => by
    simp [ofMembers, toMembers, toJson_ofJson j, toMembers_ofMembers rest, bind, Except.bind]
end

mutual
theorem skip_ofJson : ∀ j : Json, skip (ofJson j) = .ok ()
  | .null => rfl
  | .bool _ => rfl
  | .number _ => rfl
  | .string _ => rfl
  | .array items => by simp [ofJson, skip, skipItems_ofItems items, bind, Except.bind]
  | .object members => by simp [ofJson, skip, skipMembers_ofMembers members, bind, Except.bind]

theorem skipItems_ofItems : ∀ items, skipItems (ofItems items) = .ok ()
  | [] => rfl
  | j :: rest => by
    simp [ofItems, skipItems, skip_ofJson j, skipItems_ofItems rest, bind, Except.bind]

theorem skipMembers_ofMembers : ∀ members, skipMembers (ofMembers members) = .ok ()
  | [] => rfl
  | (_, j) :: rest => by
    simp [ofMembers, skipMembers, skip_ofJson j, skipMembers_ofMembers rest, bind, Except.bind]
end

end Draft
end CensusLink
