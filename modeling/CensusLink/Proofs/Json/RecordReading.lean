import CensusLink.Json.Fit
import CensusLink.Proofs.Json.Documents

/-!
Reading a record from an object. The members are met in the order in which they stand, but among
members of different keys the order makes no difference: the reading succeeds with the values that
the fields find under their names.
-/
namespace CensusLink

/-- The names of fields. -/
def Fields.names : Fields → List String
  | .nil => []
  | .cons name _ _ rest => name :: rest.names

/-- What a field takes from the member of its name: a value that fits, or nothing if there is no
such member. -/
def Shape.Takes (s : Shape) (o : Origin) : Option Json → Option s.Value → Prop
  | some j, slot => ∃ v, slot = some v ∧ s.fit o (Draft.ofJson j) = .ok v
  | none, slot => slot = none

/-- The slots of fields once some members have been met. -/
def Fields.Met : (fields : Fields) → Origin → List (String × Json) → fields.Slots → Prop
  | .nil, _, _, _ => True
  | .cons name _ s rest, o, members, (slot, slots) =>
    s.Takes o (members.lookup name) slot ∧ rest.Met o members slots

/-- The values that fields have in an object: each fits the member of its name, and one without a
member may be absent. -/
def Fields.Reads : (fields : Fields) → Origin → List (String × Json) → fields.Value → Prop
  | .nil, _, _, _ => True
  | .cons name presence s rest, o, members, (v, vs) =>
    (∃ slot, s.Takes o (members.lookup name) slot ∧ (slot <|> s.absent? presence) = some v) ∧
      rest.Reads o members vs

theorem Shape.Takes.unique {s : Shape} {o : Origin} {found : Option Json} {a b : Option s.Value}
    (ha : s.Takes o found a) (hb : s.Takes o found b) : a = b := by
  cases found with
  | none => exact Eq.trans ha (Eq.symm hb)
  | some j =>
    obtain ⟨v, rfl, fitA⟩ := ha
    obtain ⟨w, rfl, fitB⟩ := hb
    rw [Except.ok.inj (fitA.symm.trans fitB)]

namespace Fields

variable {o : Origin} {members met more : List (String × Json)}

theorem met_vacant : ∀ fields : Fields, fields.Met o [] fields.vacant
  | .nil => trivial
  | .cons _ _ _ rest => ⟨rfl, met_vacant rest⟩

theorem Met.unique : ∀ {fields : Fields} {a b : fields.Slots},
    fields.Met o members a → fields.Met o members b → a = b
  | .nil, _, _, _, _ => rfl
  | .cons _ _ _ _, (_, _), (_, _), ⟨ha, restA⟩, ⟨hb, restB⟩ => by
    rw [ha.unique hb, Met.unique restA restB]

/-- A member of another name fills no slot. -/
theorem met_append_of_not_mem : ∀ {fields : Fields} {key : String} {j : Json}
    {slots : fields.Slots}, key ∉ fields.names →
      (fields.Met o (met ++ [(key, j)]) slots ↔ fields.Met o met slots)
  | .nil, _, _, _, _ => Iff.rfl
  | .cons _ _ _ _, _, _, (_, _), h => by
    simp only [names, List.mem_cons, not_or] at h
    simp only [Met, Keyed.lookup_append_of_ne (Ne.symm h.1), met_append_of_not_mem h.2]

/-- What has been met fills the slots after a part of it was met, too. -/
theorem Met.of_append : ∀ {fields : Fields} {slots : fields.Slots},
    fields.Met o (met ++ more) slots → ∃ before, fields.Met o met before
  | .nil, _, _ => ⟨(), trivial⟩
  | .cons name _ _ _, (slot, _), ⟨h, tail⟩ => by
    obtain ⟨before, hb⟩ := Met.of_append tail
    rw [List.lookup_append] at h
    cases found : met.lookup name with
    | none => exact ⟨(none, before), by rw [found]; rfl, hb⟩
    | some j => exact ⟨(slot, before), by rw [found]; rwa [found] at h, hb⟩

/-- Meeting a member of a new key fills the slot of its field. -/
theorem place_iff : ∀ {fields : Fields} {key : String} {j : Json} {slots after : fields.Slots},
    fields.names.Nodup → fields.Met o met slots → met.lookup key = none →
      (fields.place o key (Draft.ofJson j) slots = .ok after ↔
        fields.Met o (met ++ [(key, j)]) after)
  | .nil, _, j, (), (), _, _, _ => by simp [place, Draft.skip_ofJson, Misfit.ofFlaw, Met]
  | .cons name _ s tail, key, j, (slot, slots), (slot', slots'), distinct, ⟨h, ht⟩, new => by
    obtain ⟨absent, distinct⟩ := List.nodup_cons.1 distinct
    by_cases same : key = name
    · subst same
      have found : (met ++ [(key, j)]).lookup key = some j := by
        rw [List.lookup_append, new, List.lookup_cons_self, Option.none_or]
      rw [new] at h
      obtain rfl : slot = none := h
      simp only [place, if_true, Met, found, met_append_of_not_mem absent, Shape.Takes]
      cases fit : s.fit o (Draft.ofJson j) with
      | error m => simp [bind, Except.bind]
      | ok v =>
        constructor
        · intro eq
          cases eq
          exact ⟨⟨v, rfl, rfl⟩, ht⟩
        · rintro ⟨⟨w, rfl, eq⟩, hs⟩
          rw [ht.unique hs, ← Except.ok.inj eq]
          rfl
    · have ih : tail.place o key (Draft.ofJson j) slots = .ok slots' ↔
          tail.Met o (met ++ [(key, j)]) slots' := place_iff distinct ht new
      simp only [place, if_neg same, Met, Keyed.lookup_append_of_ne (Ne.symm same), ← ih]
      constructor
      · intro eq
        cases placed : tail.place o key (Draft.ofJson j) slots with
        | error m => simp [placed, bind, Except.bind] at eq
        | ok filled =>
          simp only [placed, bind, Except.bind] at eq
          cases eq
          exact ⟨h, rfl⟩
      · rintro ⟨h', placed⟩
        rw [placed, h.unique h']
        rfl

/-- Meeting members of different keys one by one comes to what all of them fill. -/
theorem foldlM_place_iff {fields : Fields} (distinct : fields.names.Nodup) :
    ∀ {members met : List (String × Json)} {slots after : fields.Slots},
      ((met ++ members).map (·.1)).Nodup → fields.Met o met slots →
        ((Draft.ofMembers members).foldlM (fun slots (key, d) => do
            fields.place o (← Misfit.ofFlaw key) d slots) slots = .ok after ↔
          fields.Met o (met ++ members) after)
  | [], met, slots, after, _, h => by
    rw [List.append_nil]
    constructor
    · intro eq
      cases eq
      exact h
    · intro h'
      rw [h.unique h']
      rfl
  | (key, j) :: rest, met, slots, after, keys, h => by
    have new : met.lookup key = none := by
      rw [List.map_append, List.nodup_append] at keys
      refine List.lookup_eq_none_iff.2 fun e he => ?_
      have ne := keys.2.2 e.1 (List.mem_map.2 ⟨e, he, rfl⟩) key (by simp)
      simpa using Ne.symm ne
    have split : met ++ (key, j) :: rest = (met ++ [(key, j)]) ++ rest := by simp
    rw [split] at keys ⊢
    have one (filled : fields.Slots) : fields.place o key (Draft.ofJson j) slots = .ok filled ↔
        fields.Met o (met ++ [(key, j)]) filled := place_iff distinct h new
    simp only [Draft.ofMembers, List.foldlM_cons, Misfit.ofFlaw, bind, Except.bind]
    cases placed : fields.place o key (Draft.ofJson j) slots with
    | error m =>
      constructor
      · intro eq
        cases eq
      · intro h'
        obtain ⟨before, hb⟩ := h'.of_append
        rw [(one before).2 hb] at placed
        cases placed
    | ok filled =>
      exact foldlM_place_iff distinct keys ((one filled).1 placed)

/-- The values are those of the slots, and of the fields that may be absent. -/
theorem gather_iff : ∀ {fields : Fields} {slots : fields.Slots} {v : fields.Value},
    fields.Met o members slots → (fields.gather slots = .ok v ↔ fields.Reads o members v)
  | .nil, (), (), _ => by simp [gather, Reads]
  | .cons name presence s tail, (slot, slots), (v, vs), ⟨h, ht⟩ => by
    have ih : tail.gather slots = .ok vs ↔ tail.Reads o members vs := gather_iff ht
    simp only [gather, Reads, ← ih]
    have only : (∃ slot', s.Takes o (members.lookup name) slot' ∧
        (slot' <|> s.absent? presence) = some v) ↔ (slot <|> s.absent? presence) = some v :=
      ⟨fun ⟨_, h', eq⟩ => h.unique h' ▸ eq, fun eq => ⟨slot, h, eq⟩⟩
    rw [only]
    cases (slot <|> s.absent? presence) with
    | none => simp [bind, Except.bind]
    | some w =>
      cases tail.gather slots with
      | error m => simp [bind, Except.bind]
      | ok ws =>
        constructor
        · intro eq
          cases eq
          exact ⟨rfl, rfl⟩
        · rintro ⟨eq, eqs⟩
          cases eq
          cases eqs
          rfl

theorem Reads.exists_met : ∀ {fields : Fields} {v : fields.Value},
    fields.Reads o members v → ∃ slots, fields.Met o members slots
  | .nil, _, _ => ⟨(), trivial⟩
  | .cons _ _ _ _, (_, _), ⟨⟨slot, h, _⟩, rest⟩ => by
    obtain ⟨slots, hs⟩ := Reads.exists_met rest
    exact ⟨(slot, slots), h, hs⟩

end Fields

theorem Shape.fit_record (name : String) (fields : Fields) (o : Origin)
    (members : List (Except Flaw String × Draft)) (close : MembersEnd) :
    (Shape.record name fields).fit o (.object members close) = (do
      let o ← o.enter
      let slots ← members.foldlM (fun slots (key, value) => do
        fields.place o (← Misfit.ofFlaw key) value slots) fields.vacant
      Misfit.ofFlaw (Draft.checkMembers close)
      fields.gather slots) := by
  rw [Shape.fit.eq_def]

/-- A record reads from an object of different keys what its fields find there, if the object can be
gone into. -/
theorem Shape.fit_object_iff {name : String} {fields : Fields} {o inner : Origin}
    (enter : o.enter = .ok inner) (distinct : fields.names.Nodup)
    {members : List (String × Json)} (keys : (members.map (·.1)).Nodup) {v : fields.Value} :
    (Shape.record name fields).fit o (Draft.ofJson (.object members)) = .ok v ↔
      fields.Reads inner members v := by
  have fold := fun after => @Fields.foldlM_place_iff inner fields distinct members [] fields.vacant
    after keys (Fields.met_vacant fields)
  rw [List.nil_append] at fold
  rw [Draft.ofJson, Shape.fit_record, enter]
  change (_ >>= fun slots => fields.gather slots) = _ ↔ _
  cases folded : (Draft.ofMembers members).foldlM (fun slots (key, d) => do
      fields.place inner (← Misfit.ofFlaw key) d slots) fields.vacant with
  | error m =>
    constructor
    · intro eq
      cases eq
    · intro reads
      obtain ⟨slots, met⟩ := reads.exists_met
      rw [(fold slots).2 met] at folded
      cases folded
  | ok slots => exact Fields.gather_iff ((fold slots).1 folded)

end CensusLink
