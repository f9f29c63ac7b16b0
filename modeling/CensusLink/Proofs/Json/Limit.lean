import CensusLink.Proofs.Json.RoundTrip

/-!
The limit on what is read. A value that is read from a text would, if written, have no more levels
than the text may have: what is passed over in the text may have any number of them, but nothing
that is kept has. This is shown of shapes without alternatives.
-/
namespace CensusLink

mutual
/-- No value of the shape is one of two alternatives. -/
def Shape.isDirect : Shape → Bool
  | .optional s => s.isDirect
  | .list s => s.isDirect
  | .record _ fields => fields.isDirect
  | .either _ _ _ => false
  | _ => true

def Fields.isDirect : Fields → Bool
  | .nil => true
  | .cons _ _ s rest => s.isDirect && rest.isDirect
end

open Misfit (ofFlaw)

theorem Misfit.ofFlaw_eq_ok_iff {α : Type} {x : Except Flaw α} {a : α} :
    ofFlaw x = .ok a ↔ x = .ok a := by
  cases x <;> simp [ofFlaw]

theorem Misfit.refuse_ne_ok {α : Type} (d : Draft) (wanted : String) (a : α) :
    Misfit.refuse d wanted ≠ .ok a := by
  rw [Misfit.refuse]
  cases d.found <;> simp

theorem exists_of_mem_mapM {ε α β : Type} {f : α → Except ε β} :
    ∀ {as : List α} {bs : List β}, as.mapM f = .ok bs → ∀ b ∈ bs, ∃ a ∈ as, f a = .ok b
  | [], _, h, b, mem => by
    cases h
    cases mem
  | a :: as, bs, h, b, mem => by
    rw [List.mapM_cons] at h
    obtain ⟨first, eq, h⟩ := bind_eq_ok_iff.1 h
    obtain ⟨rest, others, h⟩ := bind_eq_ok_iff.1 h
    cases h
    rcases List.mem_cons.1 mem with rfl | mem
    · exact ⟨a, List.mem_cons_self, eq⟩
    · obtain ⟨c, hc, eq⟩ := exists_of_mem_mapM others b mem
      exact ⟨c, List.mem_cons_of_mem a hc, eq⟩

/-- What every step of a fold keeps holds of what the fold comes to. -/
theorem forall_of_foldlM {ε α β : Type} {f : β → α → Except ε β} {p : β → Prop}
    (step : ∀ b a c, p b → f b a = .ok c → p c) : ∀ {as : List α} {b c : β}, p b →
      as.foldlM f b = .ok c → p c
  | [], _, _, h, folded => by
    cases folded
    exact h
  | a :: as, b, c, h, folded => by
    rw [List.foldlM_cons] at folded
    obtain ⟨next, first, others⟩ := bind_eq_ok_iff.1 folded
    exact forall_of_foldlM step (step b a next h first) others

/-- Going into a container takes one level of a text. -/
theorem Origin.of_enter_text {n : Nat} {inner : Origin}
    (h : (Origin.text (n + 1)).enter = .ok inner) : ∃ m, n = m + 1 ∧ inner = .text (m + 1) := by
  cases n with
  | zero => cases h
  | succ m =>
    have enter : (Origin.text (m + 1 + 1)).enter = .ok (.text (m + 1)) := by
      simp [Origin.enter, Origin.room, Draft.enter]
    exact ⟨m, rfl, (Except.ok.inj (enter.symm.trans h)).symm⟩

theorem depth_of_fitDocument {n : Nat} {d : Draft} {found : Document}
    (h : fitDocument (.text (n + 1)) d = .ok found) : found.json.depth ≤ n := by
  obtain ⟨j, taken, eq⟩ := bind_eq_ok_iff.1 h
  cases eq
  exact Nat.le_trans (Json.depth_canonical_le j)
    (Draft.depth_le_of_toJson (Misfit.ofFlaw_eq_ok_iff.1 taken))

namespace Fields

/-- What has been met has no more levels than so many. -/
def SlotsWithin (n : Nat) : (fields : Fields) → fields.Slots → Prop
  | .nil, _ => True
  | .cons _ _ s rest, (slot, slots) =>
    (∀ v, slot = some v → (s.write v).depth ≤ n) ∧ rest.SlotsWithin n slots

theorem slotsWithin_vacant (n : Nat) : ∀ fields : Fields, fields.SlotsWithin n fields.vacant
  | .nil => trivial
  | .cons _ _ _ rest => ⟨fun _ h => (nomatch h), slotsWithin_vacant n rest⟩

/-- A value that stands for what is left out has no levels. -/
theorem depth_of_blank? {s : Shape} {v : s.Value} (h : s.blank? = some v) :
    (s.write v).depth = 0 := by
  cases s
  case optional =>
    cases h
    rfl
  case flag =>
    cases h
    rfl
  all_goals cases h

theorem depth_of_absent? {presence : Presence} {s : Shape} {v : s.Value}
    (h : s.absent? presence = some v) : (s.write v).depth = 0 := by
  cases s
  case optional =>
    cases h
    rfl
  all_goals
    unfold Shape.absent? at h
    dsimp only at h
    split at h
    · cases h
    · exact depth_of_blank? h

theorem depth_of_cutOff? {presence : Presence} {s : Shape} {v : s.Value}
    (h : s.cutOff? presence = some v) : (s.write v).depth = 0 := by
  rw [Shape.cutOff?] at h
  split at h
  · cases h
  · exact depth_of_blank? h

theorem depthMembers_write_cons {n : Nat} {name : String} {presence : Presence} {s : Shape}
    {rest : Fields} {v : s.Value} {vs : rest.Value} (head : (s.write v).depth ≤ n)
    (tail : Json.depthMembers (rest.write vs) ≤ n) :
    Json.depthMembers ((Fields.cons name presence s rest).write (v, vs)) ≤ n := by
  rw [write]
  split
  · exact tail
  · exact Nat.max_le.2 ⟨head, tail⟩

theorem depth_of_gather {n : Nat} : ∀ {fields : Fields} {slots : fields.Slots} {v : fields.Value},
    fields.SlotsWithin n slots → fields.gather slots = .ok v →
      Json.depthMembers (fields.write v) ≤ n
  | .nil, _, _, _, _ => Nat.zero_le _
  | .cons name presence s rest, (slot, slots), (v, vs), ⟨here, others⟩, h => by
    rw [gather] at h
    cases met : slot <|> s.absent? presence with
    | none =>
      rw [met] at h
      cases h
    | some w =>
      rw [met] at h
      obtain ⟨_, eq, h⟩ := bind_eq_ok_iff.1 h
      obtain ⟨ws, gathered, h⟩ := bind_eq_ok_iff.1 h
      cases eq
      cases h
      refine depthMembers_write_cons ?_ (depth_of_gather others gathered)
      cases slot with
      | some u =>
        cases met
        exact here _ rfl
      | none => exact depth_of_absent? met ▸ Nat.zero_le n

end Fields

open Fields in
mutual
/-- What is read from a text has no more levels than there is room for. -/
theorem Shape.depth_of_fit : ∀ {s : Shape} {n : Nat} {d : Draft} {v : s.Value}, s.isDirect →
    s.fit (.text (n + 1)) d = .ok v → (s.write v).depth ≤ n
  | .text, n, _, _, _, _ => Nat.zero_le n
  | .flag, n, _, _, _, _ => Nat.zero_le n
  | .whole _ _ _, n, _, _, _, _ => Nat.zero_le n
  | .real, n, _, _, _, _ => Nat.zero_le n
  | .instant, n, _, _, _, _ => Nat.zero_le n
  | .uuid, n, _, _, _, _ => Nat.zero_le n
  | .document, _, _, _, _, h => depth_of_fitDocument h
  | .choice _, n, _, _, _, _ => Nat.zero_le n
  | .optional _, n, _, none, _, _ => Nat.zero_le n
  | .optional s, n, d, some v, direct, h => by
    rw [Shape.fit.eq_def] at h
    dsimp only at h
    split at h
    · cases h
    · cases h
    · obtain ⟨w, fit, h⟩ := bind_eq_ok_iff.1 h
      cases h
      exact Shape.depth_of_fit (s := s) direct fit
  | .list s, n, d, vs, direct, h => by
    rw [Shape.fit.eq_def] at h
    cases d with
    | array items close =>
      obtain ⟨inner, entered, h⟩ := bind_eq_ok_iff.1 h
      obtain ⟨n, rfl, rfl⟩ := Origin.of_enter_text entered
      obtain ⟨ws, fits, h⟩ := bind_eq_ok_iff.1 h
      obtain ⟨_, _, h⟩ := bind_eq_ok_iff.1 h
      cases h
      refine Nat.succ_le_succ (Json.depthItems_le_iff.2 fun j hj => ?_)
      obtain ⟨v, hv, rfl⟩ := List.mem_map.1 hj
      obtain ⟨d, _, fit⟩ := exists_of_mem_mapM fits v hv
      exact Shape.depth_of_fit (s := s) direct fit
    | _ => exact absurd h (Misfit.refuse_ne_ok _ _ _)
  | .record name fields, n, d, v, direct, h => by
    rw [Shape.fit.eq_def] at h
    cases d with
    | object members close =>
      obtain ⟨inner, entered, h⟩ := bind_eq_ok_iff.1 h
      obtain ⟨n, rfl, rfl⟩ := Origin.of_enter_text entered
      obtain ⟨slots, folded, h⟩ := bind_eq_ok_iff.1 h
      obtain ⟨_, _, gathered⟩ := bind_eq_ok_iff.1 h
      have vacant := slotsWithin_vacant n fields
      refine Nat.succ_le_succ (depth_of_gather (forall_of_foldlM
        (fun slots (key, d) next within placed => ?_) vacant folded) gathered)
      obtain ⟨_, _, placed⟩ := bind_eq_ok_iff.1 placed
      exact within.place direct placed
    | keyless =>
      obtain ⟨_, _, h⟩ := bind_eq_ok_iff.1 h
      cases h
    | array items close =>
      obtain ⟨inner, entered, h⟩ := bind_eq_ok_iff.1 h
      obtain ⟨n, rfl, rfl⟩ := Origin.of_enter_text entered
      exact Nat.succ_le_succ (Fields.depth_of_fitItems direct h)
    | _ => exact absurd h (Misfit.refuse_ne_ok _ _ _)

/-- Putting a member in its slot keeps the slots within the limit. -/
theorem Fields.SlotsWithin.place : ∀ {fields : Fields} {n : Nat} {key : String} {d : Draft}
    {slots after : fields.Slots}, fields.SlotsWithin n slots → fields.isDirect →
      fields.place (.text (n + 1)) key d slots = .ok after → fields.SlotsWithin n after
  | .nil, _, _, _, _, _, _, _, _ => trivial
  | .cons name _ s rest, n, key, d, (slot, slots), after, ⟨here, others⟩, direct, placed => by
    obtain ⟨head, tail⟩ := Bool.and_eq_true_iff.1 direct
    simp only [Fields.place] at placed
    split at placed
    · cases slot with
      | some _ => cases placed
      | none =>
        obtain ⟨v, fit, eq⟩ := bind_eq_ok_iff.1 placed
        cases eq
        refine ⟨?_, others⟩
        rintro w ⟨⟩
        exact Shape.depth_of_fit head fit
    · obtain ⟨next, inner, eq⟩ := bind_eq_ok_iff.1 placed
      cases eq
      exact ⟨here, others.place tail inner⟩

theorem Fields.depth_of_fitItems : ∀ {fields : Fields} {n : Nat} {wanted : String} {total : Nat}
    {close : ItemsEnd} {index : Nat} {items : List Draft} {v : fields.Value}, fields.isDirect →
      fields.fitItems (.text (n + 1)) wanted total close index items = .ok v →
        Json.depthMembers (fields.write v) ≤ n
  | .nil, n, _, _, _, _, _, _, _, _ => Nat.zero_le n
  | .cons name presence s rest, n, wanted, total, close, index, [], (v, vs), direct, h => by
    obtain ⟨head, tail⟩ := Bool.and_eq_true_iff.1 direct
    rw [Fields.fitItems] at h
    obtain ⟨_, _, h⟩ := bind_eq_ok_iff.1 h
    split at h
    next blank =>
      obtain ⟨ws, others, eq⟩ := bind_eq_ok_iff.1 h
      cases eq
      exact depthMembers_write_cons (depth_of_cutOff? blank ▸ Nat.zero_le n)
        (Fields.depth_of_fitItems tail others)
    next => cases h
  | .cons name presence s rest, n, wanted, total, close, index, d :: items, (v, vs), direct, h => by
    obtain ⟨head, tail⟩ := Bool.and_eq_true_iff.1 direct
    rw [Fields.fitItems] at h
    obtain ⟨w, fit, h⟩ := bind_eq_ok_iff.1 h
    obtain ⟨ws, others, eq⟩ := bind_eq_ok_iff.1 h
    cases eq
    exact depthMembers_write_cons (Shape.depth_of_fit head fit)
      (Fields.depth_of_fitItems tail others)
end

end CensusLink
