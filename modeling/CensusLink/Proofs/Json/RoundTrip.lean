import CensusLink.Json.Wire
import CensusLink.Proofs.Json.Depth
import CensusLink.Proofs.Json.RecordReading

/-!
Reading a document or a text back. A shape is sound if nothing that it writes can be taken for
something else: the names in it differ, its numbers have at most 64 bits, what is optional is never
null, and the first of two alternatives has a field that the second has not. A value of a sound
shape is read back from its document, and from its text if that has no more levels than a text may
have.
-/
namespace CensusLink

namespace Origin

/-- There is room for all levels of a value. -/
def Holds (o : Origin) (j : Json) : Prop := ∀ room, o.room = some room → j.depth < room

variable {o : Origin} {j : Json} {n : Nat}

theorem holds_of_memory (memory : o.room = none) (j : Json) : o.Holds j := by
  intro room limit
  rw [memory] at limit
  cases limit

/-- Where there is room for a container it can be gone into, with room for what is inside. -/
theorem Holds.enter (h : o.Holds j) (levels : j.depth = n + 1) :
    ∃ inner, o.enter = .ok inner ∧ ∀ i : Json, i.depth ≤ n → inner.Holds i := by
  cases o with
  | text room =>
    have lt : n + 1 < room := levels ▸ h room rfl
    have notLe : ¬ room ≤ 1 := by omega
    refine ⟨.text (room - 1), by simp [Origin.enter, Origin.room, Draft.enter, notLe], ?_⟩
    rintro i le left ⟨⟩
    omega
  | tree => exact ⟨.tree, rfl, fun i _ => holds_of_memory rfl i⟩
  | aside => exact ⟨.aside, rfl, fun i _ => holds_of_memory rfl i⟩

/-- Where there is room for a value it can be taken. -/
theorem Holds.toJson (h : o.Holds j) : (Draft.ofJson j).toJson o.room = .ok j := by
  cases limit : o.room with
  | none => exact Draft.toJson_ofJson j
  | some room =>
    have lt : j.depth < room := h room limit
    obtain ⟨more, rfl⟩ := Nat.exists_eq_add_one_of_ne_zero (Nat.ne_zero_of_lt lt)
    rw [Draft.toJson_ofJson_within, if_pos (Nat.le_of_lt_succ lt)]

end Origin

/-- Whether a value of the shape may be null. -/
def Shape.isNullable : Shape → Bool
  | .document => true
  | .optional _ => true
  | .either _ first second => first.isNullable || second.isNullable
  | _ => false

/-- The fields that no object may lack. -/
def Fields.demanded : Fields → List String
  | .nil => []
  | .cons name presence s rest =>
    if (s.absent? presence).isNone then name :: rest.demanded else rest.demanded

/-- Whether a field of the first shape tells its objects from those of the second. -/
def Shape.isToldFrom : Shape → Shape → Bool
  | .record _ first, .record _ second => first.demanded.any fun name => !second.names.contains name
  | _, _ => false

mutual
def Shape.isSound : Shape → Bool
  | .whole _ low high => decide (-9223372036854775808 ≤ low ∧ high < 18446744073709551616)
  | .choice names => decide names.Nodup
  | .optional s => s.isSound && !s.isNullable
  | .list s => s.isSound
  | .record _ fields => fields.isSound
  | .either _ first second => first.isSound && second.isSound && first.isToldFrom second
  | _ => true

def Fields.isSound : Fields → Bool
  | .nil => true
  | .cons name _ s rest => !rest.names.contains name && s.isSound && rest.isSound
end

namespace Fields

theorem nodup_names : ∀ {fields : Fields}, fields.isSound → fields.names.Nodup
  | .nil, _ => List.nodup_nil
  | .cons _ _ _ rest, h => by
    simp only [isSound, Bool.and_eq_true, Bool.not_eq_true', List.contains_eq_mem,
      decide_eq_false_iff_not] at h
    exact List.nodup_cons.2 ⟨h.1.1, nodup_names h.2⟩

/-- Fields write members of their own names, in their own order. -/
theorem keys_write_sublist : ∀ {fields : Fields} (v : fields.Value),
    ((fields.write v).map (·.1)).Sublist fields.names
  | .nil, _ => List.Sublist.refl _
  | .cons _ _ _ rest, (_, vs) => by
    rw [write]
    split
    · exact (keys_write_sublist vs).cons _
    · exact (keys_write_sublist vs).cons_cons _

theorem nodup_keys_write {fields : Fields} (h : fields.isSound) (v : fields.Value) :
    ((fields.write v).map (·.1)).Nodup := (keys_write_sublist v).nodup (nodup_names h)

theorem lookup_write_of_not_mem {fields : Fields} {key : String} (h : key ∉ fields.names)
    (v : fields.Value) : (fields.write v).lookup key = none := by
  refine List.lookup_eq_none_iff.2 fun m hm => ?_
  have member : m.1 ∈ fields.names := (keys_write_sublist v).subset (List.mem_map.2 ⟨m, hm, rfl⟩)
  have ne : key ≠ m.1 := fun eq => h (eq ▸ member)
  simpa using ne

/-- A record lacks nothing that it demands. -/
theorem Reads.lookup_isSome : ∀ {fields : Fields} {o : Origin} {members : List (String × Json)}
    {v : fields.Value}, fields.Reads o members v → ∀ name ∈ fields.demanded,
      (members.lookup name).isSome
  | .cons name presence s rest, o, members, (v, vs), ⟨⟨slot, takes, eq⟩, reads⟩, key, h => by
    rw [demanded] at h
    split at h
    next absent =>
      rcases List.mem_cons.1 h with rfl | h
      · cases found : members.lookup key with
        | some j => rfl
        | none =>
          rw [found] at takes
          obtain rfl : slot = none := takes
          simp_all
      · exact reads.lookup_isSome key h
    · exact reads.lookup_isSome key h

end Fields

namespace Shape

/-- The document of a value that is not optional is not null. -/
theorem write_ne_null : ∀ {s : Shape}, s.isNullable = false → ∀ v : s.Value, s.write v ≠ .null
  | .text, _, _ => Json.noConfusion
  | .flag, _, _ => Json.noConfusion
  | .whole _ _ _, _, _ => Json.noConfusion
  | .real, _, _ => Json.noConfusion
  | .instant, _, _ => Json.noConfusion
  | .uuid, _, _ => Json.noConfusion
  | .choice _, _, _ => Json.noConfusion
  | .list _, _, _ => Json.noConfusion
  | .record _ _, _, _ => Json.noConfusion
  | .either _ _ _, h, .inl v => write_ne_null (Bool.or_eq_false_iff.1 h).1 v
  | .either _ _ _, h, .inr v => write_ne_null (Bool.or_eq_false_iff.1 h).2 v

/-- What is not written is what is taken for a field that is not there. -/
theorem absent?_of_isVoid {s : Shape} {v : s.Value} (h : s.isVoid v) (presence : Presence) :
    s.absent? presence = some v := by
  cases s
  case optional =>
    cases v with
    | none => rfl
    | some v => cases h
  all_goals cases h

/-- What is not null fits an optional shape as it fits the shape. -/
theorem fit_optional {s : Shape} {o : Origin} {j : Json} (h : j ≠ .null) :
    (Shape.optional s).fit o (Draft.ofJson j) =
      (s.fit o (Draft.ofJson j) >>= fun v => .ok (some v)) := by
  rw [Shape.fit.eq_def]
  cases j
  case null => exact absurd rfl h
  all_goals rfl

theorem fit_either {name : String} {first second : Shape} {o : Origin} {j : Json}
    (holds : o.Holds j) : (Shape.either name first second).fit o (Draft.ofJson j) =
      match first.fit .aside (Draft.ofJson j) with
      | .ok v => .ok (.inl v)
      | .error _ =>
        match second.fit .aside (Draft.ofJson j) with
        | .ok v => .ok (.inr v)
        | .error _ => .error (.noAlternative name) := by
  rw [Shape.fit.eq_def]
  dsimp only
  rw [holds.toJson]
  rfl

theorem mapM_fit_write {s : Shape} {o : Origin} {form : Json → Json} {vs : List s.Value}
    (h : ∀ v ∈ vs, s.fit o (Draft.ofJson (form (s.write v))) = .ok v) :
    (Draft.ofItems ((vs.map s.write).map form)).mapM (s.fit o) = .ok vs := by
  rw [Draft.ofItems_eq_map]
  induction vs with
  | nil => rfl
  | cons v rest ih =>
    simp only [List.map_cons, List.mapM_cons, h v List.mem_cons_self,
      ih fun w hw => h w (List.mem_cons_of_mem v hw)]
    rfl

theorem fit_list {s : Shape} {o inner : Origin} (enter : o.enter = .ok inner)
    (items : List Json) : (Shape.list s).fit o (Draft.ofJson (.array items)) =
      (Draft.ofItems items).mapM (s.fit inner) := by
  rw [Shape.fit.eq_def, Draft.ofJson]
  simp only [enter, bind, Except.bind, Draft.checkItems, Misfit.ofFlaw]
  cases (Draft.ofItems items).mapM (s.fit inner) <;> rfl

theorem fit_choice {names : List String} (distinct : names.Nodup) (o : Origin)
    (i : Fin names.length) :
    (Shape.choice names).fit o (Draft.ofJson (.string (names.get i))) = .ok i := by
  have found : names.finIdxOf? (names.get i) = some i := by
    refine List.finIdxOf?_eq_some_iff.2 ⟨rfl, fun j lt eq => ?_⟩
    exact List.pairwise_iff_getElem.1 distinct j i j.isLt i.isLt lt eq
  have placed : placeOf (names.get i) names = .ok i := by rw [placeOf, found]
  rw [Shape.fit.eq_def]
  cases o <;> exact placed

variable {form : Json → Json}

/-- Objects of the second shape lack what the first shape demands. -/
theorem not_fits_of_isToldFrom (rearranges : Json.Rearranges form) {first second : Shape}
    (told : first.isToldFrom second) (distinct : first.isSound) (sound : second.isSound)
    (v : second.Value) (w : first.Value) :
    first.fit .aside (Draft.ofJson (form (second.write v))) ≠ .ok w := by
  cases first <;> cases second <;> try cases told
  next fields _ others =>
    obtain ⟨name, demanded, foreign⟩ := List.any_eq_true.1 told
    obtain ⟨members, eq, rearranged⟩ := rearranges.object (others.write v)
    obtain ⟨keys, same⟩ := rearranged (Fields.nodup_keys_write sound v)
    intro fit
    rw [write, eq] at fit
    have reads := (fit_object_iff (o := .aside) rfl (Fields.nodup_names distinct) keys).1 fit
    have there := reads.lookup_isSome name demanded
    rw [same, Fields.lookup_write_of_not_mem (by simpa using foreign) v] at there
    cases there

theorem fit_leaf {s : Shape} {o : Origin} {v : s.Value} {j : Json} (same : form j = j)
    (writes : s.write v = j) (fit : s.fit o (Draft.ofJson j) = .ok v) :
    s.fit o (Draft.ofJson (form (s.write v))) = .ok v := by
  rw [writes, same, fit]

end Shape

open Shape in
mutual
/-- A value of a sound shape is read back from what it writes, with the members of its objects in
any order, where there is room for it. -/
theorem Shape.fit_write {form : Json → Json} (rearranges : Json.Rearranges form) :
    ∀ {s : Shape} {o : Origin}, s.isSound → ∀ v : s.Value, o.Holds (form (s.write v)) →
      s.fit o (Draft.ofJson (form (s.write v))) = .ok v
  | .text, _, _, s, _ => fit_leaf (rearranges.string s) rfl rfl
  | .flag, _, _, b, _ => fit_leaf (rearranges.bool b) rfl rfl
  | .whole name low high, _, h, ⟨n, range⟩, _ => by
    have bits := of_decide_eq_true h
    have word : -9223372036854775808 ≤ n ∧ n < 18446744073709551616 := by omega
    refine fit_leaf (rearranges.number (.ofInt n)) rfl ?_
    simp only [Number.ofInt, dif_pos word]
    exact dif_pos range
  | .real, _, _, x, _ => fit_leaf (rearranges.number (.real x)) rfl rfl
  | .instant, _, _, t, _ => by
    refine fit_leaf (rearranges.string (Instant.text t)) rfl ?_
    change fitInstant (.string (.ok (Instant.text t))) = .ok t
    simp [fitInstant, fitText, Misfit.ofFlaw, bind, Except.bind, Instant.ofText_text t]
  | .uuid, _, _, u, _ => by
    refine fit_leaf (rearranges.string (Uuid.text u)) rfl ?_
    change fitUuid (.string (.ok (Uuid.text u))) = .ok u
    simp [fitUuid, fitText, Misfit.ofFlaw, bind, Except.bind, Uuid.ofText_text u]
  | .document, o, _, d, holds => by
    have same : form (Document.json d) = Document.json d := rearranges.canonical _ d.canonical
    refine fit_leaf same rfl ?_
    change o.Holds (form (Document.json d)) at holds
    rw [same] at holds
    change fitDocument o (Draft.ofJson (Document.json d)) = .ok d
    rw [fitDocument, holds.toJson]
    exact congrArg Except.ok (Document.ofJson_json d)
  | .choice names, o, h, i, _ =>
    fit_leaf (rearranges.string (names.get i)) rfl (fit_choice (of_decide_eq_true h) o i)
  | .optional _, _, _, none, _ => fit_leaf rearranges.null rfl rfl
  | .optional s, _, h, some v, holds => by
    obtain ⟨sound, solid⟩ := Bool.and_eq_true_iff.1 h
    have ne : s.write v ≠ .null := write_ne_null (by simpa using solid) v
    rw [write] at holds ⊢
    rw [fit_optional (rearranges.ne_null ne), Shape.fit_write rearranges sound v holds]
    rfl
  | .list s, o, h, vs, holds => by
    have sound : s.isSound := h
    rw [write, rearranges.array] at holds ⊢
    obtain ⟨inner, enter, room⟩ := holds.enter rfl
    rw [fit_list enter]
    refine mapM_fit_write fun v hv => Shape.fit_write rearranges sound v (room _ ?_)
    exact Json.depth_le_of_mem_items (List.mem_map_of_mem (List.mem_map_of_mem hv))
  | .record name fields, o, h, v, holds => by
    obtain ⟨members, eq, rearranged⟩ := rearranges.object (fields.write v)
    obtain ⟨keys, same⟩ := rearranged (Fields.nodup_keys_write h v)
    rw [write, eq] at holds ⊢
    obtain ⟨inner, enter, room⟩ := holds.enter rfl
    refine (fit_object_iff enter (Fields.nodup_names h) keys).2
      (Fields.reads_write rearranges h v (fun key j found => room j ?_) fun name _ => same name)
    exact Json.depth_le_of_mem_members ((Keyed.lookup_eq_some_iff keys).1 found)
  | .either name first second, o, h, .inl v, holds => by
    obtain ⟨⟨sound, _⟩, _⟩ := by simpa [isSound] using h
    rw [write] at holds ⊢
    rw [fit_either holds,
      Shape.fit_write rearranges sound v (Origin.holds_of_memory rfl _)]
  | .either name first second, o, h, .inr v, holds => by
    obtain ⟨⟨sound, sound'⟩, told⟩ := by simpa [isSound] using h
    rw [write] at holds ⊢
    rw [fit_either holds,
      Shape.fit_write rearranges sound' v (Origin.holds_of_memory rfl _)]
    cases other : first.fit .aside (Draft.ofJson (form (second.write v))) with
    | error _ => rfl
    | ok w => exact absurd other (not_fits_of_isToldFrom rearranges told sound sound' v w)

/-- Fields find what they have written, wherever their names find it. -/
theorem Fields.reads_write {form : Json → Json} (rearranges : Json.Rearranges form) :
    ∀ {fields : Fields} {o : Origin}, fields.isSound → ∀ (v : fields.Value)
      {members : List (String × Json)},
      (∀ name j, members.lookup name = some j → o.Holds j) →
      (∀ name ∈ fields.names, members.lookup name = ((fields.write v).lookup name).map form) →
      fields.Reads o members v
  | .nil, _, _, _, _, _, _ => trivial
  | .cons name presence s rest, o, h, (v, vs), members, room, same => by
    simp only [Fields.isSound, Bool.and_eq_true, Bool.not_eq_true', List.contains_eq_mem,
      decide_eq_false_iff_not] at h
    obtain ⟨⟨new, sound⟩, distinct⟩ := h
    have here := same name List.mem_cons_self
    rw [Fields.write] at same here
    refine ⟨?_, Fields.reads_write rearranges distinct vs room fun other member => ?_⟩
    · split at here
      next left =>
        rw [Fields.lookup_write_of_not_mem new, Option.map_none] at here
        refine ⟨none, ?_, absent?_of_isVoid (Bool.and_eq_true_iff.1 left).2 presence⟩
        rw [here]
        rfl
      next =>
        rw [List.lookup_cons_self] at here
        refine ⟨some v, ?_, rfl⟩
        rw [here]
        exact ⟨v, rfl, Shape.fit_write rearranges sound v (room name _ here)⟩
    · have ne : other ≠ name := fun eq => new (eq ▸ member)
      have there := same other (List.mem_cons_of_mem _ member)
      split at there
      · exact there
      · rwa [Keyed.lookup_cons_of_ne ne] at there
end

namespace Wire

section Packed

variable {α : Type} [Packed α]

/-- What is read of a value in any form that was written from it. -/
def kept (a : α) : α := unpack (pack a)

theorem ofDocument_kept (sound : (shape α).isSound) (a : α) :
    ofDocument (toDocument a) = .ok (kept a) := by
  have fit : (shape α).ofJson (toDocument a).json = .ok (pack a) :=
    Shape.fit_write Json.rearranges_canonical sound (pack a) (Origin.holds_of_memory rfl _)
  rw [ofDocument, ofJson, fit]
  rfl

/-- A text whose draft is that of a value, with the members of its objects in any order, is read as
what is kept of that value, unless it has more levels than a text may have. -/
theorem ofText_of_draft {form : Json → Json} (rearranges : Json.Rearranges form)
    (sound : (shape α).isSound) {a : α} {s : String}
    (levels : (form (toJson a)).depth < Json.roomOfText)
    (draft : Draft.ofText s.toList = (Draft.ofJson (form (toJson a)), some [])) :
    ofText s = .ok (kept a) := by
  have holds : (Origin.text Json.roomOfText).Holds (form ((shape α).write (pack a))) := by
    rintro room ⟨⟩
    exact levels
  have fit := Shape.fit_write rearranges sound (pack a) holds
  have text : (shape α).ofText s = .ok (pack a) := by
    rw [Shape.ofText, draft]
    exact congrArg (· >>= fun v => Except.ok v) fit
  rw [ofText, text]
  rfl

end Packed

variable {α : Type} [Wire α]

@[simp]
theorem kept_eq (a : α) : kept a = a := unpack_pack a

/-- What is kept as a document is read back from it. -/
theorem ofDocument_toDocument (sound : (shape α).isSound) (a : α) :
    ofDocument (toDocument a) = .ok a := by
  rw [ofDocument_kept sound, kept_eq]

theorem ofText_prettyText (sound : (shape α).isSound) {a : α} (exact : (toJson a).isExact)
    (levels : (toJson a).depth < Json.roomOfText) : ofText (prettyText a) = .ok a :=
  (ofText_of_draft Json.rearranges_id sound levels (Json.ofText_pretty exact)).trans
    (congrArg Except.ok (kept_eq a))

end Wire
end CensusLink
