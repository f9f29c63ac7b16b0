import CensusLink.Proofs.Json.RoundTrip
import CensusLink.Registry
import CensusLink.Store.Memory

/-!
The property reference number in the document of a case. A case is written with its number where a
search looks for it, and whatever document is read as a case is found by no other number than its.
-/
namespace CensusLink

theorem split_uprnPath : Text.split '.' Registry.uprnPath = ["address", "uprn"] := by
  decide +kernel

theorem fieldAt_uprnPath (j : Json) :
    Query.fieldAt j Registry.uprnPath = (j.get? "address").bind fun a => a.get? "uprn" := by
  rw [Query.fieldAt, split_uprnPath]
  cases found : j.get? "address" with
  | none => simp [found]
  | some a => simp [found]

theorem Wire.isSound_accessCode : (Wire.shape AccessCode).isSound = true := by decide

theorem Wire.isSound_address : (Wire.shape Address).isSound = true := by decide

theorem Wire.isSound_collectionCase : (Wire.shape CollectionCase).isSound = true := by decide

theorem CollectionCase.address_toDocument (c : CollectionCase) :
    (Wire.toDocument c).json.get? "address" = some (Wire.toJson c.address).canonical :=
  Json.get?_canonical_object
    (Fields.nodup_keys_write Wire.isSound_collectionCase (Wire.pack c)) "address"

theorem Address.uprn_toJson (a : Address) :
    (Wire.toJson a).canonical.get? "uprn" = some (.string a.uprn) :=
  Json.get?_canonical_object (Fields.nodup_keys_write Wire.isSound_address (Wire.pack a)) "uprn"

/-- The document of a case is found by the number of the case and by no other. -/
theorem CollectionCase.matches_toDocument (c : CollectionCase) (uprn : String) :
    Query.matchesField (Wire.toDocument c).json Registry.uprnPath uprn = (c.uprn == uprn) := by
  rw [Query.matchesField, fieldAt_uprnPath, address_toDocument, Option.bind_some,
    Address.uprn_toJson]
  exact Option.some_beq_some

theorem Json.get?_eq_some {j a : Json} {key : String} (h : j.get? key = some a) :
    ∃ members, j = .object members ∧ members.lookup key = some a := by
  cases j with
  | object members => exact ⟨members, rfl, h⟩
  | _ => cases h

/-- A field with a member of its name has the value that fits it. -/
theorem Shape.fit_of_takes {s : Shape} {o : Origin} {j : Json} {presence : Presence} {v : s.Value}
    (h : ∃ slot, s.Takes o (some j) slot ∧ (slot <|> s.absent? presence) = some v) :
    s.fit o (Draft.ofJson j) = .ok v := by
  obtain ⟨_, ⟨w, rfl, fit⟩, eq⟩ := h
  cases eq
  exact fit

theorem Shape.eq_string_of_fit {o : Origin} {j : Json} {s : String}
    (h : Shape.text.fit o (Draft.ofJson j) = .ok s) : j = .string s := by
  rw [Shape.fit.eq_def] at h
  cases j with
  | string t =>
    cases h
    rfl
  | _ => cases h

theorem Json.Canonical.of_lookup {members : List (String × Json)}
    (h : (Json.object members).Canonical) {key : String} {j : Json}
    (found : members.lookup key = some j) : j.Canonical :=
  canonicalMembers_iff.1 h.2 _ ((Keyed.lookup_eq_some_iff h.nodup_keys).1 found)

theorem Address.uprn_of_fit {members : List (String × Json)}
    (canonical : (Json.object members).Canonical) {v : (Wire.shape Address).Value}
    (fit : (Wire.shape Address).fit .tree (Draft.ofJson (.object members)) = .ok v) {j : Json}
    (found : members.lookup "uprn" = some j) : j = .string (Wire.unpack v : Address).uprn := by
  have reads := (Shape.fit_object_iff rfl (Fields.nodup_names Wire.isSound_address)
    canonical.nodup_keys).1 fit
  obtain ⟨_, _, _, _, _, _, uprn, _⟩ := v
  obtain ⟨_, _, _, _, _, _, here, _⟩ := reads
  rw [found] at here
  exact Shape.eq_string_of_fit (Shape.fit_of_takes here)

theorem CollectionCase.address_of_fit {members : List (String × Json)}
    (canonical : (Json.object members).Canonical) {v : (Wire.shape CollectionCase).Value}
    (fit : (Wire.shape CollectionCase).fit .tree (Draft.ofJson (.object members)) = .ok v)
    {j : Json} (found : members.lookup "address" = some j) : ∃ a : (Wire.shape Address).Value,
      (Wire.shape Address).fit .tree (Draft.ofJson j) = .ok a ∧
        (Wire.unpack v : CollectionCase).address = Wire.unpack a := by
  have reads := (Shape.fit_object_iff rfl (Fields.nodup_names Wire.isSound_collectionCase)
    canonical.nodup_keys).1 fit
  obtain ⟨_, _, _, _, address, _⟩ := v
  obtain ⟨_, _, _, _, here, _⟩ := reads
  rw [found] at here
  exact ⟨address, Shape.fit_of_takes here, rfl⟩

/-- A document that is read as a case is found by the number of that case only. -/
theorem CollectionCase.uprn_of_matches {d : Document} {c : CollectionCase}
    (read : Wire.ofDocument d = .ok c) {uprn : String}
    (found : Query.matchesField d.json Registry.uprnPath uprn) : c.uprn = uprn := by
  obtain ⟨j, canonical⟩ := d
  rw [Query.matchesField, fieldAt_uprnPath] at found
  split at found
  next field at_path =>
    obtain ⟨a, outer, inner⟩ := Option.bind_eq_some_iff.1 at_path
    obtain ⟨members, rfl, address⟩ := Json.get?_eq_some outer
    obtain ⟨lines, rfl, number⟩ := Json.get?_eq_some inner
    rw [Wire.ofDocument, Wire.ofJson, Shape.ofJson] at read
    cases fit : (Wire.shape CollectionCase).fit .tree (Draft.ofJson (.object members)) with
    | error m => simp [fit, bind, Except.bind] at read
    | ok v =>
      simp only [fit, bind, Except.bind] at read
      cases read
      obtain ⟨w, fits, eq⟩ := address_of_fit canonical fit address
      have text := Address.uprn_of_fit (canonical.of_lookup address) fits number
      rw [text] at found
      have same : (Wire.unpack w : Address).uprn = uprn := by simpa [Query.textOf?] using found
      rw [CollectionCase.uprn, eq, same]
  next => cases found

end CensusLink
