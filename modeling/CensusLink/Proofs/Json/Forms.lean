import CensusLink.Event.Payload
import CensusLink.Linking.Request
import CensusLink.Linking.View
import CensusLink.Proofs.Instant.Form
import CensusLink.Proofs.Instant.Moment
import CensusLink.Proofs.Json.Height
import CensusLink.Proofs.Json.RoundTrip
import CensusLink.Proofs.Uuid.Form

/-!
The forms in which values are kept and sent: as a JSON value, on one line, and over several lines.
A line is read as the value it was written from, by the same account of spellings as the text over
several lines. So whatever has a sound and plain shape is read back from each of its forms, with
the members of its objects in declared order or in the order of their names.
-/
namespace CensusLink

namespace Json

theorem ends_writeItems (items : List Json) (rest : List Char) :
    Numeral.Ends (writeItems items rest) := by
  cases items <;> exact Numeral.ends_cons (by decide) _

theorem ends_writeMembers (members : List (String × Json)) (rest : List Char) :
    Numeral.Ends (writeMembers members rest) := by
  cases members <;> exact Numeral.ends_cons (by decide) _

mutual
/-- What is written on one line spells the value. -/
theorem spells_write : ∀ {j : Json} {rest : List Char}, j.isExact → Numeral.Ends rest →
    j.Spells (j.write rest) rest
  | .null, _, _, _ => rfl
  | .bool true, _, _, _ => rfl
  | .bool false, _, _, _ => rfl
  | .number (.whole n _), rest, _, ends => ⟨skipBlanks_toString n rest, ends⟩
  | .string _, _, _, _ => rfl
  | .array [], _, _, _ => ⟨_, rfl, rfl⟩
  | .array (j :: items), rest, exact, _ => by
    obtain ⟨item, others⟩ := Bool.and_eq_true_iff.1 exact
    exact ⟨_, _, rfl, spells_write item (ends_writeItems items rest), spells_writeItems others⟩
  | .object [], _, _, _ => ⟨_, rfl, rfl⟩
  | .object ((k, j) :: members), rest, exact, _ => by
    obtain ⟨value, others⟩ := Bool.and_eq_true_iff.1 exact
    exact ⟨_, _, _, _, rfl, rfl, rfl, spells_write value (ends_writeMembers members rest),
      spells_writeMembers others⟩

theorem spells_writeItems : ∀ {items : List Json} {rest : List Char}, isExactItems items →
    SpellsItems items (writeItems items rest) rest
  | [], _, _ => rfl
  | j :: items, rest, exact => by
    obtain ⟨item, others⟩ := Bool.and_eq_true_iff.1 exact
    exact ⟨_, _, rfl, spells_write item (ends_writeItems items rest), spells_writeItems others⟩

theorem spells_writeMembers : ∀ {members : List (String × Json)} {rest : List Char},
    isExactMembers members → SpellsMembers members (writeMembers members rest) rest
  | [], _, _ => rfl
  | (k, j) :: members, rest, exact => by
    obtain ⟨value, others⟩ := Bool.and_eq_true_iff.1 exact
    exact ⟨_, _, _, _, rfl, rfl, rfl, spells_write value (ends_writeMembers members rest),
      spells_writeMembers others⟩
end

theorem ofText_compact {j : Json} (exact : j.isExact) :
    Draft.ofText j.compact.toList = (Draft.ofJson j, some []) := by
  rw [compact, String.toList_ofList]
  exact Draft.ofText_of_spells (spells_write exact Numeral.ends_nil)

end Json

/-- How a JSON value is handed over. -/
inductive Medium
  | value
  | compact
  | pretty

namespace Wire

section Packed

variable {α : Type} [Packed α]

/-- What is read from a JSON value that is handed over. -/
def reread (m : Medium) (j : Json) : Except Misfit α :=
  match m with
  | .value => ofJson j
  | .compact => ofText j.compact
  | .pretty => ofText j.pretty

/-- What is kept of a value of a sound shape is read from each form of what it writes, with the
members of its objects in any order, if that has whole numbers only and no more levels than a text
may have. -/
theorem reread_eq {form : Json → Json} (rearranges : Json.Rearranges form)
    (sound : (shape α).isSound) {a : α} (exact : (form (toJson a)).isExact)
    (levels : (form (toJson a)).depth < Json.roomOfText) (m : Medium) :
    reread m (form (toJson a)) = .ok (kept a) := by
  cases m with
  | value =>
    have fit : (shape α).ofJson (form (toJson a)) = .ok (pack a) :=
      Shape.fit_write rearranges sound (pack a) (Origin.holds_of_memory rfl _)
    rw [reread, ofJson, fit]
    rfl
  | compact => exact ofText_of_draft rearranges sound levels (Json.ofText_compact exact)
  | pretty => exact ofText_of_draft rearranges sound levels (Json.ofText_pretty exact)

/-- A shape whose values can be read from each form of what they write. -/
structure Readable (s : Shape) : Prop where
  sound : s.isSound
  plain : s.isPlain
  low : s.height < Json.roomOfText

instance (s : Shape) : Decidable (Readable s) :=
  decidable_of_iff (s.isSound ∧ s.isPlain ∧ s.height < Json.roomOfText)
    ⟨fun ⟨sound, plain, low⟩ => ⟨sound, plain, low⟩, fun ⟨sound, plain, low⟩ => ⟨sound, plain, low⟩⟩

theorem Readable.reread (readable : Readable (shape α)) (a : α) (m : Medium) :
    Wire.reread m (toJson a) = .ok (kept a) ∧ Wire.reread m (toDocument a).json = .ok (kept a) := by
  obtain ⟨sound, plain, low⟩ := readable
  obtain ⟨exact, le⟩ := (shape α).write_of_isPlain plain (pack a)
  obtain ⟨exact', le'⟩ := toDocument_of_isPlain plain a
  constructor
  · exact reread_eq Json.rearranges_id sound exact (Nat.lt_of_le_of_lt le low) m
  · exact reread_eq Json.rearranges_canonical sound exact' (Nat.lt_of_le_of_lt le' low) m

end Packed

section Times

/-! What is kept of a value with moments in it. -/

end Times

end Wire
end CensusLink
