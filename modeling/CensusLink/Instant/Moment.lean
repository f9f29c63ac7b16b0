import CensusLink.Instant.Printer

/-!
Moments: all the times that a value can be given. Any second of a moment may be a leap second, but
only at the end of a minute does that have a text of its own. Elsewhere it is written as the second
that follows it, and so its text tells another instant.
-/
namespace CensusLink

namespace Civil

/-- In the second after a leap second that ends no minute. -/
def carried (c : Civil) : Civil := { c with second := c.second + 1, nano := c.nano - 1000000000 }

theorem not_regular_iff {c : Civil} :
    ¬ c.Regular ↔ 1000000000 ≤ c.nano ∧ c.second % 60 ≠ 59 := Classical.not_imp

/-- That second is of the same minute. -/
theorem Dated.valid_carried {c : Civil} (dated : c.Dated) (irregular : ¬ c.Regular) :
    c.carried.Valid := by
  obtain ⟨low, high, m1, m2, d1, d2, second, nano⟩ := dated
  obtain ⟨leap, inside⟩ := not_regular_iff.1 irregular
  have second' : c.second + 1 < 86400 := by omega
  have nano' : c.nano - 1000000000 < 2000000000 := by omega
  have early : ¬ 1000000000 ≤ c.nano - 1000000000 := by omega
  exact ⟨⟨low, high, m1, m2, d1, d2, second', nano'⟩, fun late => absurd late early⟩

end Civil

structure Moment where
  civil : Civil
  dated : civil.Dated
  deriving DecidableEq

def Instant.moment (t : Instant) : Moment := ⟨t.civil, t.valid.1⟩

namespace Moment

def text (t : Moment) : String := String.ofList (Instant.writeCivil t.civil)

/-- If the moment is in a leap second, that is the last second of its minute. -/
def Regular (t : Moment) : Prop := t.civil.Regular

instance (t : Moment) : Decidable t.Regular := inferInstanceAs (Decidable t.civil.Regular)

/-- The instant that the text of a moment tells. -/
def told (t : Moment) : Instant :=
  if regular : t.Regular then ⟨t.civil, t.dated, regular⟩
  else ⟨t.civil.carried, t.dated.valid_carried regular⟩

end Moment
end CensusLink
