import CensusLink.Instant.Basic
import Mathlib.Order.Basic

/-!
Instants in the order of time. The days of the calendar are counted from the first day of the year
one, each day by one more than the day before it, and the seconds by the day they are in. That the
fields of two instants, compared from the year down, are in the order of the seconds counted so is
the main statement. A leap second comes after the second that it is added to and before the next.
-/
namespace CensusLink

namespace Calendar

/-- The days of the years from the year one to the one before a year. -/
def daysOfYearsBefore (year : Int) : Int :=
  365 * (year - 1) + (year - 1) / 4 - (year - 1) / 100 + (year - 1) / 400

/-- The days of the first months of a year. -/
def daysOfMonths (year : Int) : Nat → Nat
  | 0 => 0
  | m + 1 => daysOfMonths year m + daysIn year (m + 1)

def yearLength (year : Int) : Nat := if isLeapYear year then 366 else 365

theorem daysOfMonths_twelve (year : Int) : daysOfMonths year 12 = yearLength year := by
  simp only [daysOfMonths, daysIn, yearLength]
  cases isLeapYear year <;> rfl

theorem isLeapYear_iff {year : Int} :
    isLeapYear year ↔ year % 4 = 0 ∧ (year % 100 ≠ 0 ∨ year % 400 = 0) := by
  simp [isLeapYear]

theorem daysOfYearsBefore_succ (year : Int) :
    daysOfYearsBefore (year + 1) = daysOfYearsBefore year + yearLength year := by
  rw [daysOfYearsBefore, daysOfYearsBefore, yearLength]
  split
  next leap =>
    have := isLeapYear_iff.1 leap
    omega
  next common =>
    have := mt isLeapYear_iff.2 common
    omega

theorem daysOfYearsBefore_mono {year later : Int} (le : year ≤ later) :
    daysOfYearsBefore year ≤ daysOfYearsBefore later := by
  rcases Int.lt_or_eq_of_le le with lt | rfl
  · rw [daysOfYearsBefore, daysOfYearsBefore]
    omega
  · exact Int.le_refl _

theorem daysOfMonths_mono (year : Int) {m n : Nat} (le : m ≤ n) :
    daysOfMonths year m ≤ daysOfMonths year n := by
  induction le with
  | refl => exact Nat.le_refl _
  | step _ ih => exact Nat.le_trans ih (Nat.le_add_right _ _)

end Calendar

namespace Civil

open Calendar

/-- The number of a day, where the first day of the year one has the number one. -/
def dayNumber (c : Civil) : Int :=
  daysOfYearsBefore c.year + daysOfMonths c.year (c.month - 1) + c.day

variable {c d : Civil}

/-- A day of a year comes before its next month. -/
theorem Dated.day_le (dated : c.Dated) :
    daysOfMonths c.year (c.month - 1) + c.day ≤ daysOfMonths c.year c.month := by
  obtain ⟨_, _, low, _, _, high, _⟩ := dated
  obtain ⟨m, eq⟩ : ∃ m, c.month = m + 1 := ⟨c.month - 1, by omega⟩
  rw [eq] at high ⊢
  exact Nat.add_le_add_left high _

/-- The day after has the next number. -/
theorem dayNumber_nextDay (dated : c.Dated) : c.nextDay.dayNumber = c.dayNumber + 1 := by
  obtain ⟨_, _, low, high, _, inside, _⟩ := dated
  obtain ⟨m, eq⟩ : ∃ m, c.month = m + 1 := ⟨c.month - 1, by omega⟩
  have month : daysOfMonths c.year (m + 1) = daysOfMonths c.year m + daysIn c.year (m + 1) := rfl
  rw [eq] at inside high
  rw [nextDay, eq]
  split
  next =>
    simp only [dayNumber, eq]
    omega
  next last =>
    split
    next =>
      simp only [dayNumber, eq, Nat.add_sub_cancel, month]
      omega
    next =>
      obtain rfl : m = 11 := by omega
      have year := daysOfYearsBefore_succ c.year
      have whole : daysOfMonths c.year (11 + 1) = yearLength c.year := daysOfMonths_twelve c.year
      have first : daysOfMonths (c.year + 1) (1 - 1) = 0 := rfl
      simp only [dayNumber, eq, Nat.add_sub_cancel]
      omega

/-- A date that comes first by year, month and day has the smaller number. -/
theorem dayNumber_lt (dated : c.Dated) (dated' : d.Dated)
    (first : c.year < d.year ∨ c.year = d.year ∧
      (c.month < d.month ∨ c.month = d.month ∧ c.day < d.day)) : c.dayNumber < d.dayNumber := by
  have here := dated.day_le
  have positive : 1 ≤ d.day := dated'.2.2.2.2.1
  rw [dayNumber, dayNumber]
  rcases first with year | ⟨year, month | ⟨month, day⟩⟩
  · have inYear := daysOfMonths_mono c.year dated.2.2.2.1
    rw [daysOfMonths_twelve] at inYear
    have later := daysOfYearsBefore_mono (Int.add_one_le_of_lt year)
    rw [daysOfYearsBefore_succ] at later
    omega
  · have later := daysOfMonths_mono c.year (Nat.le_sub_one_of_lt month)
    rw [← year]
    omega
  · rw [← year, ← month]
    omega

end Civil
namespace Instant

/-- The number of a second, counted through all days up to the one that it is in. -/
def seconds (t : Instant) : Int := t.civil.dayNumber * 86400 + t.civil.second

/-- Earlier in time: in an earlier second, or in the same second before it. -/
def Precedes (s t : Instant) : Prop :=
  s.seconds < t.seconds ∨ s.seconds = t.seconds ∧ s.civil.nano < t.civil.nano

variable {s t : Instant}

theorem Precedes.asymm (h : s.Precedes t) : ¬ t.Precedes s := by
  unfold Precedes at *
  omega

theorem not_precedes_self (t : Instant) : ¬ t.Precedes t := fun h => h.asymm h

theorem key_injective (same : s.key = t.key) : s = t := by
  obtain ⟨⟨year, month, day, second, nano⟩, valid⟩ := s
  obtain ⟨⟨year', month', day', second', nano'⟩, valid'⟩ := t
  simp only [key, List.cons.injEq, Int.natCast_inj, and_true] at same
  obtain ⟨rfl, rfl, rfl, rfl, rfl⟩ := same
  rfl

theorem precedes_of_key_lt (h : s.key < t.key) : s.Precedes t := by
  simp only [key, List.cons_lt_cons_iff, Int.ofNat_lt, Int.natCast_inj, List.not_lt_nil, and_false,
    or_false] at h
  have below : s.civil.second < 86400 := s.valid.1.2.2.2.2.2.2.1
  unfold Precedes seconds
  by_cases same : s.civil.year = t.civil.year ∧ s.civil.month = t.civil.month ∧
      s.civil.day = t.civil.day
  · obtain ⟨year, month, day⟩ := same
    have number : s.civil.dayNumber = t.civil.dayNumber := by
      rw [Civil.dayNumber, Civil.dayNumber, year, month, day]
    omega
  · have earlier := Civil.dayNumber_lt s.valid.1 t.valid.1 (by omega)
    omega

/-- Fields are compared as instants are in time. -/
theorem precedes_iff : s.Precedes t ↔ s.key < t.key := by
  refine ⟨fun h => ?_, precedes_of_key_lt⟩
  by_contra notBefore
  by_cases after : t.key < s.key
  · exact h.asymm (precedes_of_key_lt after)
  · have eq : s.key = t.key := List.le_antisymm (List.not_lt.1 after) (List.not_lt.1 notBefore)
    exact not_precedes_self t (key_injective eq ▸ h)

end Instant
end CensusLink
