/-!
Instants of universal time, as a calendar date and a time of day to the nanosecond. A leap second
is a second with a second billion of nanoseconds; that of an instant is the last of its minute, so
that it can be told in writing. Instants are ordered by their fields from the year down.
-/
namespace CensusLink

namespace Calendar

def isLeapYear (year : Int) : Bool := year % 4 == 0 && (year % 100 != 0 || year % 400 == 0)

def daysIn (year : Int) (month : Nat) : Nat :=
  if month = 2 then (if isLeapYear year then 29 else 28)
  else if month = 4 ∨ month = 6 ∨ month = 9 ∨ month = 11 then 30
  else 31

def firstYear : Int := -262143

def lastYear : Int := 262142

end Calendar

/-- A date and a time of day, whether or not there is such a day. -/
structure Civil where
  year : Int
  month : Nat
  day : Nat
  second : Nat
  nano : Nat
  deriving DecidableEq, Repr

namespace Civil

/-- There is such a day and such a time of it, where any second may be a leap second. -/
def Dated (c : Civil) : Prop :=
  Calendar.firstYear ≤ c.year ∧ c.year ≤ Calendar.lastYear ∧
  1 ≤ c.month ∧ c.month ≤ 12 ∧ 1 ≤ c.day ∧ c.day ≤ Calendar.daysIn c.year c.month ∧
  c.second < 86400 ∧ c.nano < 2000000000

/-- No second but the last of a minute is a leap second. -/
def Regular (c : Civil) : Prop := 1000000000 ≤ c.nano → c.second % 60 = 59

def Valid (c : Civil) : Prop := c.Dated ∧ c.Regular

instance (c : Civil) : Decidable c.Dated := by
  unfold Dated
  infer_instance

instance (c : Civil) : Decidable c.Regular := by
  unfold Regular
  infer_instance

instance (c : Civil) : Decidable c.Valid := by
  unfold Valid
  infer_instance

/-- The same time on the day after. -/
def nextDay (c : Civil) : Civil :=
  if c.day < Calendar.daysIn c.year c.month then { c with day := c.day + 1 }
  else if c.month < 12 then { c with month := c.month + 1, day := 1 }
  else { c with year := c.year + 1, month := 1, day := 1 }

/-- The same time on the day before. -/
def previousDay (c : Civil) : Civil :=
  if 1 < c.day then { c with day := c.day - 1 }
  else if 1 < c.month then
    { c with month := c.month - 1, day := Calendar.daysIn c.year (c.month - 1) }
  else { c with year := c.year - 1, month := 12, day := 31 }

/-- So many seconds earlier, or later when negative, by less than a day. -/
def earlier (c : Civil) (seconds : Int) : Civil :=
  let second : Int := c.second - seconds
  if second < 0 then { c.previousDay with second := (second + 86400).toNat }
  else if 86400 ≤ second then { c.nextDay with second := (second - 86400).toNat }
  else { c with second := second.toNat }

end Civil

structure Instant where
  civil : Civil
  valid : civil.Valid
  deriving DecidableEq

namespace Instant

def ofCivil? (c : Civil) : Option Instant := if h : c.Valid then some ⟨c, h⟩ else none

/-- The fields from the greatest to the least. -/
def key (t : Instant) : List Int :=
  [t.civil.year, t.civil.month, t.civil.day, t.civil.second, t.civil.nano]

end Instant
end CensusLink
