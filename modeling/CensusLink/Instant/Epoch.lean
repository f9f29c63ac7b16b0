import CensusLink.Instant.Basic

/-!
Times counted from the first moment of 1970 on, as dates of the calendar. A year is taken to begin
in March, so that the odd day of a leap year comes last, and 400 years make an era of equal length.
-/
namespace CensusLink.Civil

/-- The date of a day counted from the first of March of the year zero. -/
def ofDay (day second nano : Nat) : Civil :=
  let era := day / 146097
  let ofEra := day % 146097
  let year := (ofEra - ofEra / 1460 + ofEra / 36524 - ofEra / 146096) / 365
  let ofYear := ofEra - (365 * year + year / 4 - year / 100)
  let month := (5 * ofYear + 2) / 153
  let day := ofYear - (153 * month + 2) / 5 + 1
  if month < 10 then ⟨(era * 400 + year : Nat), month + 3, day, second, nano⟩
  else ⟨(era * 400 + year + 1 : Nat), month - 9, day, second, nano⟩

/-- The date and time so many nanoseconds after the beginning of 1970. -/
def ofNanoseconds (n : Nat) : Civil :=
  let seconds := n / 1000000000
  ofDay (seconds / 86400 + 719468) (seconds % 86400) (n % 1000000000)

end CensusLink.Civil
