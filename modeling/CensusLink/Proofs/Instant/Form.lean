import CensusLink.Proofs.Instant.RoundTrip

/-!
The text of an instant, by its parts: the year with a sign unless it has four digits, month, day and
time of day with two digits each, and three, six or nine decimals, no more than hold the instant
exactly. A leap second is the sixtieth of its minute.
-/
namespace CensusLink.Instant

/-- So many decimal digits that stand for a number. -/
structure Digits (width n : Nat) (cs : List Char) : Prop where
  length : cs.length = width
  digits : ∀ c ∈ cs, c.isDigit = true
  value : digitsValue cs = n

/-- Four digits, or more if they do not begin with a zero. -/
def SpellsMany (n : Nat) (cs : List Char) : Prop :=
  ∃ width, Digits width n cs ∧ (width = 4 ∨ 4 < width ∧ 10 ^ (width - 1) ≤ n)

inductive SpellsYear : Int → List Char → Prop
  | four {year : Nat} {cs : List Char} (digits : Digits 4 year cs) : SpellsYear year cs
  | late {year : Nat} {cs : List Char} (after : 9999 < year) (digits : SpellsMany year cs) :
    SpellsYear year ('+' :: cs)
  | early {year : Nat} {cs : List Char} (before : 0 < year) (digits : SpellsMany year cs) :
    SpellsYear (-year) ('-' :: cs)

/-- Decimals of a second in groups of three, as few as hold the nanoseconds exactly. -/
inductive SpellsFraction : Nat → List Char → Prop
  | whole : SpellsFraction 0 []
  | decimals {nano width : Nat} {cs : List Char} (groups : width ∈ [3, 6, 9])
      (digits : Digits width (nano / 10 ^ (9 - width)) cs) (exact : 10 ^ (9 - width) ∣ nano)
      (fewest : ¬ 10 ^ (9 - (width - 3)) ∣ nano) :
    SpellsFraction nano ('.' :: cs)

/-- The second of the minute, which is the sixtieth in a leap second. -/
def secondOf (c : Civil) : Nat := if 1000000000 ≤ c.nano then 60 else c.second % 60

/-- A text spells an instant by its parts. -/
def Spells (t : Instant) (cs : List Char) : Prop :=
  ∃ year month day hour minute second fraction,
    cs = year ++ '-' :: (month ++ '-' :: (day ++ 'T' :: (hour ++ ':' :: (minute ++
      ':' :: (second ++ (fraction ++ ['Z'])))))) ∧
    SpellsYear t.civil.year year ∧ Digits 2 t.civil.month month ∧ Digits 2 t.civil.day day ∧
    Digits 2 (t.civil.second / 3600) hour ∧ Digits 2 (t.civil.second / 60 % 60) minute ∧
    Digits 2 (secondOf t.civil) second ∧ SpellsFraction (t.civil.nano % 1000000000) fraction

end CensusLink.Instant
