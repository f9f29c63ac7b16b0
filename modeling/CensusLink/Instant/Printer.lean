import CensusLink.Instant.Basic

/-!
The written form of an instant: date and time of day in universal time, with as few groups of three
decimals as hold it exactly. A year that has not four digits carries its sign.
-/
namespace CensusLink.Instant

/-- Decimal digits with zeros in front, up to a width. -/
def padded (width n : Nat) : List Char :=
  let digits := Nat.toDigits 10 n
  List.replicate (width - digits.length) '0' ++ digits

def writeYear (year : Int) : List Char :=
  if 0 ≤ year ∧ year ≤ 9999 then padded 4 year.toNat
  else (if year < 0 then '-' else '+') :: padded 4 year.natAbs

def writeFraction (nano : Nat) : List Char :=
  if nano = 0 then []
  else if nano % 1000000 = 0 then '.' :: padded 3 (nano / 1000000)
  else if nano % 1000 = 0 then '.' :: padded 6 (nano / 1000)
  else '.' :: padded 9 nano

/-- The leap second of a minute is written as its second sixty. -/
def writeCivil (c : Civil) : List Char :=
  let leap := c.nano / 1000000000
  writeYear c.year ++ '-' :: padded 2 c.month ++ '-' :: padded 2 c.day ++
    'T' :: padded 2 (c.second / 3600) ++ ':' :: padded 2 (c.second / 60 % 60) ++
    ':' :: padded 2 (c.second % 60 + leap) ++ writeFraction (c.nano % 1000000000) ++ ['Z']

def write (t : Instant) : List Char := writeCivil t.civil

def text (t : Instant) : String := String.ofList t.write

end CensusLink.Instant
