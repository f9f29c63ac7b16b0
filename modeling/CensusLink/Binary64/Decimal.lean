import CensusLink.Binary64.Basic

/-!
Decimal texts of binary numbers: the fewest digits that read back as the number, of those the ones
nearest to it, chosen and laid out by a record of the format's choices.
-/
namespace CensusLink

/-- A whole number of powers of ten. -/
structure Decimal where
  digits : Nat
  exponent : Int
  deriving DecidableEq, Repr

/-- Which one is taken of two decimals that are equally near. -/
inductive Tie
  | toEven
  | up
  deriving DecidableEq, Repr

/-- Where a number is written out in places, how a whole number is marked, and how ties go. -/
structure DecimalLayout where
  leastPoint : Option Int
  greatestPoint : Option Int
  wholeMark : String
  tie : Tie

namespace Decimal

/-- The quotient of whole numbers that a decimal stands for. -/
def ratio (d : Decimal) : Nat × Nat :=
  if 0 ≤ d.exponent then (d.digits * Nat.pow 10 d.exponent.toNat, 1)
  else (d.digits, Nat.pow 10 (-d.exponent).toNat)

def dropZeros : Nat → Decimal → Decimal
  | 0, d => d
  | steps + 1, d =>
    if d.digits % 10 = 0 then dropZeros steps ⟨d.digits / 10, d.exponent + 1⟩ else d

/-- How many places of ten a number of units has before the point, less one for each zero
right after it. -/
def pointOf (units : Nat) : Int :=
  if Binary64.scale ≤ units then (Nat.toDigits 10 (units / Binary64.scale)).length
  else -(leadingZeros 330 (units * 10) : Nat)
where
  leadingZeros : Nat → Nat → Nat
    | 0, _ => 0
    | steps + 1, u => if Binary64.scale ≤ u then 0 else leadingZeros steps (u * 10) + 1

/-- Whether a decimal reads back as the number of these units: it lies between the midpoints to
the two neighbours, and on one only when the last bit is even. -/
def readsAs (units : Nat) (d : Decimal) : Bool :=
  let step := Nat.pow 2 (Binary64.lowBits units)
  let below := if units = Nat.pow 2 units.log2 && 1 < step then step else 2 * step
  let (num, den) := d.ratio
  let here := num * 4 * Binary64.scale
  let low := (4 * units - below) * den
  let high := (4 * units + 2 * step) * den
  if units / step % 2 = 0 then low ≤ here && here ≤ high else low < here && here < high

/-- Whether the lower one of two neighbours is to be taken for so many units. -/
def takesLow (tie : Tie) (units : Nat) (low high : Decimal) : Bool :=
  let gap (d : Decimal) : Nat :=
    let (num, den) := d.ratio
    ((num * Binary64.scale : Nat) - (units * den : Nat) : Int).natAbs
  gap low < gap high || (gap low == gap high && tie == .toEven && low.digits % 2 == 0)

/-- The better of the two neighbours on the grid with this many digits, if one reads back. -/
def onGrid (tie : Tie) (units count : Nat) : Option Decimal :=
  let exponent := pointOf units - count
  let (num, den) := ratio ⟨1, exponent⟩
  let q := units * den / (num * Binary64.scale)
  let low : Decimal := ⟨q, exponent⟩
  let high : Decimal := ⟨q + 1, exponent⟩
  match readsAs units low, readsAs units high with
  | true, true => some (if takesLow tie units low high then low else high)
  | true, false => some low
  | false, true => some high
  | false, false => none

/-- The shortest decimal that reads back as a positive number of units. -/
def shortest (tie : Tie) (units : Nat) : Decimal :=
  dropZeros 20 (((List.range' 1 17).findSome? (onGrid tie units)).getD ⟨0, 0⟩)

/-- Digits with a point at the place given, counted from the left end. -/
def placed (digits : List Char) (point : Int) (wholeMark : List Char) : List Char :=
  let n : Int := digits.length
  if n ≤ point then digits ++ List.replicate (point - n).toNat '0' ++ wholeMark
  else if 0 < point then digits.take point.toNat ++ '.' :: digits.drop point.toNat
  else '0' :: '.' :: List.replicate (-point).toNat '0' ++ digits

/-- One digit before the point, and the exponent with its sign. -/
def scientific (digits : List Char) (point : Int) : List Char :=
  let e := point - 1
  let tail := match digits with
    | [d] => [d]
    | d :: ds => d :: '.' :: ds
    | [] => []
  tail ++ 'e' :: (if e < 0 then '-' else '+') :: Nat.toDigits 10 e.natAbs

def layOut (layout : DecimalLayout) (d : Decimal) : List Char :=
  let digits := Nat.toDigits 10 d.digits
  let point : Int := digits.length + d.exponent
  if (layout.leastPoint.all (· ≤ point)) && (layout.greatestPoint.all (point ≤ ·)) then
    placed digits point layout.wholeMark.toList
  else scientific digits point

end Decimal

namespace Binary64

def magnitude (layout : DecimalLayout) (units : Nat) : List Char :=
  if units = 0 then '0' :: layout.wholeMark.toList
  else (Decimal.shortest layout.tie units).layOut layout

def write (layout : DecimalLayout) : Binary64 → List Char
  | .finite s u => (if s then ['-'] else []) ++ magnitude layout u
  | .infinite s => (if s then ['-'] else []) ++ ['i', 'n', 'f']
  | .nan => ['N', 'a', 'N']

/-- Every place written out, a whole number without a point; ties go up. -/
def plain : DecimalLayout := ⟨none, none, "", .up⟩

/-- The text of a number on its own. -/
def text (x : Binary64) : String := String.ofList (x.write plain)

end Binary64
end CensusLink
