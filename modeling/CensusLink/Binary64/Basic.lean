/-!
Binary floating point numbers of 64 bits. A finite number is a sign and a whole number of units of
2^-1074, so comparing two of them compares natural numbers, and every operation is an exact one
followed by one rounding to 53 bits, halves to even.
-/
namespace CensusLink

inductive Binary64
  | finite (negative : Bool) (units : Nat)
  | infinite (negative : Bool)
  | nan
  deriving DecidableEq, Repr

namespace Binary64

/-- The units in one. -/
def scale : Nat := Nat.pow 2 1074

/-- The first number of units too large to be finite: 2^1024. -/
def ceiling : Nat := Nat.pow 2 2098

/-- The whole number nearest to a quotient, of two the even one. -/
def nearest (num den : Nat) : Nat :=
  let q := num / den
  let r := num % den
  if 2 * r < den then q
  else if den < 2 * r then q + 1
  else q + q % 2

/-- How many bits of a whole number lie below its 53 highest. -/
def lowBits (n : Nat) : Nat := n.log2 - 52

/-- The units of the number nearest to a quotient of units. -/
def roundUnits (num den : Nat) : Nat :=
  let step := Nat.pow 2 (lowBits (num / den))
  nearest num (den * step) * step

def ofUnits (negative : Bool) (num den : Nat) : Binary64 :=
  let units := roundUnits num den
  if units < ceiling then .finite negative units else .infinite negative

/-- The number nearest to a quotient. -/
def ofRatio (negative : Bool) (num den : Nat) : Binary64 := ofUnits negative (num * scale) den

def ofNat (n : Nat) : Binary64 := ofRatio false n 1

def ofInt (n : Int) : Binary64 := ofRatio (n < 0) n.natAbs 1

def one : Binary64 := .finite false scale

def zero : Binary64 := .finite false 0

def isNaN : Binary64 → Bool
  | .nan => true
  | _ => false

def isZero : Binary64 → Bool
  | .finite _ 0 => true
  | _ => false

def neg : Binary64 → Binary64
  | .finite s u => .finite (!s) u
  | .infinite s => .infinite (!s)
  | .nan => .nan

def mul : Binary64 → Binary64 → Binary64
  | .nan, _ => .nan
  | _, .nan => .nan
  | .finite s u, .finite t v => ofUnits (s != t) (u * v) scale
  | .finite s u, .infinite t => if u = 0 then .nan else .infinite (s != t)
  | .infinite s, .finite t v => if v = 0 then .nan else .infinite (s != t)
  | .infinite s, .infinite t => .infinite (s != t)

def div : Binary64 → Binary64 → Binary64
  | .nan, _ => .nan
  | _, .nan => .nan
  | .finite s u, .finite t v =>
    if v = 0 then (if u = 0 then .nan else .infinite (s != t))
    else ofUnits (s != t) (u * scale) v
  | .finite s _, .infinite t => .finite (s != t) 0
  | .infinite s, .finite t _ => .infinite (s != t)
  | .infinite _, .infinite _ => .nan

def signedUnits (negative : Bool) (units : Nat) : Int := if negative then -units else units

/-- The order of numbers; what is not a number is below nothing and above nothing. -/
def lt : Binary64 → Binary64 → Bool
  | .nan, _ => false
  | _, .nan => false
  | .infinite s, .infinite t => s && !t
  | .infinite s, .finite _ _ => s
  | .finite _ _, .infinite t => !t
  | .finite s u, .finite t v => decide (signedUnits s u < signedUnits t v)

/-- The smaller of two; what is not a number gives way to the other. -/
def min (x y : Binary64) : Binary64 :=
  if x.isNaN then y else if y.isNaN then x else if lt y x then y else x

/-- The larger of two; what is not a number gives way to the other. -/
def max (x y : Binary64) : Binary64 :=
  if x.isNaN then y else if y.isNaN then x else if lt x y then y else x

/-- Square and multiply from the low bit of the exponent up. -/
def powFrom : Nat → Binary64 → Binary64 → Nat → Binary64
  | 0, acc, _, _ => acc
  | steps + 1, acc, base, n =>
    let acc := if n % 2 = 1 then mul acc base else acc
    if n / 2 = 0 then acc else powFrom steps acc (mul base base) (n / 2)

def pow (base : Binary64) (n : Nat) : Binary64 := powFrom (n.log2 + 1) one base n

/-- The whole part, held between zero and a limit. -/
def toNatUpTo (limit : Nat) : Binary64 → Nat
  | .finite false u => Nat.min (u / scale) limit
  | .infinite false => limit
  | _ => 0

end Binary64
end CensusLink
