import CensusLink.Json.Basic
import CensusLink.Json.Flaw
import CensusLink.Binary64.Reading

/-!
Numerals of JSON texts. A numeral without point and exponent that fits in 64 bits is a whole number.
Any other is a binary number: the digits that fit in 64 bits, scaled by powers of ten with one
rounding to a step, so its last bit can differ from that of the nearest number.
-/
namespace CensusLink

structure Numeral where
  negative : Bool
  whole : List Char
  fraction : List Char
  pointed : Bool
  exponent : Option (Bool × List Char)
  deriving DecidableEq, Repr

namespace Numeral

/-- A digit has to follow here. -/
def needDigit : List Char → Except Break Unit
  | [] => .error ⟨.endInValue, .badNumber⟩
  | c :: _ => if c.isDigit then .ok () else .error Flaw.badNumber.both

def scanWhole (cs : List Char) : Except Break (List Char × List Char) := do
  needDigit cs
  match cs with
  | '0' :: c :: rest => if c.isDigit then .error Flaw.badNumber.both else .ok (['0'], c :: rest)
  | cs => .ok (cs.takeWhile Char.isDigit, cs.dropWhile Char.isDigit)

def scanFraction : List Char → Except Break (Bool × List Char × List Char)
  | '.' :: cs => do
    needDigit cs
    .ok (true, cs.takeWhile Char.isDigit, cs.dropWhile Char.isDigit)
  | cs => .ok (false, [], cs)

def scanExponent : List Char → Except Break (Option (Bool × List Char) × List Char)
  | c :: cs =>
    if c == 'e' || c == 'E' then do
      let (negative, ds) := match cs with
        | '-' :: ds => (true, ds)
        | '+' :: ds => (false, ds)
        | ds => (false, ds)
      needDigit ds
      .ok (some (negative, ds.takeWhile Char.isDigit), ds.dropWhile Char.isDigit)
    else .ok (none, c :: cs)
  | [] => .ok (none, [])

/-- The numeral at the start of a text, and what follows it. -/
def scan (cs : List Char) : Except Break (Numeral × List Char) := do
  let (negative, cs) := match cs with
    | '-' :: cs => (true, cs)
    | cs => (false, cs)
  let (whole, cs) ← scanWhole cs
  let (pointed, fraction, cs) ← scanFraction cs
  let (exponent, cs) ← scanExponent cs
  .ok (⟨negative, whole, fraction, pointed, exponent⟩, cs)

/-- Appends digits to a number for as long as it fits in 64 bits; the other digits are left. -/
def absorb (n : Nat) : List Char → Nat × List Char
  | [] => (n, [])
  | c :: cs =>
    let next := 10 * n + Binary64.digitValue c
    if next < 18446744073709551616 then absorb next cs else (n, c :: cs)

def signed (negative : Bool) (x : Binary64) : Number := .real (if negative then x.neg else x)

/-- Divides by powers of ten in steps of at most 308 places, or until nothing is left. -/
def scaleDown : Nat → Binary64 → Nat → Binary64
  | 0, x, _ => x
  | steps + 1, x, places =>
    if places ≤ 308 then x.div (.ofNat (Nat.pow 10 places))
    else if x.isZero then x
    else scaleDown steps (x.div (.ofNat (Nat.pow 10 308))) (places - 308)

/-- Digits times a power of ten. -/
def scaled (negative : Bool) (digits : Nat) (exponent : Int) : Except Flaw Number :=
  let x := Binary64.ofNat digits
  if exponent < 0 then .ok (signed negative (scaleDown 8 x exponent.natAbs))
  else if exponent ≤ 308 then
    match x.mul (.ofNat (Nat.pow 10 exponent.toNat)) with
    | .finite s u => .ok (signed negative (.finite s u))
    | _ => .error .numberRange
  else if x.isZero then .ok (signed negative x)
  else .error .numberRange

/-- The greatest exponent that is worked out. -/
def exponentLimit : Nat := 2147483647

def wholeNumber (negative : Bool) (n : Nat) : Number :=
  if negative then
    if h : 0 < n ∧ n ≤ 9223372036854775808 then .whole (-(n : Int)) (by omega)
    else signed true (.ofNat n)
  else if h : n < 18446744073709551616 then .whole n (by omega)
  else signed false (.ofNat n)

def value (n : Numeral) : Except Flaw Number :=
  let (head, left) := absorb 0 n.whole
  let (digits, lost) := absorb head n.fraction
  let places : Int := left.length - (n.fraction.length - lost.length : Nat)
  match n.exponent with
  | none =>
    if n.pointed || !left.isEmpty then scaled n.negative digits places
    else .ok (wholeNumber n.negative digits)
  | some (negative, ds) =>
    let e := Binary64.digitsValue ds
    if exponentLimit < e then
      if digits != 0 && !negative then .error .numberRange
      else .ok (signed n.negative .zero)
    else scaled n.negative digits (if negative then places - e else places + e)

end Numeral
end CensusLink
