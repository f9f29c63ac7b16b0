/-!
Hexadecimal digits, written in lower case and read in either.
-/
namespace CensusLink.Text

def hexDigit (n : Nat) : Char := if n < 10 then Char.ofNat (48 + n) else Char.ofNat (87 + n)

def hexValue? (c : Char) : Option Nat :=
  if c.isDigit then some (c.toNat - 48)
  else if 'a' ≤ c && c ≤ 'f' then some (c.toNat - 87)
  else if 'A' ≤ c && c ≤ 'F' then some (c.toNat - 55)
  else none

/-- The last so many hexadecimal digits of a number. -/
def hexDigits : Nat → Nat → List Char
  | 0, _ => []
  | count + 1, n => hexDigits count (n / 16) ++ [hexDigit (n % 16)]

/-- The number that follows another when digits are appended to it. -/
def appendHex : Nat → List Char → Option Nat
  | n, [] => some n
  | n, c :: cs => do
    let d ← hexValue? c
    appendHex (16 * n + d) cs

end CensusLink.Text
