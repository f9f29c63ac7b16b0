import CensusLink.Text.Bytes
import CensusLink.Text.Hex

/-!
Universally unique identifiers: 128 bits, written as thirty-two hexadecimal digits in five groups.
They are read with or without the hyphens, and with them also in braces or behind `urn:uuid:`, the
letters of which may be capitals.
-/
namespace CensusLink

structure Uuid where
  value : Nat
  fits : value < 340282366920938463463374607431768211456
  deriving DecidableEq, Repr

namespace Uuid

inductive ReadError
  | character (c : Char) (index : Nat)
  | length (found : Nat)
  | groupCount (found : Nat)
  | groupLength (group found : Nat)
  deriving DecidableEq, Repr

/-- How many digits each group has. -/
def groupLengths : List Nat := [8, 4, 4, 4, 12]

/-- Where each hyphen stands, and what comes right behind the last. -/
def hyphenPlaces : List Nat := [8, 13, 18, 23]

def ReadError.reason : ReadError → String
  | .character c index => "invalid character: found `" ++ c.toString ++ "` at " ++ toString index
  | .length found => "invalid length: found " ++ toString found
  | .groupCount found => "invalid group count: expected 5, found " ++ toString found
  | .groupLength group found =>
    "invalid group length in group " ++ toString group ++ ": expected " ++
      toString (groupLengths.getD group 0) ++ ", found " ++ toString found

def ReadError.message (e : ReadError) : String := "UUID parsing failed: " ++ e.reason

def digits (u : Uuid) : List Char := Text.hexDigits 32 u.value

/-- Thirty-two characters in their five groups. -/
def grouped (cs : List Char) : List Char :=
  cs.take 8 ++ '-' :: (cs.drop 8).take 4 ++ '-' :: (cs.drop 12).take 4 ++
    '-' :: (cs.drop 16).take 4 ++ '-' :: cs.drop 20

def text (u : Uuid) : String := String.ofList (grouped u.digits)

/-- The digits of five groups, if the hyphens stand in their places. -/
def ungrouped (cs : List Char) : Option (List Char) :=
  if cs.length == 36 && hyphenPlaces.all (cs[·]? == some '-') then
    some (cs.take 8 ++ (cs.drop 9).take 4 ++ (cs.drop 14).take 4 ++ (cs.drop 19).take 4 ++
      cs.drop 24)
  else none

def ofDigits (cs : List Char) : Option Uuid := do
  let n ← Text.appendHex 0 cs
  if h : n < 340282366920938463463374607431768211456 then some ⟨n, h⟩ else none

/-- What stands inside braces, if anything does. -/
def inBraces (cs : List Char) : Option (List Char) :=
  match cs with
  | '{' :: rest => if rest.getLast? == some '}' then some rest.dropLast else none
  | _ => none

def urn : List Char := "urn:uuid:".toList

def afterUrn (cs : List Char) : Option (List Char) :=
  if (cs.take urn.length).map Char.toLower = urn then some (cs.drop urn.length) else none

/-- What should be five groups in a text of this length. -/
def groups? (cs : List Char) : Option (List Char) :=
  match Text.byteCount cs with
  | 36 => some cs
  | 38 => inBraces cs
  | 45 => afterUrn cs
  | _ => none

/-- The forms that are accepted, told apart by their lengths. -/
def read? (cs : List Char) : Option Uuid :=
  if Text.byteCount cs = 32 then ofDigits cs
  else do ofDigits (← ungrouped (← groups? cs))

/-- The most bytes that a form has. -/
def longest : Nat := 45

/-- What stands inside a wrapping, and how many characters come before it. -/
def unwrapped? (cs : List Char) : Option (List Char × Nat) :=
  (inBraces cs).map (·, 1) <|> (afterUrn cs).map (·, urn.length)

/-- The first character that is neither digit nor hyphen, its index counted from this one on. -/
def strayIn (cs : List Char) (start : Nat) : Option ReadError :=
  (cs.zipIdx start).findSome? fun (c, index) =>
    if c == '-' || (Text.hexValue? c).isSome then none else some (.character c index)

def hyphens (cs : List Char) : List Nat := (cs.zipIdx.filter fun (c, _) => c == '-').map (·.2)

/-- What is wrong with groups that are digits, in a text of so many characters. -/
def explainGroups (total : Nat) (cs : List Char) : ReadError :=
  let found := hyphens cs
  if found.length ≠ 4 then .groupCount (found.length + 1)
  else
    let starts := [0, 9, 14, 19]
    match ((found.zip hyphenPlaces).zip starts).zipIdx.find? fun (((h, p), _), _) => h != p with
    | some (((h, _), start), group) => .groupLength group (h - start)
    | none => .groupLength 4 (total - 24)

/-- Why a text is none of the forms. One as long as five groups are with their wrapping is explained
by what stands for the groups, and any other one as a whole, in which a wrapping is passed over. -/
def explain (cs : List Char) : ReadError :=
  let total := Text.byteCount cs
  if longest < total then .length total
  else
    match groups? cs, unwrapped? cs with
    | some groups, _ => (strayIn groups 0).getD (explainGroups total groups)
    | none, some (inner, start) => (strayIn inner start).getD (explainGroups total inner)
    | none, none =>
      (strayIn cs 0).getD (if hyphens cs = [] then .length total else explainGroups total cs)

def ofText (s : String) : Except ReadError Uuid :=
  match read? s.toList with
  | some u => .ok u
  | none => .error (explain s.toList)

/-- A random identifier: digits of random numbers, but for the digit four in front of the third
group and two bits in front of the fourth. -/
def ofRandom (high mid low : Nat) : Uuid where
  value := ((high % 281474976710656 * 16 + 4) * 4096 + mid % 4096) * 18446744073709551616 +
    9223372036854775808 + low % 4611686018427387904
  fits := by omega

end Uuid
end CensusLink
