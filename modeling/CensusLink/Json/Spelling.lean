import CensusLink.Json.Basic
import CensusLink.Json.Flaw
import CensusLink.Text.Bytes
import CensusLink.Text.Hex

/-!
Strings as a JSON text spells them between quotes. A code point above the first plane may be
spelled as two halves; a half on its own makes the string unusable, but the text behind it can
still be read.
-/
namespace CensusLink

/-- A string read up to some place. The characters stand last first; `lead` is a first half that
waits for its second, and `flaw` the first thing found wrong. -/
structure Spelling where
  reversed : List Char
  lead : Option Nat
  flaw : Option Flaw

namespace Spelling

def empty : Spelling := ⟨[], none, none⟩

def spoil (s : Spelling) (f : Flaw) : Spelling := { s with lead := none, flaw := s.flaw <|> some f }

/-- Gives up a first half whose second does not follow. -/
def settle (s : Spelling) : Spelling :=
  match s.lead with
  | some _ => s.spoil .cutSurrogatePair
  | none => s

def push (s : Spelling) (c : Char) : Spelling :=
  let s := s.settle
  { s with reversed := c :: s.reversed }

def isLead (n : Nat) : Bool := 0xD800 ≤ n && n < 0xDC00

def isTrail (n : Nat) : Bool := 0xDC00 ≤ n && n < 0xE000

/-- The code point of two halves. -/
def joined (lead trail : Nat) : Char :=
  Char.ofNat (0x10000 + (lead - 0xD800) * 0x400 + (trail - 0xDC00))

/-- Takes in a code unit spelled as a number. -/
def unit (s : Spelling) (n : Nat) : Spelling :=
  match s.lead with
  | some lead =>
    if isTrail n then { s with lead := none, reversed := joined lead n :: s.reversed }
    else s.spoil .unpairedSurrogate
  | none =>
    if isLead n then { s with lead := some n }
    else if isTrail n then s.spoil .unpairedSurrogate
    else s.push (Char.ofNat n)

def text (s : Spelling) : Except Flaw String :=
  match s.settle.flaw with
  | some f => .error f
  | none => .ok (String.ofList s.reversed.reverse)

/-- Ends the reading; what was found wrong before comes first when the string is wanted. -/
def stop (s : Spelling) (f : Flaw) : Break := ⟨s.flaw.getD f, f⟩

/-- What a character stands for behind a backslash. -/
def escaped? (c : Char) : Option Char :=
  match c with
  | '"' => some '"'
  | '\\' => some '\\'
  | '/' => some '/'
  | 'b' => some '\x08'
  | 'f' => some '\x0c'
  | 'n' => some '\n'
  | 'r' => some '\r'
  | 't' => some '\t'
  | _ => none

/-- Fewer than four digits follow: the text ends if it has no four bytes left. -/
def shortUnit (cs : List Char) : Flaw :=
  if 4 ≤ Text.byteCount cs then .badEscape else .endInString

/-- A string up to its closing quote, and the text behind it. -/
def read : List Char → Spelling → Except Break (Except Flaw String × List Char)
  | [], s => .error (s.stop .endInString)
  | '"' :: rest, s => .ok (s.text, rest)
  | '\\' :: 'u' :: a :: b :: c :: d :: rest, s =>
    match Text.appendHex 0 [a, b, c, d] with
    | some n => read rest (s.unit n)
    | none => .error (s.stop .badEscape)
  | '\\' :: 'u' :: rest, s => .error (s.stop (shortUnit rest))
  | '\\' :: c :: rest, s =>
    match escaped? c with
    | some c => read rest (s.push c)
    | none => .error (s.settle.stop .badEscape)
  | ['\\'], s => .error (s.stop .endInString)
  | c :: rest, s =>
    if c.toNat < 0x20 then .error (s.settle.stop .controlCharacter) else read rest (s.push c)

end Spelling
end CensusLink
