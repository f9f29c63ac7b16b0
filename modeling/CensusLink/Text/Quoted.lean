import CensusLink.Text.Hex
import CensusLink.Text.Lowercase
import CensusLink.Text.PrintTable

/-!
Texts quoted for a message: a backslash form for quotes, backslashes and the usual controls, a
number in braces for what is not seen or would extend the character before it.
-/
namespace CensusLink.Text

/-- The code point in hexadecimal, in braces. -/
def numbered (c : Char) : List Char :=
  ['\\', 'u', '{'] ++ Nat.toDigits 16 c.toNat ++ ['}']

def quotedChar (c : Char) : List Char :=
  match c with
  | '\x00' => ['\\', '0']
  | '\t' => ['\\', 't']
  | '\r' => ['\\', 'r']
  | '\n' => ['\\', 'n']
  | '\\' => ['\\', '\\']
  | '"' => ['\\', '"']
  | c =>
    if c.toNat < 0x7F && 0x20 ≤ c.toNat then [c]
    else if inRanges extendingRanges c || inRanges unprintableRanges c then numbered c
    else [c]

def quoted (s : String) : String :=
  String.ofList ('"' :: s.toList.flatMap quotedChar ++ ['"'])

end CensusLink.Text
