import CensusLink.Json.Basic
import CensusLink.Text.Hex

/-!
Two written forms of a JSON value: one line without blanks, and one with a line to each item, two
blanks of indentation to a level and nothing between the brackets of what is empty. Members stand
in the order in which the value has them. Each printer takes the text that follows the value.
-/
namespace CensusLink

/-- Positional up to sixteen places and down to the fifth after the point; ties go to even. -/
def Number.layout : DecimalLayout := ⟨some (-4), some 16, ".0", .toEven⟩

/-- What is not a finite number has no written form and is null. -/
def Number.write : Number → List Char
  | .whole n _ => (toString n).toList
  | .real (.finite s u) => (Binary64.finite s u).write layout
  | .real _ => ['n', 'u', 'l', 'l']

def Number.text (n : Number) : String := String.ofList n.write

namespace Json

/-- A character inside quotes: a short form, a number for the other controls, or itself. -/
def escape (c : Char) : List Char :=
  match c with
  | '"' => ['\\', '"']
  | '\\' => ['\\', '\\']
  | '\x08' => ['\\', 'b']
  | '\t' => ['\\', 't']
  | '\n' => ['\\', 'n']
  | '\x0c' => ['\\', 'f']
  | '\r' => ['\\', 'r']
  | c =>
    if c.toNat < 0x20 then
      ['\\', 'u', '0', '0', Text.hexDigit (c.toNat / 16), Text.hexDigit (c.toNat % 16)]
    else [c]

def writeChars : List Char → List Char → List Char
  | [], rest => '"' :: rest
  | c :: cs, rest => escape c ++ writeChars cs rest

def writeString (s : String) (rest : List Char) : List Char := '"' :: writeChars s.toList rest

mutual
/-- The value on one line, followed by the rest. -/
def write : Json → List Char → List Char
  | .null, rest => 'n' :: 'u' :: 'l' :: 'l' :: rest
  | .bool true, rest => 't' :: 'r' :: 'u' :: 'e' :: rest
  | .bool false, rest => 'f' :: 'a' :: 'l' :: 's' :: 'e' :: rest
  | .number n, rest => n.write ++ rest
  | .string s, rest => writeString s rest
  | .array [], rest => '[' :: ']' :: rest
  | .array (j :: items), rest => '[' :: write j (writeItems items rest)
  | .object [], rest => '{' :: '}' :: rest
  | .object ((k, j) :: members), rest =>
    '{' :: writeString k (':' :: write j (writeMembers members rest))

def writeItems : List Json → List Char → List Char
  | [], rest => ']' :: rest
  | j :: items, rest => ',' :: write j (writeItems items rest)

def writeMembers : List (String × Json) → List Char → List Char
  | [], rest => '}' :: rest
  | (k, j) :: members, rest =>
    ',' :: writeString k (':' :: write j (writeMembers members rest))
end

/-- A new line, indented to a level. -/
def newLine (level : Nat) (rest : List Char) : List Char :=
  '\n' :: (List.replicate (2 * level) ' ' ++ rest)

mutual
/-- The value over several lines, from a level of indentation, followed by the rest. -/
def writePretty : Json → Nat → List Char → List Char
  | .null, _, rest => 'n' :: 'u' :: 'l' :: 'l' :: rest
  | .bool true, _, rest => 't' :: 'r' :: 'u' :: 'e' :: rest
  | .bool false, _, rest => 'f' :: 'a' :: 'l' :: 's' :: 'e' :: rest
  | .number n, _, rest => n.write ++ rest
  | .string s, _, rest => writeString s rest
  | .array [], _, rest => '[' :: ']' :: rest
  | .array (j :: items), level, rest =>
    '[' :: newLine (level + 1) (writePretty j (level + 1) (writePrettyItems items level rest))
  | .object [], _, rest => '{' :: '}' :: rest
  | .object ((k, j) :: members), level, rest =>
    '{' :: newLine (level + 1) (writeString k (':' :: ' ' ::
      writePretty j (level + 1) (writePrettyMembers members level rest)))

def writePrettyItems : List Json → Nat → List Char → List Char
  | [], level, rest => newLine level (']' :: rest)
  | j :: items, level, rest =>
    ',' :: newLine (level + 1) (writePretty j (level + 1) (writePrettyItems items level rest))

def writePrettyMembers : List (String × Json) → Nat → List Char → List Char
  | [], level, rest => newLine level ('}' :: rest)
  | (k, j) :: members, level, rest =>
    ',' :: newLine (level + 1) (writeString k (':' :: ' ' ::
      writePretty j (level + 1) (writePrettyMembers members level rest)))
end

def compact (j : Json) : String := String.ofList (j.write [])

def pretty (j : Json) : String := String.ofList (j.writePretty 0 [])

end Json
end CensusLink
