import CensusLink.Instant.Basic
import CensusLink.Text.Blank
import CensusLink.Text.Bytes

/-!
Instants read from text: a date, a separator, a time of day and the offset from universal time.
Blanks may stand around the parts; a field outside its range is reported where it is read, a day
that no calendar has only at the end.
-/
namespace CensusLink.Instant

inductive ReadError
  | tooShort
  | invalid
  | outOfRange
  | tooLong
  | impossible
  deriving DecidableEq, Repr

def ReadError.message : ReadError → String
  | .tooShort => "premature end of input"
  | .invalid => "input contains invalid characters"
  | .outOfRange => "input is out of range"
  | .tooLong => "trailing input"
  | .impossible => "no possible date and time matching input"

/-- The digits at the start of a text, at most so many. -/
def leadingDigits : Option Nat → List Char → List Char
  | some most, cs => (cs.take most).takeWhile Char.isDigit
  | none, cs => cs.takeWhile Char.isDigit

def digitsValue (cs : List Char) : Nat := cs.foldl (fun n c => 10 * n + (c.toNat - 48)) 0

/-- A number of one digit at least; it has to fit in 63 bits. -/
def readNumber (most : Option Nat) (cs : List Char) : Except ReadError (Nat × List Char) :=
  match cs with
  | [] => .error .tooShort
  | _ :: _ =>
    let digits := leadingDigits most cs
    if digits.isEmpty then .error .invalid
    else if digitsValue digits < 9223372036854775808 then
      .ok (digitsValue digits, cs.drop digits.length)
    else .error .outOfRange

/-- A year: four digits at most without a sign, any number of them with one. -/
def readYear (cs : List Char) : Except ReadError (Int × List Char) := do
  let (year, rest) ← match Text.trimStart cs with
    | '-' :: cs => do
      let (n, rest) ← readNumber none cs
      .ok (-(n : Int), rest)
    | '+' :: cs => do
      let (n, rest) ← readNumber none cs
      .ok ((n : Int), rest)
    | cs => do
      let (n, rest) ← readNumber (some 4) cs
      .ok ((n : Int), rest)
  if -2147483648 ≤ year ∧ year < 2147483648 then .ok (year, rest) else .error .outOfRange

/-- A field of two digits at most, between two bounds. -/
def readField (low high : Nat) (cs : List Char) : Except ReadError (Nat × List Char) := do
  let (n, rest) ← readNumber (some 2) (Text.trimStart cs)
  if low ≤ n ∧ n ≤ high then .ok (n, rest) else .error .outOfRange

/-- A mark between two fields, with blanks before it. -/
def readMark (mark : Char) (cs : List Char) : Except ReadError (List Char) :=
  match Text.trimStart cs with
  | [] => .error .tooShort
  | c :: rest => if c == mark then .ok rest else .error .invalid

def readSeparator : List Char → Except ReadError (List Char)
  | [] => .error .tooShort
  | c :: rest => if c == 'T' || c == 't' || c == ' ' then .ok rest else .error .invalid

/-- Nanoseconds behind a point; digits after the ninth do not count. -/
def readFraction : List Char → Except ReadError (Nat × List Char)
  | '.' :: cs => do
    let (_, rest) ← readNumber (some 9) cs
    let digits := leadingDigits (some 9) cs
    .ok (digitsValue digits * Nat.pow 10 (9 - digits.length), rest.dropWhile Char.isDigit)
  | cs => .ok (0, cs)

def isColonOrBlank (c : Char) : Bool := c == ':' || Text.isBlank c

/-- Two bytes at least are left. -/
def hasTwo (cs : List Char) : Bool := 2 ≤ Text.byteCount (cs.take 2)

def readHours (cs : List Char) : Except ReadError (Nat × List Char) :=
  match cs with
  | a :: b :: rest =>
    if a.isDigit && b.isDigit then .ok (digitsValue [a, b], rest) else .error .invalid
  | cs => .error (if hasTwo cs then .invalid else .tooShort)

def readMinutes (cs : List Char) : Except ReadError (Nat × List Char) := do
  let (n, rest) ← readHours (cs.dropWhile isColonOrBlank)
  if n < 60 then .ok (n, rest) else .error .outOfRange

def isSpelledUtc (cs : List Char) : Bool := cs.map Char.toUpper == ['U', 'T', 'C']

/-- Seconds ahead of universal time. -/
def readOffset (cs : List Char) : Except ReadError (Int × List Char) :=
  let signed (sign : Int) (cs : List Char) : Except ReadError (Int × List Char) := do
    let (hours, cs) ← readHours cs
    let (minutes, cs) ← readMinutes cs
    .ok (sign * (hours * 3600 + minutes * 60), cs)
  match cs with
  | [] => .error .tooShort
  | c :: rest =>
    if isSpelledUtc (cs.take 3) then .ok (0, cs.drop 3)
    else if c == 'Z' || c == 'z' then .ok (0, rest)
    else if c == '+' then signed 1 rest
    else if c == '-' || c == '\u2212' then signed (-1) rest
    else .error .invalid

/-- A date and time of day with its offset; second sixty is a leap second. -/
def readCivil (cs : List Char) : Except ReadError ((Civil × Int) × List Char) := do
  let (year, cs) ← readYear cs
  let cs ← readMark '-' cs
  let (month, cs) ← readField 1 12 cs
  let cs ← readMark '-' cs
  let (day, cs) ← readField 1 31 cs
  let cs ← readSeparator cs
  let (hour, cs) ← readField 0 23 cs
  let cs ← readMark ':' cs
  let (minute, cs) ← readField 0 59 cs
  let cs ← readMark ':' cs
  let (second, cs) ← readField 0 60 cs
  let (nano, cs) ← readFraction cs
  let (offset, cs) ← readOffset (Text.trimStart cs)
  let leap := second / 60
  .ok ((⟨year, month, day, hour * 3600 + minute * 60 + (second - leap),
    nano + leap * 1000000000⟩, offset), cs)

def read (cs : List Char) : Except ReadError Instant := do
  let ((here, offset), rest) ← readCivil cs
  if !(Text.trimStart rest).isEmpty then .error .tooLong
  else if ¬ here.Valid ∨ 86400 ≤ offset.natAbs then .error .outOfRange
  else
    match ofCivil? (here.earlier offset) with
    | some t => .ok t
    | none => .error .impossible

def ofText (s : String) : Except ReadError Instant := read s.toList

end CensusLink.Instant
