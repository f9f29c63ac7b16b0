import CensusLink.Binary64.Decimal

/-!
Binary numbers read from decimal text: an optional sign, then digits with an optional point and
exponent, or a word for the infinite and the undefined. The result is the number nearest to what
the digits say.
-/
namespace CensusLink.Binary64

inductive ReadError
  | empty
  | invalid
  deriving DecidableEq, Repr

def ReadError.message : ReadError → String
  | .empty => "cannot parse float from empty string"
  | .invalid => "invalid float literal"

def digitValue (c : Char) : Nat := c.toNat - 48

def digitsValue (cs : List Char) : Nat := cs.foldl (fun n c => 10 * n + digitValue c) 0

/-- The number nearest to digits times a power of ten; a power beyond every number's is not
worked out. -/
def ofDecimal (negative : Bool) (digits : Nat) (exponent : Int) : Binary64 :=
  let size : Int := (Nat.toDigits 10 digits).length + exponent
  if digits = 0 then .finite negative 0
  else if 400 < size then .infinite negative
  else if size < -400 then .finite negative 0
  else
    let (num, den) := Decimal.ratio ⟨digits, exponent⟩
    ofRatio negative num den

/-- An exponent after its letter. -/
def readExponent (cs : List Char) : Option Int :=
  let (negative, ds) := match cs with
    | '-' :: ds => (true, ds)
    | '+' :: ds => (false, ds)
    | ds => (false, ds)
  if ds.isEmpty || !ds.all Char.isDigit then none
  else some (if negative then -(digitsValue ds : Int) else digitsValue ds)

def readUnsigned (negative : Bool) (cs : List Char) : Except ReadError Binary64 :=
  let whole := cs.takeWhile Char.isDigit
  let rest := cs.dropWhile Char.isDigit
  let (part, rest) := match rest with
    | '.' :: r => (r.takeWhile Char.isDigit, r.dropWhile Char.isDigit)
    | r => ([], r)
  let number (e : Int) := ofDecimal negative (digitsValue (whole ++ part)) (e - part.length)
  if whole.isEmpty && part.isEmpty then
    match String.ofList (cs.map Char.toLower) with
    | "inf" => .ok (.infinite negative)
    | "infinity" => .ok (.infinite negative)
    | "nan" => .ok .nan
    | _ => .error .invalid
  else
    match rest with
    | [] => .ok (number 0)
    | c :: r =>
      if c == 'e' || c == 'E' then
        match readExponent r with
        | some e => .ok (number e)
        | none => .error .invalid
      else .error .invalid

def ofText (s : String) : Except ReadError Binary64 :=
  match s.toList with
  | [] => .error .empty
  | '-' :: cs => readUnsigned true cs
  | '+' :: cs => readUnsigned false cs
  | cs => readUnsigned false cs

end CensusLink.Binary64
