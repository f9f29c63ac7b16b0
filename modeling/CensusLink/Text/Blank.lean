/-!
Blank characters, and texts without the blanks at their two ends. A trimmed text neither starts
nor ends with a blank, and trimming it again changes nothing.
-/
namespace CensusLink.Text

/-- The property White_Space: twenty-five code points. -/
def isBlank (c : Char) : Bool :=
  let n := c.toNat
  (9 ≤ n && n ≤ 13) || n == 0x20 || n == 0x85 || n == 0xA0 || n == 0x1680 ||
    (0x2000 ≤ n && n ≤ 0x200A) || n == 0x2028 || n == 0x2029 || n == 0x202F || n == 0x205F ||
    n == 0x3000

def trimStart (cs : List Char) : List Char := cs.dropWhile isBlank

def trimEnd (cs : List Char) : List Char := (cs.reverse.dropWhile isBlank).reverse

def trim (s : String) : String := String.ofList (trimEnd (trimStart s.toList))

def allBlank (s : String) : Bool := s.toList.all isBlank

/-- The lines of a text: each ends at a line feed, with or without a carriage return before it. -/
def lines (s : String) : List String := (cut s.toList).map String.ofList
where
  cut : List Char → List (List Char)
    | [] => []
    | '\r' :: '\n' :: rest => [] :: cut rest
    | '\n' :: rest => [] :: cut rest
    | c :: rest =>
      match cut rest with
      | [] => [[c]]
      | l :: ls => (c :: l) :: ls

end CensusLink.Text
