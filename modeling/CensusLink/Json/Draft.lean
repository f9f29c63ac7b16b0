import CensusLink.Json.Numeral
import CensusLink.Json.Spelling

/-!
A JSON text as far as it can be read. The reading of a text that breaks off is still a tree, with a
`broken` leaf or an unfinished container where the break is, so that a reader that wants a value of
some shape reports what it meets first. A draft without any fault is a value.
-/
namespace CensusLink

/-- How the items of an array end. `counted` is the report when no further item was wanted. -/
inductive ItemsEnd
  | closed
  | cut (fault : Break) (counted : Flaw)
  deriving Repr

/-- How the members of an object end. -/
inductive MembersEnd
  | closed
  | cut (fault : Break)
  deriving Repr

/-- `keyless` is an object with something else where its first key should be, and `broken` what
is no value, told by its first character when that begins a value. -/
inductive Draft
  | null
  | bool (b : Bool)
  | number (n : Except Flaw Number)
  | string (s : Except Flaw String)
  | array (items : List Draft) (close : ItemsEnd)
  | object (members : List (Except Flaw String × Draft)) (close : MembersEnd)
  | keyless
  | broken (opening : Option Char) (fault : Break)

/-- A draft, and the text behind it unless the reading broke off. -/
abbrev Drafted := Draft × Option (List Char)

namespace Draft

def isBlank (c : Char) : Bool := c == ' ' || c == '\n' || c == '\t' || c == '\r'

def skipBlanks (cs : List Char) : List Char := cs.dropWhile isBlank

def stop (f : Flaw) : Drafted := (.broken none f.both, none)

/-- The rest of a word, of which the first character is read. -/
def readWord (opening : Char) (value : Draft) : List Char → List Char → Drafted
  | [], rest => (value, some rest)
  | _ :: _, [] => (.broken (some opening) Flaw.endInValue.both, none)
  | w :: word, c :: rest =>
    if w == c then readWord opening value word rest
    else (.broken (some opening) Flaw.expectedWord.both, none)

def readNumber (cs : List Char) : Drafted :=
  match Numeral.scan cs with
  | .ok (n, rest) => (.number n.value, some rest)
  | .error fault => (.broken cs.head? fault, none)

def readString (cs : List Char) : Drafted :=
  match Spelling.read cs .empty with
  | .ok (s, rest) => (.string s, some rest)
  | .error fault => (.broken (some '"') fault, none)

mutual
/-- The value at the start of a text. -/
def readValue : Nat → List Char → Drafted
  | 0, _ => stop .endInValue
  | fuel + 1, cs =>
    match skipBlanks cs with
    | [] => stop .endInValue
    | 'n' :: rest => readWord 'n' .null ['u', 'l', 'l'] rest
    | 't' :: rest => readWord 't' (.bool true) ['r', 'u', 'e'] rest
    | 'f' :: rest => readWord 'f' (.bool false) ['a', 'l', 's', 'e'] rest
    | '"' :: rest => readString rest
    | '[' :: rest =>
      match skipBlanks rest with
      | [] => (.array [] (.cut Flaw.endInList.both .endInList), none)
      | ']' :: rest => (.array [] .closed, some rest)
      | rest =>
        let (items, close, rest) := readItems fuel rest
        (.array items close, rest)
    | '{' :: rest =>
      match skipBlanks rest with
      | [] => (.object [] (.cut Flaw.endInObject.both), none)
      | '}' :: rest => (.object [] .closed, some rest)
      | '"' :: rest =>
        let (members, close, rest) := readMembers fuel rest
        (.object members close, rest)
      | _ => (.keyless, none)
    | c :: rest => if c == '-' || c.isDigit then readNumber (c :: rest) else stop .expectedValue

/-- The items from one item on. -/
def readItems : Nat → List Char → List Draft × ItemsEnd × Option (List Char)
  | 0, _ => ([], .cut Flaw.endInValue.both .endInValue, none)
  | fuel + 1, cs =>
    match readValue fuel cs with
    | (item, none) => ([item], .closed, none)
    | (item, some rest) =>
      match skipBlanks rest with
      | [] => ([item], .cut Flaw.endInList.both .endInList, none)
      | ']' :: rest => ([item], .closed, some rest)
      | ',' :: rest =>
        match skipBlanks rest with
        | [] => ([item], .cut Flaw.endInValue.both .trailingCharacters, none)
        | ']' :: _ => ([item], .cut ⟨.trailingComma, .expectedValue⟩ .trailingComma, none)
        | rest =>
          let (items, close, rest) := readItems fuel rest
          (item :: items, close, rest)
      | _ => ([item], .cut Flaw.expectedListEnd.both .trailingCharacters, none)

/-- The members from one key on, the opening quote of which is read. -/
def readMembers : Nat → List Char →
    List (Except Flaw String × Draft) × MembersEnd × Option (List Char)
  | 0, _ => ([], .cut Flaw.endInString.both, none)
  | fuel + 1, cs =>
    match Spelling.read cs .empty with
    | .error fault => ([], .cut fault, none)
    | .ok (key, rest) =>
      match skipBlanks rest with
      | [] => ([(key, (stop .endInObject).1)], .closed, none)
      | ':' :: rest =>
        match readValue fuel rest with
        | (value, none) => ([(key, value)], .closed, none)
        | (value, some rest) =>
          match skipBlanks rest with
          | [] => ([(key, value)], .cut Flaw.endInObject.both, none)
          | '}' :: rest => ([(key, value)], .closed, some rest)
          | ',' :: rest =>
            match skipBlanks rest with
            | '"' :: rest =>
              let (members, close, rest) := readMembers fuel rest
              ((key, value) :: members, close, rest)
            | [] => ([(key, value)], .cut ⟨.endInValue, .endInObject⟩, none)
            | '}' :: _ => ([(key, value)], .cut ⟨.trailingComma, .keyNotString⟩, none)
            | _ => ([(key, value)], .cut Flaw.keyNotString.both, none)
          | _ => ([(key, value)], .cut Flaw.expectedObjectEnd.both, none)
      | _ => ([(key, (stop .expectedColon).1)], .closed, none)
end

/-- Every step of the reading takes a character, two steps to a member at most. -/
def ofText (cs : List Char) : Drafted := readValue (2 * cs.length + 1) cs

/-- What stands behind a whole value must be blank. -/
def checkRest : Option (List Char) → Except Flaw Unit
  | none => .ok ()
  | some rest => if (skipBlanks rest).isEmpty then .ok () else .error .trailingCharacters

def checkItems : ItemsEnd → Except Flaw Unit
  | .closed => .ok ()
  | .cut fault _ => .error fault.kept

def checkCount : ItemsEnd → Except Flaw Unit
  | .closed => .ok ()
  | .cut _ counted => .error counted

def checkMembers : MembersEnd → Except Flaw Unit
  | .closed => .ok ()
  | .cut fault => .error fault.kept

mutual
/-- Passes over a value: only what breaks the reading off is reported. -/
def skip : Draft → Except Flaw Unit
  | .null => .ok ()
  | .bool _ => .ok ()
  | .number _ => .ok ()
  | .string _ => .ok ()
  | .array items close => do
    skipItems items
    match close with
    | .closed => .ok ()
    | .cut fault _ => .error fault.skipped
  | .object members close => do
    skipMembers members
    match close with
    | .closed => .ok ()
    | .cut fault => .error fault.skipped
  | .keyless => .error .keyNotString
  | .broken _ fault => .error fault.skipped

def skipItems : List Draft → Except Flaw Unit
  | [] => .ok ()
  | d :: rest => do
    skip d
    skipItems rest

def skipMembers : List (Except Flaw String × Draft) → Except Flaw Unit
  | [] => .ok ()
  | (_, d) :: rest => do
    skip d
    skipMembers rest
end

/-- Going into a container leaves less room for those inside it; without a limit there is always
room. -/
def enter : Option Nat → Except Flaw (Option Nat)
  | none => .ok none
  | some room => if room ≤ 1 then .error .tooDeep else .ok (some (room - 1))

mutual
/-- The value of a draft, with room for so many containers one inside the other less one. -/
def toJson : Option Nat → Draft → Except Flaw Json
  | _, .null => .ok .null
  | _, .bool b => .ok (.bool b)
  | _, .number n => n.map .number
  | _, .string s => s.map .string
  | room, .array items close => do
    let room ← enter room
    let items ← toItems room items
    checkItems close
    .ok (.array items)
  | room, .object members close => do
    let room ← enter room
    let members ← toMembers room members
    checkMembers close
    .ok (.object members)
  | room, .keyless => do
    let _ ← enter room
    .error .keyNotString
  | _, .broken _ fault => .error fault.kept

def toItems : Option Nat → List Draft → Except Flaw (List Json)
  | _, [] => .ok []
  | room, d :: rest => do
    let j ← toJson room d
    let rest ← toItems room rest
    .ok (j :: rest)

def toMembers : Option Nat → List (Except Flaw String × Draft) → Except Flaw (List (String × Json))
  | _, [] => .ok []
  | room, (key, d) :: rest => do
    let key ← key
    let j ← toJson room d
    let rest ← toMembers room rest
    .ok ((key, j) :: rest)
end

mutual
def ofJson : Json → Draft
  | .null => .null
  | .bool b => .bool b
  | .number n => .number (.ok n)
  | .string s => .string (.ok s)
  | .array items => .array (ofItems items) .closed
  | .object members => .object (ofMembers members) .closed

def ofItems : List Json → List Draft
  | [] => []
  | j :: rest => ofJson j :: ofItems rest

def ofMembers : List (String × Json) → List (Except Flaw String × Draft)
  | [] => []
  | (key, j) :: rest => (.ok key, ofJson j) :: ofMembers rest
end

end Draft

/-- How many containers may lie one inside the other in a text, and one more. -/
def Json.roomOfText : Nat := 128

/-- The value that a text spells, its objects in canonical order. -/
def Document.ofText (s : String) : Except Flaw Document := do
  let (draft, rest) := Draft.ofText s.toList
  let j ← draft.toJson (some Json.roomOfText)
  Draft.checkRest rest
  .ok (.ofJson j)

end CensusLink
