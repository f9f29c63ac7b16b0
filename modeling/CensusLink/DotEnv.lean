import CensusLink.Text.Blank
import CensusLink.Text.Letters

/-!
Variables assigned in a text, a line each: a name, an equals sign and a value with quotes, escapes
and the values of other variables. A line goes on while a quote is open or a blank or a backslash
ends it. A variable that is set already keeps its value, and the first line that cannot be read ends
the reading.
-/
namespace CensusLink.DotEnv

/-- Where a line stands between its characters. -/
inductive LineState
  | complete
  | escape
  | single
  | singleEscape
  | double
  | doubleEscape
  | blank
  deriving DecidableEq

/-- The state behind a character that is not inside quotes or behind a backslash. -/
def outside (c : Char) : LineState :=
  match c with
  | '\\' => .escape
  | '"' => .double
  | '\'' => .single
  | _ => .complete

def LineState.next (s : LineState) (c : Char) : LineState :=
  match s with
  | .complete => if Text.isBlank c && c ≠ '\n' && c ≠ '\r' then .blank else outside c
  | .blank => outside c
  | .escape => .complete
  | .single => if c = '\\' then .singleEscape else if c = '\'' then .complete else .single
  | .singleEscape => .single
  | .double => if c = '\\' then .doubleEscape else if c = '"' then .complete else .double
  | .doubleEscape => .double

/-- Reads on over the characters of one line. A comment begins at a number sign behind a blank, and
gives what stands before it. -/
def scan (before : List Char) : LineState → List Char → LineState × Option (List Char)
  | s, [] => (s, none)
  | s, c :: rest =>
    if s = .blank ∧ c = '#' then (s, some before.reverse)
    else scan (c :: before) (s.next c) rest

/-- The lines of a text with their line ends. -/
def physicalLines : List Char → List (List Char)
  | [] => []
  | '\n' :: rest => ['\n'] :: physicalLines rest
  | c :: rest =>
    match physicalLines rest with
    | [] => [[c]]
    | l :: ls => (c :: l) :: ls

def dropLineEnd (line : List Char) : List Char :=
  match line.reverse with
  | '\n' :: '\r' :: rest => rest.reverse
  | '\n' :: rest => rest.reverse
  | _ => line

/-- Joins lines that go on; a text that ends before its last line does is bad there. -/
def logicalLines (before : List Char) (s : LineState) : List (List Char) → List (Option (List Char))
  | [] => if s = .complete then [] else [none]
  | line :: rest =>
    let whole := before ++ line
    if (Text.trimStart whole).head? = some '#' then some [] :: logicalLines [] .complete rest
    else
      match scan [] s line with
      | (_, some kept) => some (before ++ kept) :: logicalLines [] .complete rest
      | (.complete, none) => some (dropLineEnd whole) :: logicalLines [] .complete rest
      | (s, none) => logicalLines whole s rest

/-- How the name of a variable is being read inside a value. -/
inductive NameState
  | none
  | bare
  | braced
  deriving DecidableEq

/-- A value read up to some place, the characters last first. -/
structure ValueState where
  single : Bool
  double : Bool
  escaped : Bool
  name : NameState
  nameReversed : List Char
  reversed : List Char

namespace ValueState

def start : ValueState := ⟨false, false, false, .none, [], []⟩

def push (s : ValueState) (c : Char) : ValueState := { s with reversed := c :: s.reversed }

/-- Puts in the value of the variable that was named; one that is not set has none. -/
def substitute (vars : String → Option String) (s : ValueState) : ValueState :=
  let value := (vars (String.ofList s.nameReversed.reverse)).getD ""
  { s with nameReversed := [], reversed := value.toList.reverse ++ s.reversed, name := .none }

def pushName (s : ValueState) (c : Char) : ValueState :=
  { s with nameReversed := c :: s.nameReversed }

/-- What a character stands for behind a backslash. -/
def escape? (c : Char) : Option Char :=
  if c = 'n' then some '\n'
  else if c = '\\' ∨ c = '\'' ∨ c = '"' ∨ c = '$' ∨ c = ' ' then some c
  else .none

/-- A character while a variable is being named. -/
def stepName (vars : String → Option String) (s : ValueState) (c : Char) : ValueState :=
  if Text.isLetterOrNumber c then s.pushName c
  else
    match s.name with
    | .braced => if c = '}' then s.substitute vars else s.pushName c
    | _ =>
      if c = '{' ∧ s.nameReversed = [] then { s with name := .braced }
      else if c = '$' then { s.substitute vars with name := .bare }
      else (s.substitute vars).push c

/-- The value in the rest of a line. Behind a blank outside of quotes only blanks and a comment may
follow. -/
def read (vars : String → Option String) : ValueState → List Char → Option String
  | s, [] =>
    if s.name = .braced || s.single || s.double then .none
    else some (String.ofList (s.substitute vars).reversed.reverse)
  | s, c :: rest =>
    if s.escaped then
      match escape? c with
      | some e => read vars { s.push e with escaped := false } rest
      | .none => .none
    else if s.single then
      read vars (if c = '\'' then { s with single := false } else s.push c) rest
    else if s.name ≠ .none then read vars (s.stepName vars c) rest
    else if c = '$' then read vars { s with name := .bare } rest
    else if c = '\\' then read vars { s with escaped := true } rest
    else if s.double then
      read vars (if c = '"' then { s with double := false } else s.push c) rest
    else if c = '\'' then read vars { s with single := true } rest
    else if c = '"' then read vars { s with double := true } rest
    else if c = ' ' || c = '\t' then
      let left := rest.dropWhile fun c => c = ' ' || c = '\t'
      if left = [] || left.head? = some '#' then read vars s [] else .none
    else read vars (s.push c) rest

end ValueState

def isNameStart (c : Char) : Bool := c.isAlpha || c == '_'

def isNameChar (c : Char) : Bool := c.isAlphanum || c == '_' || c == '.'

/-- A name at the start of a text, and what follows it and blanks. -/
def readName (cs : List Char) : Option (String × List Char) :=
  if cs.head?.any isNameStart then
    some (String.ofList (cs.takeWhile isNameChar), Text.trimStart (cs.dropWhile isNameChar))
  else none

/-- What follows an equals sign. -/
def readEquals (cs : List Char) : Option (List Char) :=
  match cs with
  | '=' :: rest => some rest
  | _ => none

/-- A name and what follows the equals sign behind it; the word `export` may come first. -/
def readTarget (cs : List Char) : Option (String × List Char) := do
  let (name, rest) ← readName cs
  if name = "export" && (readEquals rest).isNone then
    let (name, rest) ← readName rest
    some (name, ← readEquals rest)
  else some (name, ← readEquals rest)

/-- The assignment on a line, if there is one; none at all for a line that cannot be read. -/
def readLine (vars : String → Option String) (line : List Char) :
    Option (Option (String × String)) :=
  let cs := Text.trimStart (Text.trimEnd line)
  if cs = [] || cs.head? = some '#' then some none
  else do
    let (name, rest) ← readTarget cs
    let rest := Text.trimStart rest
    if rest = [] || rest.head? = some '#' then some (some (name, ""))
    else
      let value ← ValueState.start.read vars rest
      some (some (name, value))

/-- The variables that lines set besides those that are set already. -/
def assign (vars : String → Option String) :
    List (String × String) → List (Option (List Char)) → List (String × String)
  | set, [] => set
  | set, none :: _ => set
  | set, some line :: rest =>
    let known (name : String) : Option String := vars name <|> set.lookup name
    match readLine known line with
    | none => set
    | some none => assign vars set rest
    | some (some (name, value)) =>
      if (known name).isSome then assign vars set rest
      else assign vars (set ++ [(name, value)]) rest

/-- The variables that a text sets. -/
def ofText (vars : String → Option String) (text : String) : List (String × String) :=
  let cs := match text.toList with
    | '\uFEFF' :: rest => rest
    | cs => cs
  assign vars [] (logicalLines [] .complete (physicalLines cs))

/-- The longest runs of characters of a kind. -/
def runs (isMember : Char → Bool) : List Char → List (List Char)
  | [] => [[]]
  | c :: rest =>
    if isMember c then
      match runs isMember rest with
      | [] => [[c]]
      | run :: others => (c :: run) :: others
    else [] :: runs isMember rest

/-- What may be a name behind each dollar sign. -/
def namesAfterDollar : List Char → List (List Char)
  | [] => []
  | '$' :: '{' :: rest => rest.takeWhile (· ≠ '}') :: namesAfterDollar rest
  | '$' :: rest => rest.takeWhile Text.isLetterOrNumber :: namesAfterDollar rest
  | _ :: rest => namesAfterDollar rest

/-- The names that reading a text may ask for, and perhaps others. -/
def mentioned (text : String) : List String :=
  (runs isNameChar text.toList ++ namesAfterDollar text.toList).map String.ofList

end CensusLink.DotEnv
