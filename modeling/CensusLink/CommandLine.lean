import CensusLink.DotEnv
import CensusLink.Inbound
import CensusLink.Queries
import CensusLink.Store.File
import CensusLink.Store.Memory

/-!
The command line: reading events in, showing codes and cases, and linking. A command runs on a
machine, which has variables, files, a clock and fresh ids; what it prints and its exit code are its
outcome. A result is printed over several lines and behind it each published event on one; a failure
is reported with its causes.
-/
namespace CensusLink

/-- What a command needs of the machine that it runs on. -/
structure Machine (m : Type → Type) extends Files m where
  lookup : String → m (Option String)
  /-- The text with further variables, if there is one. -/
  dotEnv : m (Option String)
  readText : String → m (Except String String)
  sleep : Nat → m Unit
  freshId : m Uuid
  now : m Instant

structure Outcome where
  exit : Nat
  out : String
  err : String
  deriving DecidableEq, Repr

inductive Command
  | ingest (file : String)
  | showCode (hash : String)
  | link (hash file : String)
  | showCase (id : String)
  | showAddress (uprn : String) (latest : Bool)
  deriving DecidableEq, Repr

namespace Command

/-- An argument that is an option and no value. -/
def isOption (arg : String) : Bool :=
  match arg.toList with
  | '-' :: _ :: _ => true
  | _ => false

/-- The values among arguments, and how often the option of this name stands among them. Behind two
hyphens everything is a value; no other option is known. -/
def split (option : Option String) : List String → Option (List String × Nat)
  | [] => some ([], 0)
  | arg :: rest =>
    if arg = "--" then some (rest, 0)
    else do
      let (values, count) ← split option rest
      if some arg = option then some (values, count + 1)
      else if isOption arg then none
      else some (arg :: values, count)

def values (args : List String) : Option (List String) := (split none args).map (·.1)

/-- A command by its name and arguments; the name of a file is never empty. -/
def ofArgs : List String → Option Command
  | [] => none
  | name :: args =>
    match name with
    | "ingest" =>
      match values args with
      | some [file] => if file = "" then none else some (.ingest file)
      | _ => none
    | "get" =>
      match values args with
      | some [hash] => some (.showCode hash)
      | _ => none
    | "link" =>
      match values args with
      | some [hash, file] => if file = "" then none else some (.link hash file)
      | _ => none
    | "case" =>
      match values args with
      | some [id] => some (.showCase id)
      | _ => none
    | "uprn" =>
      match split (some "--latest") args with
      | some ([uprn], 0) => some (.showAddress uprn false)
      | some ([uprn], 1) => some (.showAddress uprn true)
      | _ => none
    | _ => none

end Command

namespace Report

/-- The lines of a text, all but the first behind an indentation. -/
def indented (indent : String) (s : String) : String :=
  String.ofList (s.toList.flatMap fun c => if c = '\n' then '\n' :: indent.toList else [c])

/-- A cause with its number, in five places. -/
def numbered (cause : String × Nat) : String :=
  let n := toString cause.2
  "".pushn ' ' (5 - n.length) ++ n ++ ": " ++ indented "       " cause.1

/-- The report on a failure: what failed, and its causes from the nearest on. -/
def text : List String → String
  | [] => "Error: "
  | [failed] => "Error: " ++ failed
  | [failed, cause] => "Error: " ++ failed ++ "\n\nCaused by:\n    " ++ indented "    " cause
  | failed :: causes =>
    "Error: " ++ failed ++ "\n\nCaused by:\n" ++ "\n".intercalate (causes.zipIdx.map numbered)

end Report

/-- What the service keeps while a command runs. -/
structure Desk where
  memory : MemoryStore
  published : List OutboundEvent

namespace Desk

variable {m : Type → Type} [Monad m] (machine : Machine m) (settings : Settings)

/-- A step that may fail for reasons with causes. -/
abbrev Task (m : Type → Type) := ExceptT (List String) (StateT Desk m)

/-- Answers a store call from the memory. -/
def callMemory (c : StoreCall) : StateT Desk m c.Outcome := do
  let desk ← get
  let (outcome, memory) := desk.memory.step c
  set { desk with memory }
  pure outcome

def publish (n : Notice) : StateT Desk m Unit := do
  let time ← machine.now
  let transaction ← machine.freshId
  let e : OutboundEvent := ⟨⟨n.type, n.source, n.channel, time, transaction⟩, n.payload⟩
  modify fun desk => { desk with published := desk.published ++ [e] }

/-- Answers the effects of a service. -/
def host : (e : Effect) → StateT Desk m e.Reply
  | .call c =>
    match settings.backend with
    | .memory => callMemory c
    | .file => FileStore.answer machine.toFiles settings.path c
  | .publish n => do
    publish machine n
    pure (.ok ())
  | .sleep milliseconds => machine.sleep milliseconds
  | .giveUp _ => pure ()
  | .freshId => machine.freshId
  | .now => machine.now

/-- Carries out a service; its failure has no further cause. -/
def serve {α : Type} (s : Service α) : Task m α := ExceptT.mk do
  match ← s.run.run (host machine settings) with
  | .ok a => pure (.ok a)
  | .error f => pure (.error [f.text])

def readFile (path : String) : Task m String := ExceptT.mk do
  match ← machine.readText path with
  | .ok text => pure (.ok text)
  | .error reason => pure (.error ["failed to read " ++ path, reason])

def registry : Registry := ⟨settings.retry, settings.schemas⟩

/-- The messages of a text: its lines that are not blank. -/
def messages (text : String) : List String := (Text.lines text).filter fun l => !Text.allBlank l

/-- Handles messages one after the other and counts those that are refused. -/
def ingest : List String → StateT Desk m Nat
  | [] => pure 0
  | message :: rest => do
    let r ← (serve machine settings (Inbound.handleMessage (registry settings) message)).run
    let refused ← ingest rest
    match r with
    | .ok _ => pure refused
    | .error _ => pure (refused + 1)

def refusedText (refused total : Nat) : String :=
  toString refused ++ " of " ++ toString total ++ " events failed"

def readRequest (text : String) : Except (List String) LinkRequest :=
  match Wire.ofText text with
  | .ok request => .ok request
  | .error m => .error ["invalid link request", m.message]

/-- Carries out a command and gives the text of its result. -/
def perform (c : Command) : Task m (Option String) := do
  let r := registry settings
  match c with
  | .ingest file => do
    let found := messages (← readFile machine file)
    let refused ← ExceptT.lift (ingest machine settings found)
    if refused = 0 then pure none else throw [refusedText refused found.length]
  | .showCode hash => do
    let v ← serve machine settings (Queries.code r hash)
    pure (some (Wire.prettyText v))
  | .link hash file => do
    let text ← readFile machine file
    let request ← ExceptT.mk (pure (readRequest text))
    let v ← serve machine settings (Link.link r (.ofSettings settings) hash request)
    pure (some (Wire.prettyText v))
  | .showCase id => do
    let c ← serve machine settings (Queries.case r id)
    pure (some (Wire.prettyText c))
  | .showAddress uprn latest =>
    if latest then do
      let c ← serve machine settings (Queries.latestCaseAt r uprn)
      pure (some (Wire.prettyText c))
    else do
      let cases ← serve machine settings (r.casesAt uprn)
      pure (some (Wire.prettyText cases))

/-- Makes the folder of the file store. -/
def openStore : Task m Unit := ExceptT.mk do
  match settings.backend with
  | .memory => pure (.ok ())
  | .file =>
    match ← machine.makeFolder settings.path with
    | .ok () => pure (.ok ())
    | .error reason =>
      pure (.error ["failed to create store directory " ++ settings.path, reason])

end Desk

namespace CommandLine

variable {m : Type → Type} [Monad m] (machine : Machine m)

def usage : Outcome := ⟨2, "", "usage: ingest FILE | get HASH | link HASH FILE | case ID | " ++
  "uprn UPRN [--latest]"⟩

def failed (chain : List String) : Outcome := ⟨1, "", Report.text chain⟩

/-- The variables of these names that the machine has. -/
def lookupAll : List String → m (List (String × String))
  | [] => pure []
  | name :: rest => do
    let value ← machine.lookup name
    let others ← lookupAll rest
    pure (value.toList.map (name, ·) ++ others)

/-- The settings from the variables of the machine and those of its text. -/
def settings : m (Except SettingFault Settings) := do
  let text := (← machine.dotEnv).getD ""
  let vars ← lookupAll machine (Settings.names ++ DotEnv.mentioned text)
  let more := DotEnv.ofText (vars.lookup ·) text
  pure (Settings.ofVariables ((vars ++ more).lookup ·))

/-- What a command that succeeded prints. -/
def succeeded (result : Option String) (events : List OutboundEvent) : Outcome :=
  let lines := result.toList ++ events.map Wire.text
  ⟨0, String.join (lines.map (· ++ "\n")), ""⟩

/-- Carries out a command under settings. -/
def execute (s : Settings) (c : Command) : m Outcome := do
  let task : Desk.Task m (Option String) := do
    Desk.openStore machine s
    Desk.perform machine s c
  match ← task.run.run ⟨.empty, []⟩ with
  | (.ok result, desk) => pure (succeeded result desk.published)
  | (.error chain, _) => pure (failed chain)

/-- Runs a command given by its arguments. -/
def run (args : List String) : m Outcome := do
  match Command.ofArgs args with
  | none => pure usage
  | some c =>
    match ← settings machine with
    | .error f => pure (failed ("failed to load configuration" :: f.chain))
    | .ok s => execute machine s c

end CommandLine
end CensusLink
