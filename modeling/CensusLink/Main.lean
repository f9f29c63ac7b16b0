import CensusLink.CommandLine
import CensusLink.Instant.Epoch
import Std.Time.DateTime.Timestamp

/-!
The program: runs the command line on this machine, with its environment, files, clock and random
numbers.
-/
namespace CensusLink.ThisMachine

def numbered (details : String) (code : UInt32) : String :=
  details ++ " (os error " ++ toString code ++ ")"

/-- Why a file or folder could not be used. -/
def reason : IO.Error → String
  | .noFileOrDirectory _ code details => numbered details code
  | .inappropriateType _ code details => numbered details code
  | .alreadyExists _ code details => numbered details code
  | .permissionDenied _ code details => numbered details code
  | .invalidArgument _ code details => numbered details code
  | e => toString e

/-- A text, looked for in this folder and those above it. -/
def nearest (name : String) : Nat → IO (Option String)
  | 0 => pure none
  | levels + 1 => do
    match ← (IO.FS.readFile name).toBaseIO with
    | .ok text => pure (some text)
    | .error _ => nearest ("../" ++ name) levels

def dotEnv : IO (Option String) := do
  let here ← IO.currentDir
  nearest ".env" ((here.toString.toList.filter (· == '/')).length + 1)

def readText (path : String) : IO (Except String String) := do
  match ← (IO.FS.readFile path).toBaseIO with
  | .ok text => pure (.ok text)
  | .error e => pure (.error (reason e))

def makeFolder (path : String) : IO (Except String Unit) := do
  if path = "" then pure (.ok ())
  else
    match ← (IO.FS.createDirAll path).toBaseIO with
    | .ok () => pure (.ok ())
    | .error e => pure (.error (reason e))

def contents (path : String) : IO FileContents := do
  match ← (IO.FS.readFile path).toBaseIO with
  | .ok text => pure (.text text)
  | .error (.noFileOrDirectory _ _ _) => pure .absent
  | .error e => pure (.unreadable (reason e))

/-- Writes a file beside the old one and puts it in its place. -/
def replace (path text : String) : IO (Except Fault Unit) := do
  let draft := path ++ ".new"
  match ← (IO.FS.writeFile draft text).toBaseIO with
  | .error e => pure (.error (.ofDevice (reason e)))
  | .ok () =>
    match ← (IO.FS.rename draft path).toBaseIO with
    | .ok () => pure (.ok ())
    | .error e => pure (.error (FileStore.notReplaced path (reason e)))

def sleep (milliseconds : Nat) : IO Unit := IO.sleep (.ofNat (Nat.min milliseconds 4294967295))

def freshId : IO Uuid := do
  let number (bytes : ByteArray) : Nat := bytes.toList.foldl (fun n b => 256 * n + b.toNat) 0
  pure (.ofRandom (number (← IO.getRandomBytes 6)) (number (← IO.getRandomBytes 2))
    (number (← IO.getRandomBytes 8)))

/-- The time now, or the beginning of 1970 if the clock shows no date. -/
def now : IO Instant := do
  let t ← Std.Time.Timestamp.now
  let civil := Civil.ofNanoseconds t.toNanosecondsSinceUnixEpoch.val.toNat
  pure ((Instant.ofCivil? civil).getD ⟨⟨1970, 1, 1, 0, 0⟩, by decide⟩)

def machine : Machine IO where
  lookup name := IO.getEnv name
  dotEnv
  readText
  makeFolder
  contents
  replace
  sleep
  freshId
  now

end CensusLink.ThisMachine

def main (args : List String) : IO UInt32 := do
  let outcome ← CensusLink.CommandLine.run CensusLink.ThisMachine.machine args
  IO.print outcome.out
  if outcome.err ≠ "" then IO.eprintln outcome.err
  pure (.ofNat outcome.exit)
