import CensusLink.Binary64.Reading
import CensusLink.Linking.Request
import CensusLink.Retry.Policy
import CensusLink.SchemaNames

/-!
The settings of the service, read from named variables. A variable that is not set leaves its
setting as it is by default; the first setting that cannot be accepted is reported.
-/
namespace CensusLink

/-- Where documents are kept: in memory, or in files. -/
inductive Backend
  | memory
  | file
  deriving DecidableEq, Repr

structure Settings where
  group : String
  accessCodeName : String
  caseName : String
  retry : RetryPolicy
  backend : Backend
  path : String
  workers : Nat
  survey : String
  deriving DecidableEq

/-- Why a text is no whole number, or no number. -/
inductive NumberFault
  | empty
  | digit
  | tooLarge
  | decimal (e : Binary64.ReadError)
  deriving DecidableEq, Repr

def NumberFault.message : NumberFault → String
  | .empty => "cannot parse integer from empty string"
  | .digit => "invalid digit found in string"
  | .tooLarge => "number too large to fit in target type"
  | .decimal e => e.message

inductive SettingFault
  | number (name raw : String) (reason : NumberFault)
  | noAttempt
  | multiplier (x : Binary64)
  | delays
  | backend
  deriving DecidableEq, Repr

/-- The report of a fault, followed by what caused it. -/
def SettingFault.chain : SettingFault → List String
  | .number name raw reason => [name ++ " has invalid value '" ++ raw ++ "'", reason.message]
  | .noAttempt => ["RH_RETRY_MAX_ATTEMPTS must be at least 1"]
  | .multiplier x => ["RH_RETRY_MULTIPLIER must be at least 1.0, got " ++ x.text]
  | .delays => ["RH_RETRY_MAX_DELAY_MS must not be below RH_RETRY_INITIAL_DELAY_MS"]
  | .backend => ["RH_STORE_BACKEND must be one of: memory, file"]

namespace Settings

def standard : Settings where
  group := "rh-local"
  accessCodeName := "uac"
  caseName := "case"
  retry := .standard
  backend := .file
  path := "./rh-data"
  workers := 4
  survey := "CENSUS"

/-- The names of the variables that hold settings. -/
def names : List String :=
  ["RH_SCHEMA_PREFIX", "GCP_PROJECT", "RH_ACCESS_CODE_SCHEMA", "RH_CASE_SCHEMA",
    "RH_RETRY_INITIAL_DELAY_MS", "RH_RETRY_MULTIPLIER", "RH_RETRY_MAX_DELAY_MS",
    "RH_RETRY_MAX_ATTEMPTS", "RH_STORE_BACKEND", "RH_STORE_PATH", "RH_WORKERS", "RH_SURVEY"]

/-- Appends a digit to a number below a limit. -/
def appendDigit (limit n : Nat) (c : Char) : Except NumberFault Nat :=
  if !c.isDigit then .error .digit
  else if 10 * n + (c.toNat - 48) < limit then .ok (10 * n + (c.toNat - 48))
  else .error .tooLarge

/-- A whole number below a limit, with or without a plus sign. -/
def readWhole (limit : Nat) (s : String) : Except NumberFault Nat :=
  match s.toList with
  | [] => .error .empty
  | ['+'] => .error .digit
  | '+' :: cs => cs.foldlM (appendDigit limit) 0
  | cs => cs.foldlM (appendDigit limit) 0

def readReal (s : String) : Except NumberFault Binary64 :=
  match Binary64.ofText s with
  | .ok x => .ok x
  | .error e => .error (.decimal e)

/-- The value of a variable without blanks around it, or what holds when it is not set. -/
def readVariable {α : Type} (vars : String → Option String) (name : String) (unset : α)
    (read : String → Except NumberFault α) : Except SettingFault α :=
  match vars name with
  | none => .ok unset
  | some raw =>
    match read (Text.trim raw) with
    | .ok a => .ok a
    | .error reason => .error (.number name raw reason)

def checkRetry (p : RetryPolicy) : Except SettingFault Unit :=
  if p.maxAttempts = 0 then .error .noAttempt
  else if p.multiplier.isNaN || p.multiplier.lt .one then .error (.multiplier p.multiplier)
  else if p.maxDelay < p.initialDelay then .error .delays
  else .ok ()

/-- A backend by one of its names, in letters of either case. -/
def readBackend (raw : String) : Except SettingFault Backend :=
  match String.ofList (raw.toList.map Char.toLower) with
  | "memory" => .ok .memory
  | "mem" => .ok .memory
  | "file" => .ok .file
  | "fs" => .ok .file
  | _ => .error .backend

def readRetry (vars : String → Option String) : Except SettingFault RetryPolicy := do
  let d := RetryPolicy.standard
  let initialDelay ← readVariable vars "RH_RETRY_INITIAL_DELAY_MS" d.initialDelay.toNat
    (readWhole 18446744073709551616)
  let multiplier ← readVariable vars "RH_RETRY_MULTIPLIER" d.multiplier readReal
  let maxDelay ← readVariable vars "RH_RETRY_MAX_DELAY_MS" d.maxDelay.toNat
    (readWhole 18446744073709551616)
  let maxAttempts ← readVariable vars "RH_RETRY_MAX_ATTEMPTS" d.maxAttempts.toNat
    (readWhole 4294967296)
  let p : RetryPolicy := ⟨.ofNat initialDelay, multiplier, .ofNat maxDelay, .ofNat maxAttempts⟩
  checkRetry p
  .ok p

def ofVariables (vars : String → Option String) : Except SettingFault Settings := do
  let retry ← readRetry vars
  let backend ← match vars "RH_STORE_BACKEND" with
    | some raw => readBackend raw
    | none => .ok standard.backend
  let workers ← readVariable vars "RH_WORKERS" standard.workers (readWhole 18446744073709551616)
  .ok {
    group := ((vars "RH_SCHEMA_PREFIX") <|> (vars "GCP_PROJECT")).getD standard.group
    accessCodeName := (vars "RH_ACCESS_CODE_SCHEMA").getD standard.accessCodeName
    caseName := (vars "RH_CASE_SCHEMA").getD standard.caseName
    retry
    backend
    path := (vars "RH_STORE_PATH").getD standard.path
    workers := Nat.max workers 1
    survey := (vars "RH_SURVEY").getD standard.survey }

def schemas (s : Settings) : SchemaNames := .within s.group s.accessCodeName s.caseName

end Settings
end CensusLink
