import CensusLink.Store.Call
import CensusLink.Store.Path
import CensusLink.Store.Query

/-!
A document store in files: each schema is one file that holds a list of records, the one written
last at the end. A call reads the file of its schema and writes it anew if the list has changed.
-/
namespace CensusLink

/-- A document and its key, as a file holds them. -/
structure StoredRecord where
  key : String
  document : Document

instance : Wire StoredRecord where
  shape := .record "DocumentRecord" <|
    .cons "key" .required (Wire.shape String) <|
    .cons "document" .required (Wire.shape Document) .nil
  pack r := (Wire.pack r.key, Wire.pack r.document, ())
  unpack := fun (key, document, ()) => ⟨Wire.unpack key, Wire.unpack document⟩
  unpack_pack r := by simp [Wire.unpack_pack]

/-- What is found where the file of a schema should be. -/
inductive FileContents
  | absent
  | text (s : String)
  | unreadable (reason : String)
  deriving DecidableEq, Repr

/-- Files by their paths. -/
structure Files (m : Type → Type) where
  contents : String → m FileContents
  /-- Makes a folder and those above it. -/
  makeFolder : String → m (Except String Unit)
  /-- Puts a text in the place of a file. -/
  replace : String → String → m (Except Fault Unit)

namespace FileStore

def fileName (schema : String) : String := schema ++ ".json"

def path (root schema : String) : String := PathText.join root (fileName schema)

def unreadable (path reason : String) : Fault :=
  .system ("Failed to read schema file '" ++ path ++ "': " ++ reason)

def notRecords (path : String) (m : Misfit) : Fault :=
  .system ("Schema file '" ++ path ++ "' is not a valid document list: " ++ m.message)

def noFolder (path reason : String) : Fault :=
  .system ("Failed to create directory '" ++ path ++ "': " ++ reason)

def notReplaced (path reason : String) : Fault :=
  .system ("Failed to replace '" ++ path ++ "': " ++ reason)

/-- A writer that was not let in before its time was up. -/
def notAdmitted (schema key : String) (milliseconds : Nat) : Fault :=
  .contention ("Write to schema '" ++ schema ++ "' key '" ++ key ++ "' not admitted within " ++
    toString milliseconds ++ "ms")

/-- The records of a file; a file that is absent or empty has none. -/
def load (path : String) : FileContents → Except Fault (List StoredRecord)
  | .absent => .ok []
  | .unreadable reason => .error (unreadable path reason)
  | .text s =>
    if s = "" then .ok []
    else
      match Wire.ofText s with
      | .ok records => .ok records
      | .error m => .error (notRecords path m)

def save (records : List StoredRecord) : FileContents := .text (Wire.prettyText records)

/-- The records of other keys. -/
def without (key : String) (records : List StoredRecord) : List StoredRecord :=
  records.filter (·.key ≠ key)

/-- What a call does to the records of its schema; none if they stay as they are. -/
def apply (records : List StoredRecord) :
    (c : StoreCall) → Except Fault (c.Reply × Option (List StoredRecord))
  | .store _ key d => .ok ((), some (without key records ++ [⟨key, d⟩]))
  | .retrieve schema key => do
    let found := (records.filter (·.key = key)).map (·.document)
    let d ← Query.single schema key found
    .ok (d, none)
  | .search _ path value =>
    .ok ((records.filter fun r => Query.matchesField r.document.json path value).map (·.document),
      none)
  | .delete _ key =>
    let rest := without key records
    .ok ((), if rest.length = records.length then none else some rest)

/-- Answers a call, given what is found in the file of its schema, and says what to write there. -/
def serve (root : String) (contents : FileContents) (c : StoreCall) :
    Except Fault (c.Reply × Option FileContents) := do
  Schema.check c.schema
  let records ← load (path root c.schema) contents
  let (reply, changed) ← apply records c
  .ok (reply, changed.map save)

variable {m : Type → Type} [Monad m] (files : Files m)

/-- Writes a file, in new folders if need be. -/
def write (path text : String) : m (Except Fault Unit) := do
  let folder := PathText.folder path
  match ← files.makeFolder folder with
  | .ok () => files.replace path text
  | .error reason => pure (.error (noFolder folder reason))

/-- Answers a call by way of the file of its schema. -/
def answer (root : String) (c : StoreCall) : m c.Outcome := do
  let path := path root c.schema
  match serve root (← files.contents path) c with
  | .error f => pure (.error f)
  | .ok (reply, some (.text s)) =>
    match ← write files path s with
    | .ok () => pure (.ok reply)
    | .error f => pure (.error f)
  | .ok (reply, _) => pure (.ok reply)

end FileStore
end CensusLink
