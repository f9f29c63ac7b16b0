import CensusLink.Retry.Loop

/-!
Values of a type kept as documents. Writes are made under a retry policy and reads once; a document
that is no value of the type is a fault of the store.
-/
namespace CensusLink.Records

/-- A value without a JSON form, and why it has none. -/
def unwritable (schema key reason : String) : Fault :=
  .system ("Failed to serialise document for schema '" ++ schema ++ "' key '" ++ key ++ "': " ++
    reason)

/-- Stores what has a JSON form. -/
def putDocument (p : RetryPolicy) (schema key : String) (document : Except String Document) :
    Service Unit :=
  match document with
  | .ok d => (Write.store schema key d).make p
  | .error reason => Service.of (.error (unwritable schema key reason))

def remove (p : RetryPolicy) (schema key : String) : Service Unit :=
  (Write.delete schema key).make p

variable {α : Type}

def put [Packed α] (p : RetryPolicy) (schema key : String) (a : α) : Service Unit :=
  putDocument p schema key (.ok (Wire.toDocument a))

def unreadable (schema key : String) (m : Misfit) : Fault :=
  .system ("Failed to deserialise document '" ++ key ++ "' in schema '" ++ schema ++ "': " ++
    m.message)

variable [Wire α]

def get? (schema key : String) : Service (Option α) := do
  match ← Service.call (.retrieve schema key) with
  | none => pure none
  | some d =>
    match Wire.ofDocument d with
    | .ok a => pure (some a)
    | .error m => throw (unreadable schema key m)

/-- What a document says of its own id. -/
def idText (d : Document) : String :=
  match d.json.get? "id" with
  | some (.string id) => id
  | _ => "<no id>"

def unreadableFound (schema path value : String) (d : Document) (m : Misfit) : Fault :=
  .system ("Failed to deserialise document '" ++ idText d ++ "' in schema '" ++ schema ++
    "' (search " ++ path ++ "=" ++ value ++ "): " ++ m.message)

/-- The value of a document that a search found. -/
def ofFound (schema path value : String) (d : Document) : Except Fault α :=
  match Wire.ofDocument d with
  | .ok a => .ok a
  | .error m => .error (unreadableFound schema path value d m)

def find (schema path value : String) : Service (List α) := do
  let found : List Document ← Service.call (.search schema path value)
  Service.of (found.mapM (ofFound schema path value))

end CensusLink.Records
