import CensusLink.Store.Path
import CensusLink.Text.Bytes

/-!
A tree of files and folders, as a list of places. A place is the names from the top down, and the
top itself is always a folder. Paths are walked name by name, each inside a folder that is there.
-/
namespace CensusLink

inductive FolderEntry
  | file (text : String)
  | folder
  deriving DecidableEq, Repr

/-- Why a path cannot be used. -/
inductive PathFault
  | absent
  | exists
  | notFolder
  | isFolder
  | tooLong
  | hasNul
  deriving DecidableEq, Repr

def PathFault.message : PathFault → String
  | .absent => "No such file or directory (os error 2)"
  | .exists => "File exists (os error 17)"
  | .notFolder => "Not a directory (os error 20)"
  | .isFolder => "Is a directory (os error 21)"
  | .tooLong => "File name too long (os error 36)"
  | .hasNul => "file name contained an unexpected NUL byte"

abbrev Place := List String

structure Folder where
  entries : List (Place × FolderEntry)
  deriving DecidableEq, Repr

namespace Folder

def empty : Folder := ⟨[]⟩

/-- The bytes that a name may have at most. -/
def longestName : Nat := 255

/-- The bytes that a path may have at most. -/
def longestPath : Nat := 4095

def entry? (f : Folder) (place : Place) : Option FolderEntry :=
  if place = [] then some .folder else f.entries.lookup place

def put (f : Folder) (place : Place) (e : FolderEntry) : Folder :=
  ⟨f.entries.filter (·.1 ≠ place) ++ [(place, e)]⟩

/-- Where one name leads. -/
def walk (f : Folder) (place : Place) (name : String) : Except PathFault Place :=
  match f.entry? place with
  | none => .error .absent
  | some (.file _) => .error .notFolder
  | some .folder =>
    if name = "" || name = "." then .ok place
    else if name = ".." then .ok place.dropLast
    else if longestName < Text.byteCount name.toList then .error .tooLong
    else .ok (place ++ [name])

/-- Where a path leads from a place. Only its last name may be that of nothing. -/
def find (f : Folder) (here : Place) (path : String) : Except PathFault Place :=
  if path.toList.contains '\x00' then .error .hasNul
  else if path = "" then .error .absent
  else if longestPath < Text.byteCount path.toList then .error .tooLong
  else
    (PathText.names path).reverse.foldlM f.walk (if PathText.startsAtTop path then [] else here)

def read (f : Folder) (here : Place) (path : String) : Except PathFault String := do
  match f.entry? (← f.find here path) with
  | some (.file text) => .ok text
  | some .folder => .error .isFolder
  | none => .error .absent

def isFolder (f : Folder) (here : Place) (path : String) : Bool :=
  match f.find here path with
  | .ok place => f.entry? place == some .folder
  | .error _ => false

/-- Makes a folder inside one that is there. -/
def makeFolder (f : Folder) (here : Place) (path : String) : Except PathFault Folder := do
  let place ← f.find here (PathText.bare path)
  if (f.entry? place).isSome then .error .exists else .ok (f.put place .folder)

/-- Makes a folder unless it is there. -/
def ensureFolder (f : Folder) (here : Place) (path : String) : Except PathFault Folder :=
  match f.makeFolder here path with
  | .error .exists => if f.isFolder here path then .ok f else .error .exists
  | made => made

/-- Makes the first of some folders, each of which is inside the next, and of the others as many as
that takes. What has been made stays, also if another one cannot be made. -/
def ensureNested (f : Folder) (here : Place) : List String → Except PathFault Unit × Folder
  | [] => (.ok (), f)
  | path :: above =>
    match f.ensureFolder here path with
    | .ok made => (.ok (), made)
    | .error .absent =>
      match f.ensureNested here above with
      | (.ok (), g) =>
        match g.ensureFolder here path with
        | .ok made => (.ok (), made)
        | .error fault => (.error fault, g)
      | failed => failed
    | .error fault => (.error fault, f)

/-- Makes a folder and those above it. -/
def makeFolders (f : Folder) (here : Place) (path : String) : Except PathFault Unit × Folder :=
  f.ensureNested here (PathText.withFolders path)

/-- Writes a file inside a folder that is there. -/
def write (f : Folder) (here : Place) (path text : String) : Except PathFault Folder := do
  let place ← f.find here path
  if f.entry? place = some .folder then .error .isFolder else .ok (f.put place (.file text))

/-- The files below a place, under their names from there. -/
def filesBelow (f : Folder) (place : Place) : List (Place × String) :=
  f.entries.filterMap fun (p, e) =>
    match e with
    | .file text => if place.isPrefixOf p then some (p.drop place.length, text) else none
    | .folder => none

end Folder
end CensusLink
