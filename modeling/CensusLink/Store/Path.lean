import CensusLink.Text.Split

/-!
Paths as they are written: names apart by slashes. An empty name and a single point stay in place,
two points go up, and a path that begins with a slash starts at the top.
-/
namespace CensusLink.PathText

/-- The names of a path, the last one first. -/
def names (path : String) : List String := (Text.split '/' path).reverse

def ofNames (names : List String) : String := "/".intercalate names.reverse

def startsAtTop (path : String) : Bool := path.toList.head? == some '/'

/-- A path inside a folder; one that starts at the top stays as it is. -/
def join (folder path : String) : String :=
  if startsAtTop path then path
  else if folder = "" || folder.toList.getLast? == some '/' then folder ++ path
  else folder ++ "/" ++ path

/-- A path without the slashes at its end. -/
def bare (path : String) : String := ofNames ((names path).dropWhile (· = ""))

/-- Whether a name counts behind the names before it: a single point does only as the first. -/
def counts (name : String) (before : List String) : Bool :=
  name ≠ "" && (name ≠ "." || before.isEmpty)

/-- What the names up to each one that counts make, the longest first. -/
def lineage : List String → List (List String)
  | [] => []
  | name :: before =>
    if counts name before then (name :: before) :: lineage before else lineage before

/-- The path of the folder that a path is in. -/
def folder (path : String) : String :=
  match lineage (names path) with
  | _ :: above :: _ => ofNames above
  | _ => if startsAtTop path then "/" else ""

/-- A path and those of the folders above it, the nearest first. Neither the top nor the folder that
the path starts from is among them. -/
def withFolders (path : String) : List String :=
  match lineage (names path) with
  | [] => []
  | _ :: above => path :: above.map ofNames

end CensusLink.PathText
