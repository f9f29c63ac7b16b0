import CensusLink.Linking.Link

/-!
What a respondent may ask for: an access code with its case, a case, and the cases at an address.
-/
namespace CensusLink.Queries

def unknownCase (id : String) : Fault := .notFound ("Case '" ++ id ++ "' not found")

def noValidCase (uprn : String) : Fault :=
  .notFound ("No valid case found for uprn '" ++ uprn ++ "'")

/-- A result that has to be there. -/
def demand {α : Type} (absent : Fault) (a : Option α) : Except Fault α :=
  match a with
  | some a => .ok a
  | none => .error absent

variable (r : Registry)

/-- A code as a respondent sees it: with its case, when that is stored. -/
def code (hash : String) : Service CodeView := do
  let code ← Link.findCode r hash
  match code.caseId with
  | none => pure (CodeView.ofCode code)
  | some id => do
    match ← r.readCase id with
    | some c => pure (CodeView.merged c code)
    | none => pure (CodeView.ofCode code)

def case (id : String) : Service CollectionCase := do
  let c ← r.readCase id
  Service.of (demand (unknownCase id) c)

def latestCaseAt (uprn : String) : Service CollectionCase := do
  let c ← r.latestCaseAt uprn
  Service.of (demand (noValidCase uprn) c)

end CensusLink.Queries
