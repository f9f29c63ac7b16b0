import CensusLink.Proofs.Registry.Placed
import Mathlib.Data.List.Induction

/-!
Codes and cases entered one after the other. The store that they lead to has the last code of each
hash and the last case of each id as it was entered, and finds at an address the last cases that
have its number: a case that was entered again with another number is found there only.
-/
namespace CensusLink

/-- A code or a case as it is written. -/
inductive Entry
  | code (code : AccessCode)
  | case (c : CollectionCase)

namespace Entry

def deed (r : Registry) : Entry → Deed
  | .code a => .ofCode r a
  | .case c => .ofCase r c

variable {r : Registry} {entries : List Entry} {e : Entry} {hash id : String}

/-- The store that entries lead to. -/
def left (r : Registry) (entries : List Entry) : MemoryStore :=
  MemoryStore.empty.after (entries.map (·.deed r))

end Entry
end CensusLink
