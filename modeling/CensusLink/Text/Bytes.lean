/-!
The length of a text in bytes, as it is kept and sent.
-/
namespace CensusLink.Text

def byteCount (cs : List Char) : Nat := cs.foldl (fun n c => n + c.utf8Size) 0

end CensusLink.Text
