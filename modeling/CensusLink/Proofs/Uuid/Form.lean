import CensusLink.Proofs.Uuid.RoundTrip

/-!
The text of an identifier: five groups of hexadecimal digits in lower case with hyphens between
them, which together stand for its value.
-/
namespace CensusLink.Uuid

/-- A text spells an identifier by the digits of its five groups. -/
def Spells (u : Uuid) (cs : List Char) : Prop :=
  ∃ a b c d e : List Char, cs = a ++ '-' :: b ++ '-' :: c ++ '-' :: d ++ '-' :: e ∧
    [a, b, c, d, e].map List.length = groupLengths ∧
    (∀ x ∈ a ++ b ++ c ++ d ++ e, x ∈ "0123456789abcdef".toList) ∧
    Text.appendHex 0 (a ++ b ++ c ++ d ++ e) = some u.value

end CensusLink.Uuid
