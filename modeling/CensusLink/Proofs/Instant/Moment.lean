import CensusLink.Instant.Moment

/-!
Moments and their texts. The text of a moment is that of the instant which it tells, and tells the
moment itself exactly if no leap second of it stands before the end of a minute.
-/
namespace CensusLink

namespace Moment

example : text ⟨⟨2021, 3, 1, 43230, 1500000000⟩, by decide⟩ = "2021-03-01T12:00:31.500Z" := by
  decide +kernel

end Moment
end CensusLink
