import CensusLink.Proofs.Services.Operations

/-!
The schemas that the service keeps to. Whatever the replies to it are, a service makes calls to the
schema of codes and to that of cases only, as long as it is not asked to write any document that one
likes. So a store that takes both schemas refuses none of its calls for their schema, and only such
a store does.
-/
namespace CensusLink

theorem Registry.Keeps.own {r : Registry} {w : Write} (keeps : r.Keeps w) : w.toCall.Own r := by
  cases keeps with
  | code _ => exact .inl rfl
  | case _ => exact .inr rfl

/-- All calls of the service are to schemas that a store takes exactly if it takes the two. -/
theorem calls_taken_iff (r : Registry) (settings : LinkSettings) :
    (∀ ops : List Operation, (∀ o ∈ ops, o.Typed) → ∀ t served,
      (serveAll r settings ops).Runs t served →
        ∀ c ∈ t.calls, Schema.check c.schema = .ok ()) ↔
    Schema.check r.schemas.accessCode = .ok () ∧ Schema.check r.schemas.case = .ok () := by
  constructor
  · intro taken
    -- one look at each schema
    have typed : ∀ o ∈ [Operation.readCode "", .readCase ""], o.Typed := by
      simp [Operation.Typed]
    have run : (serveAll r settings [.readCode "", .readCase ""]).Runs
        [⟨.call (.retrieve r.schemas.accessCode ""), .ok none⟩,
          ⟨.call (.retrieve r.schemas.case ""), .ok none⟩]
        [⟨.readCode "", .ok none⟩, ⟨.readCase "", .ok none⟩] := .perform (.perform (.done _))
    have all := taken _ typed _ _ run
    exact ⟨all _ List.mem_cons_self, all _ (List.mem_cons_of_mem _ List.mem_cons_self)⟩
  · rintro ⟨code, case⟩ ops typed t served run c hc
    have own : c.Own r := by
      rcases (inStep_serveAll r settings ops).calls_of_runs run c hc with
        ⟨_, here⟩ | ⟨w, ⟨o, member, may⟩, rfl⟩
      · exact here
      · exact ((typed o member).keeps may).own
    rcases own with is | is
    · rw [is]
      exact code
    · rw [is]
      exact case

end CensusLink
