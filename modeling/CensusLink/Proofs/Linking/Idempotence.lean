import CensusLink.Proofs.Linking.Meaning
import CensusLink.Proofs.Linking.Settled

/-!
Linking again. On a store that does not fail a settled code can be linked again with any good
request for its address, and the main statement says that this repeats what the first link has
shown and told, and changes nothing.
-/
namespace CensusLink.Link

variable {r : Registry} {settings : LinkSettings} {k : Conditions} {s s' : MemoryStore}
  {code : AccessCode} {c : CollectionCase} {individual : Option CollectionCase} {e : Episode}
  {es : List Episode} {request : LinkRequest} {type : AddressType} {uprn : String}

theorem Settled.linkable (h : Settled r s request.place code c individual)
    (asks : request.AsksFor type) : Linkable r s code.hash request :=
  ⟨code, type, c.type, h.codeIn_eq, asks, .standing h.stands, Pairing.check_eq_ok_iff.1 h.allowed⟩

/-- On a store that does not fail, linking a settled code again succeeds. -/
theorem Settled.repeats (steady : k.Steady) (named : r.WellNamed) (placed : r.Placed s)
    (h : Settled r s uprn code c individual) (run : e.Leads r settings k s s')
    (same : e.hash = code.hash) (here : e.request.place = uprn) (asks : e.request.AsksFor type) :
    e.deeds = confirmation r code c individual ∧
      e.outcome = .ok (CodeView.merged (individual.getD c) code) := by
  rcases (h.again named placed run same here).2 with ⟨_, f, failed⟩ | confirms
  · have does := (Service.does_of_runsOn run).1
    rw [failed, same] at does
    subst here
    exact absurd (h.linkable asks) (refused_of_steady steady named placed does).2.1
  · exact confirms

/-- There is always a way for a settled code to be linked again. -/
theorem Settled.exists_session (steady : k.Steady) (named : r.WellNamed) (placed : r.Placed s)
    (h : Settled r s uprn code c individual) (settings : LinkSettings)
    {requests : List LinkRequest} (good : ∀ q ∈ requests, q.place = uprn) :
    ∃ es, es.map Episode.request = requests ∧ (∀ f ∈ es, f.hash = code.hash) ∧
      Session r settings k s es s := by
  induction requests with
  | nil => exact ⟨[], rfl, by simp, .nil s⟩
  | cons q rest ih =>
    obtain ⟨here, later⟩ := List.forall_mem_cons.1 good
    obtain ⟨es, made, hashes, more⟩ := ih later
    obtain ⟨t, o, s', run⟩ := Program.exists_runsOn (Conditions.exists_allows steady.draws)
      (link r settings code.hash q).run s
    have leads : Episode.Leads r settings k s ⟨code.hash, q, t, o⟩ s' := run
    obtain ⟨rfl, _⟩ := h.again named placed leads rfl here
    refine ⟨⟨code.hash, q, t, o⟩ :: es, ?_, List.forall_mem_cons.2 ⟨rfl, hashes⟩, .cons leads more⟩
    rw [List.map_cons, made]

/-- A link that has succeeded can be made again any number of times, with any good requests for the
same address. Each time it shows the same, keeps only the code as it is, tells only what the first
link has told of the code, and leaves the store as it was. -/
theorem linking_is_idempotent (named : r.WellNamed) (placed : r.Placed s) (fresh : k.DrawsNew r)
    (first : e.Leads r settings k s s') {v : CodeView} (succeeds : e.outcome = .ok v) :
    ∃ before code n, e.deeds = before ++ [.ofCode r code, .told n] ∧
      n.type = .questionnaireLinked ∧ (∀ m, .told m ∈ before → m.type ≠ .questionnaireLinked) ∧
      ∀ again : Conditions, again.Steady → ∀ requests : List LinkRequest,
        (∀ q ∈ requests, q.place = e.request.place ∧ ∃ type, q.AsksFor type) →
        (∃ es s₁, es.map Episode.request = requests ∧ (∀ f ∈ es, f.hash = e.hash) ∧
          Session r settings again s' es s₁) ∧
        ∀ es s₁, es.map Episode.request = requests → (∀ f ∈ es, f.hash = e.hash) →
          Session r settings again s' es s₁ →
            s₁ = s' ∧ ∀ f ∈ es, f.outcome = .ok v ∧ f.deeds = [.ofCode r code, .told n] := by
  obtain ⟨code, c, individual, hash_eq, settled, rfl, before, deeds, reports⟩ :=
    first.settled named placed fresh succeeds
  have placed' := first.placed named placed
  refine ⟨before, code, _, deeds, rfl, fun m hm eq => ?_,
    fun again steady requests good => ⟨?_, ?_⟩⟩
  · rw [reports m hm] at eq
    cases eq
  · obtain ⟨es, made, hashes, session⟩ :=
      settled.exists_session steady named placed' settings fun q hq => (good q hq).1
    exact ⟨es, s', made, fun f hf => (hashes f hf).trans hash_eq, session⟩
  · rintro es s₁ rfl hashes session
    have same (f) (hf : f ∈ es) : f.hash = code.hash ∧ f.request.place = e.request.place :=
      ⟨(hashes f hf).trans hash_eq.symm, (good _ (List.mem_map_of_mem hf)).1⟩
    obtain ⟨rfl, runs⟩ := settled.session named placed' session same
    refine ⟨rfl, fun f hf => ?_⟩
    obtain ⟨_, asks⟩ := (good _ (List.mem_map_of_mem hf)).2
    obtain ⟨did, shown⟩ := settled.repeats steady named placed' (runs f hf) (same f hf).1
      (same f hf).2 asks
    exact ⟨shown, did⟩

/-- In the example the link that has gone through is made twice more. -/
theorem linking_is_idempotent_sample :
    ∃ (e : Episode) (s s' : MemoryStore) (v : CodeView), Sample.registry.WellNamed ∧
      Sample.registry.Placed s ∧ Sample.rough.DrawsNew Sample.registry ∧
      e.Leads Sample.registry .standard Sample.rough s s' ∧ e.outcome = .ok v ∧
      ∃ es, es.map Episode.request = [.of "200" "HH", .of " 200 " "CE"] ∧
        Session Sample.registry .standard Conditions.calm s' es s' ∧
        ∀ f ∈ es, f.outcome = .ok v := by
  obtain ⟨e₁, e, s', session, same, _, ⟨v, succeeds⟩, _⟩ := Sample.exists_session
  cases session with
  | cons run more =>
    cases more with
    | cons first _ =>
      have placed := run.placed Sample.wellNamed Sample.placed
      obtain ⟨_, _, _, _, _, _, again⟩ :=
        linking_is_idempotent Sample.wellNamed placed Sample.drawsNew first succeeds
      have good : ∀ q ∈ [LinkRequest.of "200" "HH", .of " 200 " "CE"],
          q.place = e.request.place ∧ ∃ type, q.AsksFor type := by
        rw [(same e (by simp)).2]
        refine List.forall_mem_cons.2 ⟨⟨by decide +kernel, .household, ?_⟩,
          List.forall_mem_cons.2 ⟨⟨by decide +kernel, .communal, ?_⟩, by simp⟩⟩
        · exact ⟨by decide +kernel, by decide +kernel⟩
        · exact ⟨by decide +kernel, by decide +kernel⟩
      obtain ⟨⟨es, s₁, made, hashes, again⟩, all⟩ :=
        again Conditions.calm Conditions.steady_calm [.of "200" "HH", .of " 200 " "CE"] good
      obtain ⟨rfl, shown⟩ := all es s₁ made hashes again
      exact ⟨e, _, s₁, v, Sample.wellNamed, placed, Sample.drawsNew, first, succeeds, es, made,
        again, fun f hf => (shown f hf).1⟩

end CensusLink.Link
