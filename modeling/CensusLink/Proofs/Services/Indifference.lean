import CensusLink.Proofs.Services.Agreement

/-!
The service and the order of what is found. Every service agrees with itself: in which order a store
finds the cases at an address makes no difference to what it does, or to what it comes to, but for
the list of these cases itself. For services that go in step agree where all is in place, since the
cases at an address can all be read there and their ids differ.
-/
namespace CensusLink

namespace Write

variable {r : Registry} {w : Write}

theorem agrees_attempt (proper : w.toCall.Proper r) : Program.Agrees r Eq w.attempt w.attempt := by
  cases w with
  | store schema key d =>
    exact .call proper fun m _ o o' alike alike' => .done (Eq.trans alike (Eq.symm alike'))
  | delete schema key =>
    exact .call proper fun m _ o o' alike alike' => .done (Eq.trans alike (Eq.symm alike'))

theorem agrees_persist (proper : w.toCall.Proper r) (p : RetryPolicy) (left number : Nat) :
    Program.Agrees r Eq (w.persist p left number) (w.persist p left number) := by
  induction left generalizing number with
  | zero =>
    rw [persist]
    refine (agrees_attempt proper).bind ?_
    rintro o _ rfl
    split
    · exact .done rfl
    · split
      · exact .other rfl fun _ => .done rfl
      · exact .done rfl
  | succ left ih =>
    rw [persist]
    refine (agrees_attempt proper).bind ?_
    rintro o _ rfl
    split
    · exact .done rfl
    · split
      · exact .other rfl fun _ => ih _
      · exact .done rfl

end Write

namespace Registry

variable {r : Registry}

theorem Keeps.proper {w : Write} (keeps : r.Keeps w) : w.toCall.Proper r := by
  cases keeps with
  | code code => exact fun _ hd => List.mem_singleton.1 hd ▸ .code code
  | case c => exact fun _ hd => List.mem_singleton.1 hd ▸ .case c

/-- Where all is in place a search at an address finds what can be read as the cases there. -/
theorem exists_found (named : r.WellNamed) {m : MemoryStore} (placed : r.Placed m) {uprn : String}
    {o : Except Fault (List Document)}
    (alike : StoreCall.Alike (.search r.schemas.case uprnPath uprn) o
      (m.step (.search r.schemas.case uprnPath uprn)).1) :
    ∃ found, o = .ok found ∧
      found.Perm (MemoryStore.matching uprnPath uprn (m.documents r.schemas.case)) ∧
      ∀ d ∈ found, ∃ c : CollectionCase, Wire.ofDocument d = .ok c := by
  rw [m.step_of_valid (c := .search r.schemas.case uprnPath uprn) named.case] at alike
  cases o with
  | error f => cases alike
  | ok found =>
    have perm : found.Perm (MemoryStore.matching uprnPath uprn (m.documents r.schemas.case)) :=
      alike
    refine ⟨found, rfl, perm, fun d hd => ?_⟩
    obtain ⟨e, kept, rfl⟩ := List.mem_map.1 (perm.mem_iff.1 hd)
    exact (placed.cases e (List.mem_filter.1 kept).1).imp fun _ => And.left

/-- Whatever order it is found in, what is found at an address is the same. -/
theorem sameFound (named : r.WellNamed) {m : MemoryStore} (placed : r.Placed m) {uprn : String}
    {o o' : Except Fault (List Document)}
    (alike : StoreCall.Alike (.search r.schemas.case uprnPath uprn) o
      (m.step (.search r.schemas.case uprnPath uprn)).1)
    (alike' : StoreCall.Alike (.search r.schemas.case uprnPath uprn) o'
      (m.step (.search r.schemas.case uprnPath uprn)).1) : Service.Alike SameFound o o' := by
  obtain ⟨found, rfl, perm, reads⟩ := exists_found named placed alike
  obtain ⟨others, rfl, perm', _⟩ := exists_found named placed alike'
  refine .ok (.reordered (perm.trans perm'.symm) reads ?_)
  exact ((perm.filterMap _).map _).nodup_iff.2 (nodup_ids_casesIn placed uprn)

end Registry

/-- Programs in step agree if what they write is kept in its place. -/
theorem Program.InStep.agrees {r : Registry} {may : Write → Prop} {α β : Type}
    {same : α → β → Prop} {p : Program α} {q : Program β} (h : InStep r may same p q)
    (named : r.WellNamed) (proper : ∀ w, may w → w.toCall.Proper r) : Agrees r same p q := by
  induction h with
  | done h => exact .done h
  | get _ _ ih =>
    refine .call (StoreCall.proper_of_not_isWrite rfl) fun m _ o o' alike alike' => ?_
    obtain rfl : o = o' := Eq.trans alike (Eq.symm alike')
    exact ih o
  | find _ ih =>
    refine .call (StoreCall.proper_of_not_isWrite rfl) fun m placed o o' alike alike' => ?_
    exact ih o o' (Registry.sameFound named placed alike alike')
  | draw _ ih => exact .other rfl ih
  | time _ ih => exact .other rfl ih
  | tell _ ih => exact .other rfl fun _ => ih
  | write allowed _ ih =>
    refine (Write.agrees_persist (proper _ allowed) _ _ _).bind ?_
    rintro o _ rfl
    exact ih o

theorem agrees_serveAll {r : Registry} (named : r.WellNamed) (settings : LinkSettings)
    {ops : List Operation} (typed : ∀ o ∈ ops, o.Typed) :
    (serveAll r settings ops).Agrees r (List.Forall₂ Served.Alike) (serveAll r settings ops) := by
  refine (inStep_serveAll r settings ops).agrees named ?_
  rintro w ⟨o, member, may⟩
  exact ((typed o member).keeps may).proper

end CensusLink
