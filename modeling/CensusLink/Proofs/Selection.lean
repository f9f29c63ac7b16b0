import CensusLink.Proofs.Instant.Order
import CensusLink.Proofs.Latest
import CensusLink.Proofs.Registry.Placed
import CensusLink.Queries

/-!
The case that stands for an address: of those that are not of one person and whose address is not
known to be wrong, the one that was created last. It is the greatest of them by the time of creation
and then by id, so with ids that differ it does not depend on the order in which the cases come, and
neither does the answer to who asks for it.
-/
namespace CensusLink

namespace CollectionCase

variable {c d : CollectionCase} {cases others before after : List CollectionCase}

/-- Of two times of creation the first is later; a case without one is created before all others. -/
def CreatedAfter : Option Instant → Option Instant → Prop
  | some s, some t => t.Precedes s
  | some _, none => True
  | none, _ => False

/-- Created later than another case, or no earlier and with an id that comes after. -/
def Exceeds (c d : CollectionCase) : Prop :=
  CreatedAfter c.created d.created ∨ c.created = d.created ∧ d.id < c.id

theorem createdAfter_iff : CreatedAfter c.created d.created ↔ d.createdKey < c.createdKey := by
  rw [createdKey, createdKey]
  cases c.created with
  | none => exact ⟨False.elim, fun h => absurd h (List.not_lt_nil _)⟩
  | some s =>
    cases d.created with
    | none => exact ⟨fun _ => List.nil_lt_cons _ _, fun _ => trivial⟩
    | some t => exact Instant.precedes_iff

theorem createdKey_eq_iff : d.createdKey = c.createdKey ↔ c.created = d.created := by
  rw [createdKey, createdKey]
  cases c.created with
  | none =>
    cases d.created with
    | none => exact ⟨fun _ => rfl, fun _ => rfl⟩
    | some t => exact ⟨nofun, nofun⟩
  | some s =>
    cases d.created with
    | none => exact ⟨nofun, nofun⟩
    | some t => exact ⟨fun h => congrArg some (Instant.key_injective h).symm,
        fun h => congrArg Instant.key (Option.some.inj h).symm⟩

theorem exceeds_iff_later : c.Exceeds d ↔ c.Later d := by
  rw [Exceeds, Later, createdAfter_iff, createdKey_eq_iff]

/-- Of two cases with different ids one exceeds the other. -/
theorem exceeds_of_not_exceeds (ne : c.id ≠ d.id) (h : ¬ c.Exceeds d) : d.Exceeds c := by
  rw [exceeds_iff_later] at h ⊢
  cases le : c.notLaterThan d with
  | true => exact later_of_notLaterThan le ne
  | false => exact absurd (later_of_notLaterThan (notLaterThan_total le) ne.symm) h

theorem notLaterThan_of_exceeds (h : c.Exceeds d) : d.notLaterThan c := by
  refine notLaterThan_total (not_notLaterThan_of_later (exceeds_iff_later.1 h))

/-- Not the case of one person, and not at an address that is known to be wrong. -/
def Eligible (c : CollectionCase) : Prop := c.type ≠ .individual ∧ c.addressInvalid = false

theorem isEligible_iff : c.isEligible ↔ c.Eligible := by
  simp [isEligible, isIndividual, Eligible]

/-- The latest case is one of them and no case comes after it. -/
theorem latest?_spec (h : latest? cases = some c) : c ∈ cases ∧ ∀ d ∈ cases, d.notLaterThan c := by
  cases cases with
  | nil => cases h
  | cons best rest =>
    obtain rfl := Option.some.inj h
    exact foldl_latest best rest

theorem latestEligible?_eq_none_iff :
    latestEligible? cases = none ↔ ∀ c ∈ cases, ¬ c.Eligible := by
  rw [latestEligible?, latest?_eq_none_iff, List.filter_eq_nil_iff]
  simp only [isEligible_iff]

/-- What is selected is eligible, and nothing that is eligible exceeds it. -/
theorem latestEligible?_spec (h : latestEligible? cases = some c) :
    c ∈ cases ∧ c.Eligible ∧ ∀ d ∈ cases, d.Eligible → ¬ d.Exceeds c := by
  obtain ⟨member, latest⟩ := latest?_spec h
  obtain ⟨member, eligible⟩ := List.mem_filter.1 member
  refine ⟨member, isEligible_iff.1 eligible, fun d hd wanted exceeds => ?_⟩
  have le := latest d (List.mem_filter.2 ⟨hd, isEligible_iff.2 wanted⟩)
  rw [not_notLaterThan_of_later (exceeds_iff_later.1 exceeds)] at le
  cases le

/-- The eligible cases have different ids. -/
def DistinctIds (cases : List CollectionCase) : Prop :=
  ((cases.filter isEligible).map (·.id)).Nodup

theorem latestEligible?_of_filter_perm (ids : DistinctIds cases)
    (same : (others.filter isEligible).Perm (cases.filter isEligible)) :
    latestEligible? others = latestEligible? cases :=
  (latest?_eq_of_perm ids same.symm).symm

/-- One more eligible case is selected if it exceeds what was selected before, or if there was
nothing to be selected; otherwise the selection stays as it was. -/
theorem latestEligible?_insert (ids : DistinctIds (before ++ c :: after)) (eligible : c.Eligible) :
    ((∀ d, latestEligible? (before ++ after) = some d → c.Exceeds d) →
      latestEligible? (before ++ c :: after) = some c) ∧
    ∀ d, latestEligible? (before ++ after) = some d → ¬ c.Exceeds d →
      latestEligible? (before ++ c :: after) = some d := by
  have moved : ((before ++ c :: after).filter isEligible).Perm
      (c :: (before ++ after).filter isEligible) := by
    rw [← List.filter_cons_of_pos (isEligible_iff.2 eligible)]
    exact List.perm_middle.filter _
  have ids' := (moved.map CollectionCase.id).nodup_iff.1 ids
  obtain ⟨new, distinct⟩ := List.nodup_cons.1 ids'
  have apart : ∀ d ∈ (before ++ after).filter isEligible, d.id ≠ c.id := by
    intro d hd same
    exact new (List.mem_map.2 ⟨d, hd, same⟩)
  have select : latestEligible? (before ++ c :: after) =
      latest? (c :: (before ++ after).filter isEligible) := latest?_eq_of_perm ids moved
  rw [select]
  constructor
  · intro exceeds
    refine (latest?_eq_some_iff ids').2 ⟨List.mem_cons_self, fun d hd ne => ?_⟩
    have hd : d ∈ (before ++ after).filter isEligible := (List.mem_cons.1 hd).resolve_left ne
    cases selected : latestEligible? (before ++ after) with
    | none =>
      have none := latest?_eq_none_iff.1 selected
      rw [none] at hd
      cases hd
    | some e =>
      have le := (latest?_spec selected).2 d hd
      exact later_of_notLaterThan
        (notLaterThan_trans le (notLaterThan_of_exceeds (exceeds e selected))) (apart d hd)
  · intro d selected below
    obtain ⟨member, latest⟩ := (latest?_eq_some_iff distinct).1 selected
    refine (latest?_eq_some_iff ids').2 ⟨List.mem_cons_of_mem c member, fun e he ne => ?_⟩
    rcases List.mem_cons.1 he with rfl | he
    · exact exceeds_iff_later.1 (exceeds_of_not_exceeds (apart d member).symm below)
    · exact latest e he ne

/-- The selection is a greatest of the eligible cases, and no other case makes a difference to
it. -/
structure Selects (cases : List CollectionCase) : Prop where
  none_iff : latestEligible? cases = none ↔ ∀ c ∈ cases, ¬ c.Eligible
  maximum : ∀ c, latestEligible? cases = some c →
    c ∈ cases ∧ c.Eligible ∧ ∀ d ∈ cases, d.Eligible → ¬ d.Exceeds c
  ineligible : ∀ before after c, cases = before ++ after → ¬ c.Eligible →
    latestEligible? (before ++ c :: after) = latestEligible? cases

theorem selects (cases : List CollectionCase) : Selects cases where
  none_iff := latestEligible?_eq_none_iff
  maximum _ h := latestEligible?_spec h
  ineligible before after c same other := by
    have skipped : (before ++ c :: after).filter isEligible = cases.filter isEligible := by
      rw [same, List.filter_append, List.filter_append,
        List.filter_cons_of_neg (mt isEligible_iff.1 other)]
    rw [latestEligible?, latestEligible?, skipped]

/-- The selection is settled by which cases are eligible, whatever their order, and one more of them
takes the place of what was selected if it exceeds that, and otherwise changes nothing. -/
structure Steady (cases : List CollectionCase) : Prop where
  reordered : ∀ others, cases.Perm others → latestEligible? others = latestEligible? cases
  settled : ∀ others, (others.filter isEligible).Perm (cases.filter isEligible) →
    latestEligible? others = latestEligible? cases
  added : ∀ before after c, cases = before ++ after → c.Eligible →
    DistinctIds (before ++ c :: after) →
      ((∀ d, latestEligible? cases = some d → c.Exceeds d) →
        latestEligible? (before ++ c :: after) = some c) ∧
      ∀ d, latestEligible? cases = some d → ¬ c.Exceeds d →
        latestEligible? (before ++ c :: after) = some d

theorem steady (ids : DistinctIds cases) : Steady cases where
  reordered _ same := latestEligible?_of_filter_perm ids (same.symm.filter _)
  settled _ same := latestEligible?_of_filter_perm ids same
  added before after c same eligible ids' := by
    subst same
    exact latestEligible?_insert ids' eligible

end CollectionCase

/-! The answer to who asks for the case at an address. -/
namespace Queries

open CollectionCase

variable (r : Registry) (uprn : String)

/-- A search for the cases at an address and its reply. -/
def searched (reply : Except Fault (List Document)) : Trace :=
  [⟨.call (.search r.schemas.case Registry.uprnPath uprn), reply⟩]

/-- The documents that are found, as cases. -/
def readFound (found : List Document) : Except Fault (List CollectionCase) :=
  found.mapM (Records.ofFound r.schemas.case Registry.uprnPath uprn)

/-- The answer that the documents lead to. -/
def answer (found : List Document) : Except Fault CollectionCase := do
  let cases ← readFound r uprn found
  demand (noValidCase uprn) (latestEligible? cases)

theorem latestCaseAt_eq : latestCaseAt r uprn =
    Service.call (.search r.schemas.case Registry.uprnPath uprn) >>= fun found =>
      Service.of (answer r uprn found) := by
  have each (found : List Document) :
      (Service.of (readFound r uprn found) >>= fun cases =>
        Service.of (demand (noValidCase uprn) (latestEligible? cases))) =
          Service.of (answer r uprn found) := by
    rw [answer]
    cases readFound r uprn found <;> rfl
  rw [latestCaseAt, Registry.latestCaseAt, Registry.casesAt, Records.find]
  simp only [bind_assoc, pure_bind]
  exact (bind_assoc (m := Service) _ _ _).trans (congrArg _ (funext each))

variable {r uprn} {t : Trace} {o : Except Fault CollectionCase} {found others : List Document}
  {cases : List CollectionCase}

/-- There is one call, the search, and what it finds settles the answer. -/
theorem runs_latestCaseAt_iff : (latestCaseAt r uprn).run.Runs t o ↔
    ∃ reply : Except Fault (List Document), t = searched r uprn reply ∧
      o = reply >>= answer r uprn := by
  rw [latestCaseAt_eq, Service.runs_call_bind_iff]
  simp only [Service.runs_of_iff]
  constructor
  · rintro (⟨f, rfl, rfl⟩ | ⟨a, u, rfl, rfl, rfl⟩)
    · exact ⟨.error f, rfl, rfl⟩
    · exact ⟨.ok a, rfl, rfl⟩
  · rintro ⟨f | a, rfl, rfl⟩
    · exact .inl ⟨f, rfl, rfl⟩
    · exact .inr ⟨a, [], rfl, rfl, rfl⟩

/-- The order of the documents makes no difference if they are cases of different ids. -/
theorem answer_perm (same : found.Perm others) (reads : readFound r uprn found = .ok cases)
    (ids : DistinctIds cases) : answer r uprn others = answer r uprn found := by
  obtain ⟨all, rfl⟩ := Registry.mapM_ofFound_eq_ok_iff.1 reads
  have reads' : readFound r uprn others = .ok (others.filterMap Document.read?) :=
    Registry.mapM_ofFound_eq_ok_iff.2 ⟨fun d hd => all d (same.mem_iff.2 hd), rfl⟩
  have perm := (same.filterMap (Document.read? : Document → Option CollectionCase)).symm
  rw [answer, answer, reads, reads']
  exact congrArg (demand _) (latestEligible?_of_filter_perm ids (perm.filter _))

/-- If one of them is no case the answer is a fault of the store, in every order. -/
theorem exists_of_unreadable (same : found.Perm others)
    (unreadable : ¬ ∀ d ∈ found, ∃ c : CollectionCase, Wire.ofDocument d = .ok c) :
    ∃ d ∈ found, ∃ m, (Wire.ofDocument d : Except Misfit CollectionCase) = .error m ∧
      answer r uprn others =
        .error (Records.unreadableFound r.schemas.case Registry.uprnPath uprn d m) := by
  cases reads : readFound r uprn others with
  | ok cases =>
    have all := (Registry.mapM_ofFound_eq_ok_iff.1 reads).1
    exact absurd (fun d hd => all d (same.mem_iff.1 hd)) unreadable
  | error f =>
    obtain ⟨d, member, m, misfit, rfl⟩ := Registry.exists_of_mapM_ofFound reads
    refine ⟨d, same.mem_iff.2 member, m, misfit, ?_⟩
    rw [answer, reads]
    rfl

/-- What is asked for the case at an address, and that the answer does not depend on the order in
which the documents are found: not if they are cases of different ids, as they are in a store in
place, and if one of them is no case it is a fault of the store. -/
structure OrderFree (r : Registry) (uprn : String) : Prop where
  searches : ∀ t o, (latestCaseAt r uprn).run.Runs t o → ∃ reply, t = searched r uprn reply
  answers : ∀ reply, ∃ o, (latestCaseAt r uprn).run.Runs (searched r uprn reply) o
  shuffled : ∀ (found others : List Document) cases o o', found.Perm others →
    readFound r uprn found = .ok cases → DistinctIds cases →
      (latestCaseAt r uprn).run.Runs (searched r uprn (.ok found)) o →
      (latestCaseAt r uprn).run.Runs (searched r uprn (.ok others)) o' → o' = o
  unreadable : ∀ (found others : List Document) o, found.Perm others →
    (¬ ∀ d ∈ found, ∃ c : CollectionCase, Wire.ofDocument d = .ok c) →
      (latestCaseAt r uprn).run.Runs (searched r uprn (.ok others)) o →
      ∃ d ∈ found, ∃ m, (Wire.ofDocument d : Except Misfit CollectionCase) = .error m ∧
        o = .error (Records.unreadableFound r.schemas.case Registry.uprnPath uprn d m)
  placed : ∀ s (found : List Document) o, r.Placed s →
    found.Perm (MemoryStore.matching Registry.uprnPath uprn (s.documents r.schemas.case)) →
      (latestCaseAt r uprn).run.Runs (searched r uprn (.ok found)) o →
      o = demand (noValidCase uprn) (latestEligible? (r.casesIn s uprn))

theorem eq_answer_of_runs (runs : (latestCaseAt r uprn).run.Runs (searched r uprn (.ok found)) o) :
    o = answer r uprn found := by
  obtain ⟨reply, same, rfl⟩ := runs_latestCaseAt_iff.1 runs
  injection same with same
  injection same with _ same
  cases same
  rfl

theorem answer_of_placed {s : MemoryStore} (placed : r.Placed s) (same : found.Perm
    (MemoryStore.matching Registry.uprnPath uprn (s.documents r.schemas.case))) :
    answer r uprn found = demand (noValidCase uprn) (latestEligible? (r.casesIn s uprn)) := by
  have reads : readFound r uprn (MemoryStore.matching Registry.uprnPath uprn
      (s.documents r.schemas.case)) = .ok (r.casesIn s uprn) := by
    refine Registry.mapM_ofFound_eq_ok_iff.2 ⟨fun d hd => ?_, rfl⟩
    obtain ⟨e, kept, rfl⟩ := List.mem_map.1 hd
    exact (placed.cases e (List.mem_filter.1 kept).1).imp fun _ => And.left
  have ids : DistinctIds (r.casesIn s uprn) :=
    (Registry.nodup_ids_casesIn placed uprn).sublist (List.filter_sublist.map _)
  rw [answer_perm same.symm reads ids, answer, reads]
  rfl

theorem orderFree (r : Registry) (uprn : String) : OrderFree r uprn where
  searches _ _ runs := (runs_latestCaseAt_iff.1 runs).imp fun _ => And.left
  answers reply := ⟨_, runs_latestCaseAt_iff.2 ⟨reply, rfl, rfl⟩⟩
  shuffled _ _ _ _ _ same reads ids first second := by
    rw [eq_answer_of_runs first, eq_answer_of_runs second, answer_perm same reads ids]
  unreadable _ _ _ same unread run := by
    rw [eq_answer_of_runs run]
    exact exists_of_unreadable same unread
  placed _ _ _ inPlace same run := by
    rw [eq_answer_of_runs run, answer_of_placed inPlace same]

end Queries

/-- The case that stands for an address is none exactly if no case is eligible, and otherwise an
eligible case that no other exceeds, by the time of creation and then by id. Where the eligible
cases have different ids it is the same in every order, only an eligible case that exceeds it takes
its place, and the answer for an address does not depend on the order in which the store finds the
documents. -/
theorem latest_valid_is_maximum :
    (∀ cases, CollectionCase.Selects cases) ∧
    (∀ cases, CollectionCase.DistinctIds cases → CollectionCase.Steady cases) ∧
    ∀ (r : Registry) (uprn : String), Queries.OrderFree r uprn :=
  ⟨CollectionCase.selects, fun _ => CollectionCase.steady, Queries.orderFree⟩

/-- Of two households that were created together, or at no known time, the second by id. -/
theorem latest_valid_is_maximum_sample :
    CollectionCase.DistinctIds [Sample.household "a", Sample.household "b"] ∧
    CollectionCase.latestEligible? [Sample.household "b", Sample.household "a"] =
      some (Sample.household "b") := by
  have ids : CollectionCase.DistinctIds [Sample.household "a", Sample.household "b"] := by
    unfold CollectionCase.DistinctIds
    decide +kernel
  have same := (latest_valid_is_maximum.2.1 _ ids).reordered _ (.swap _ _ _)
  exact ⟨ids, same.trans (by decide +kernel)⟩

end CensusLink
