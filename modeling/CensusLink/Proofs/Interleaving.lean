import CensusLink.Proofs.Store.Deeds

/-!
Programs that run at the same time on one host. All that passes is one joint trace, in which every
exchange belongs to one of the parties. The share of a party is what belongs to it, in the same
order: the party runs as its share says, and the host carries the whole.
-/
namespace CensusLink

/-- Exchanges, each with the party that it belongs to. -/
abbrev JointTrace (ι : Type) := List (ι × Exchange)

namespace JointTrace

variable {ι : Type}

/-- All that passes, whoever it belongs to. -/
def whole (t : JointTrace ι) : Trace := t.map (·.2)

@[simp]
theorem whole_append (t u : JointTrace ι) : whole (t ++ u) = t.whole ++ u.whole :=
  List.map_append

/-- What one party does on its own, as a joint trace. -/
def solo (i : ι) (t : Trace) : JointTrace ι := t.map ((i, ·))

theorem whole_solo (i : ι) (t : Trace) : (solo i t).whole = t := by
  simp [whole, solo, Function.comp_def]

/-- Parties that go one after the other. -/
def inTurn (turns : List (ι × Trace)) : JointTrace ι :=
  turns.flatMap fun (i, t) => solo i t

theorem pairwise_inTurn {turns : List (Nat × Trace)}
    (ascending : (turns.map (·.1)).Pairwise (· < ·)) :
    (inTurn turns).Pairwise fun x y => x.1 ≤ y.1 := by
  have party {i : Nat} {t : Trace} {e : Nat × Exchange} (h : e ∈ solo i t) : e.1 = i := by
    obtain ⟨_, _, rfl⟩ := List.mem_map.1 h
    rfl
  refine List.pairwise_flatMap.2 ⟨fun (i, t) _ => ?_, ?_⟩
  · refine List.pairwise_of_forall_mem_list fun x hx y hy => ?_
    exact Nat.le_of_eq ((party hx).trans (party hy).symm)
  · refine (List.pairwise_map.1 ascending).imp fun {a b} less x hx y hy => ?_
    rw [party hx, party hy]
    exact Nat.le_of_lt less

variable [DecidableEq ι]

/-- What belongs to a party. -/
def share (i : ι) (t : JointTrace ι) : Trace := (t.filter (·.1 = i)).map (·.2)

@[simp]
theorem share_append (i : ι) (t u : JointTrace ι) : share i (t ++ u) = t.share i ++ u.share i := by
  rw [share, List.filter_append, List.map_append]
  rfl

theorem share_cons_self (i : ι) (x : Exchange) (t : JointTrace ι) :
    share i ((i, x) :: t) = x :: t.share i := by
  simp [share]

theorem share_cons_of_ne {i j : ι} (other : j ≠ i) (x : Exchange) (t : JointTrace ι) :
    share i ((j, x) :: t) = t.share i := by
  simp [share, other]

/-- An exchange of a share is somewhere in the whole. -/
theorem exists_split {i : ι} {t : JointTrace ι} {before after : Trace} {x : Exchange}
    (h : t.share i = before ++ x :: after) :
    ∃ t₁ t₂ : JointTrace ι, t = t₁ ++ (i, x) :: t₂ ∧ t₁.share i = before ∧
      t₂.share i = after := by
  induction t generalizing before with
  | nil => simp [share] at h
  | cons e rest ih =>
    obtain ⟨j, y⟩ := e
    by_cases mine : j = i
    · rw [mine, share_cons_self] at h
      cases before with
      | nil =>
        obtain ⟨rfl, more⟩ := List.cons.inj h
        exact ⟨[], rest, by rw [mine]; rfl, rfl, more⟩
      | cons z before =>
        obtain ⟨rfl, more⟩ := List.cons.inj h
        obtain ⟨t₁, t₂, rfl, first, second⟩ := ih more
        exact ⟨(j, y) :: t₁, t₂, rfl, by rw [mine, share_cons_self, first], second⟩
    · rw [share_cons_of_ne mine] at h
      obtain ⟨t₁, t₂, rfl, first, second⟩ := ih h
      exact ⟨(j, y) :: t₁, t₂, rfl, by rw [share_cons_of_ne mine, first], second⟩

theorem mem_share_iff {i : ι} {x : Exchange} {t : JointTrace ι} : x ∈ t.share i ↔ (i, x) ∈ t := by
  simp [share]

theorem share_eq_nil {i : ι} {t : JointTrace ι} (absent : ∀ e ∈ t, e.1 ≠ i) : t.share i = [] :=
  List.eq_nil_iff_forall_not_mem.2 fun _ hx => absent _ (mem_share_iff.1 hx) rfl

theorem mem_whole_of_mem_share {i : ι} {t : JointTrace ι} {x : Exchange} (h : x ∈ t.share i) :
    x ∈ t.whole := (List.filter_sublist.map _).subset h

theorem share_solo_self (i : ι) (t : Trace) : (solo i t).share i = t := by
  induction t with
  | nil => rfl
  | cons x rest ih => exact (share_cons_self i x _).trans (congrArg _ ih)

theorem share_solo_of_ne {i j : ι} (other : j ≠ i) (t : Trace) : (solo j t).share i = [] := by
  induction t with
  | nil => rfl
  | cons x rest ih => exact (share_cons_of_ne other x _).trans ih

/-- Of two parties, the whole is made of the shares of both. -/
theorem whole_perm (t : JointTrace Bool) (i : Bool) :
    t.whole.Perm (t.share i ++ t.share (!i)) := by
  induction t with
  | nil => exact .refl _
  | cons e rest ih =>
    obtain ⟨j, x⟩ := e
    by_cases mine : j = i
    · subst mine
      rw [share_cons_self, share_cons_of_ne (by simp)]
      exact ih.cons x
    · obtain rfl : j = !i := Bool.eq_not.2 mine
      rw [share_cons_self, share_cons_of_ne mine]
      exact (ih.cons x).trans List.perm_middle.symm

/-- So are the deeds. -/
theorem deeds_perm (t : JointTrace Bool) (i : Bool) :
    t.whole.deeds.Perm ((t.share i).deeds ++ (t.share (!i)).deeds) := by
  rw [← Trace.deeds_append]
  exact (t.whole_perm i).flatMap_right _

/-- If one of two parties does not begin, the other one is all there is. -/
theorem whole_eq_share {t : JointTrace Bool} {i : Bool} (none : t.share (!i) = []) :
    t.whole = t.share i := by
  induction t with
  | nil => rfl
  | cons e rest ih =>
    obtain ⟨j, x⟩ := e
    by_cases mine : j = i
    · subst mine
      rw [share_cons_of_ne (by simp)] at none
      rw [share_cons_self]
      exact congrArg (x :: ·) (ih none)
    · obtain rfl : j = !i := Bool.eq_not.2 mine
      rw [share_cons_self] at none
      cases none

end JointTrace

/-- Programs run together on a host, from one of its states to another. -/
structure RunTogether {ι σ : Type} [DecidableEq ι] {α : ι → Type}
    (allows : σ → Exchange → σ → Prop) (p : (i : ι) → Program (α i)) (s : σ) (t : JointTrace ι)
    (a : (i : ι) → α i) (s' : σ) : Prop where
  runs : ∀ i, (p i).Runs (t.share i) (a i)
  carries : Carries allows s t.whole s'

/-- One of two programs runs, and after it the other. -/
def InTurn {σ : Type} {α : Bool → Type} (allows : σ → Exchange → σ → Prop)
    (p : (i : Bool) → Program (α i)) (i : Bool) (s : σ) (t : Bool → Trace) (a : (i : Bool) → α i)
    (s' : σ) : Prop :=
  ∃ s₁, Program.RunsOn allows (p i) s (t i) (a i) s₁ ∧
    Program.RunsOn allows (p (!i)) s₁ (t (!i)) (a (!i)) s'

end CensusLink
