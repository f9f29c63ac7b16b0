import CensusLink.Proofs.Json.Height
import CensusLink.Proofs.Registry.Placed
import CensusLink.Proofs.Retry.Absorption
import CensusLink.Proofs.Store.Backends
import CensusLink.Proofs.Store.Calm

/-!
Programs that agree. They make the same calls and keep nothing but codes and cases, each in its
place, and whatever two stores have answered that differ only in the order of what a search finds,
they go on to agree, as long as all is in place there. What one of two such programs comes to on one
host the other comes to on any host that answers alike. The backends are such hosts.
-/
namespace CensusLink

theorem Document.fileable_code (code : AccessCode) : (Wire.toDocument code).Fileable := by
  obtain ⟨exact, le⟩ := Wire.toDocument_of_isPlain (by decide) code
  exact ⟨exact, Nat.le_trans le (by decide)⟩

theorem Document.fileable_case (c : CollectionCase) : (Wire.toDocument c).Fileable := by
  obtain ⟨exact, le⟩ := Wire.toDocument_of_isPlain (by decide) c
  exact ⟨exact, Nat.le_trans le (by decide)⟩

namespace StoreCall

/-- A call that keeps nothing, or a code or a case in its place. -/
def Proper (r : Registry) (c : StoreCall) : Prop := ∀ d ∈ c.deeds, d.Proper r

variable {r : Registry}

theorem proper_of_not_isWrite {c : StoreCall} (reads : c.isWrite = false) : c.Proper r := by
  rw [Proper, deeds_of_not_isWrite reads]
  exact List.forall_mem_nil _

/-- What is kept in its place can be kept in a file. -/
theorem Proper.fileable : ∀ {c : StoreCall}, c.Proper r → c.Fileable
  | .store schema key d, proper => by
    have here := proper _ List.mem_cons_self
    generalize kept : Deed.kept schema key d = deed at here
    cases here with
    | code code => exact (Deed.kept.inj kept).2.2 ▸ Document.fileable_code code
    | case c => exact (Deed.kept.inj kept).2.2 ▸ Document.fileable_case c
    | told n => cases kept
  | .retrieve _ _, _ => trivial
  | .search _ _ _, _ => trivial
  | .delete _ _, _ => trivial

theorem Alike.symm : ∀ {c : StoreCall} {o o' : c.Outcome}, c.Alike o o' → c.Alike o' o
  | .search _ _ _, .ok _, .ok _, h => List.Perm.symm h
  | .search _ _ _, .error _, .error _, h => Eq.symm h
  | .search _ _ _, .ok _, .error _, h => nomatch h
  | .search _ _ _, .error _, .ok _, h => nomatch h
  | .store _ _ _, _, _, h => Eq.symm h
  | .retrieve _ _, _, _, h => Eq.symm h
  | .delete _ _, _, _, h => Eq.symm h

theorem Alike.trans : ∀ {c : StoreCall} {o o' o'' : c.Outcome}, c.Alike o o' → c.Alike o' o'' →
    c.Alike o o''
  | .search _ _ _, .ok _, .ok _, .ok _, h, h' => List.Perm.trans h h'
  | .search _ _ _, .error _, .error _, .error _, h, h' => Eq.trans h h'
  | .search _ _ _, .ok _, .error _, _, h, _ => nomatch h
  | .search _ _ _, .error _, .ok _, _, h, _ => nomatch h
  | .search _ _ _, .ok _, .ok _, .error _, _, h => nomatch h
  | .search _ _ _, .error _, .error _, .ok _, _, h => nomatch h
  | .store _ _ _, _, _, _, h, h' => Eq.trans h h'
  | .retrieve _ _, _, _, _, h, h' => Eq.trans h h'
  | .delete _ _, _, _, _, h, h' => Eq.trans h h'

/-- Calls that have alike outcomes have done the same. -/
theorem Alike.deeds_eq : ∀ {c : StoreCall} {o o' : c.Outcome}, c.Alike o o' →
    Exchange.deeds ⟨.call c, o⟩ = Exchange.deeds ⟨.call c, o'⟩
  | .search _ _ _, .ok _, .ok _, _ => rfl
  | .search _ _ _, .error _, .error _, _ => rfl
  | .search _ _ _, .ok _, .error _, h => nomatch h
  | .search _ _ _, .error _, .ok _, h => nomatch h
  | .store _ _ _, _, _, h => congrArg (fun o => Exchange.deeds ⟨.call (.store _ _ _), o⟩) h
  | .retrieve _ _, _, _, h => congrArg (fun o => Exchange.deeds ⟨.call (.retrieve _ _), o⟩) h
  | .delete _ _, _, _, h => congrArg (fun o => Exchange.deeds ⟨.call (.delete _ _), o⟩) h

end StoreCall

/-- The same is asked for, and the replies differ at most in the order of what a search finds. -/
inductive Exchange.Alike : Exchange → Exchange → Prop
  | call {c : StoreCall} {o o' : c.Outcome} (h : c.Alike o o') : Alike ⟨.call c, o⟩ ⟨.call c, o'⟩
  | same (x : Exchange) : Alike x x

namespace Program

variable {r : Registry} {α β γ δ σ τ : Type}

/-- Programs that make the same calls, keep everything in its place, and come to related results
however the stores that answer them have ordered what they find. -/
inductive Agrees (r : Registry) {α β : Type} (same : α → β → Prop) : Program α → Program β → Prop
  | done {a : α} {b : β} (h : same a b) : Agrees r same (.done a) (.done b)
  | call {c : StoreCall} {next : c.Outcome → Program α} {next' : c.Outcome → Program β}
      (proper : c.Proper r)
      (rest : ∀ m, r.Placed m → ∀ o o', c.Alike o (m.step c).1 → c.Alike o' (m.step c).1 →
        Agrees r same (next o) (next' o')) :
    Agrees r same (.perform (.call c) next) (.perform (.call c) next')
  | other {e : Effect} {next : e.Reply → Program α} {next' : e.Reply → Program β}
      (calls : e.call? = none) (rest : ∀ reply, Agrees r same (next reply) (next' reply)) :
    Agrees r same (.perform e next) (.perform e next')

theorem Agrees.bind {same : α → β → Prop} {same' : γ → δ → Prop} {p : Program α} {q : Program β}
    {f : α → Program γ} {g : β → Program δ} (h : Agrees r same p q)
    (rest : ∀ a b, same a b → Agrees r same' (f a) (g b)) :
    Agrees r same' (p >>= f) (q >>= g) := by
  induction h with
  | done h => exact rest _ _ h
  | call proper _ ih => exact .call proper ih
  | other calls _ ih => exact .other calls ih

/-- The second of two hosts shadows the first: it answers every call that keeps all in place alike,
as a store with all in place would, and takes part in all else. -/
structure Shadows (r : Registry) (allows : σ → Exchange → σ → Prop)
    (others : τ → Exchange → τ → Prop) (shows : σ → τ → Prop) : Prop where
  call {s s₁ : σ} {x : τ} {c : StoreCall} {o : c.Outcome} (proper : c.Proper r) (h : shows s x)
    (first : allows s ⟨.call c, o⟩ s₁) : ∃ m o' x₁, r.Placed m ∧ c.Alike o (m.step c).1 ∧
      c.Alike o' (m.step c).1 ∧ others x ⟨.call c, o'⟩ x₁ ∧ shows s₁ x₁
  other {s s₁ : σ} {x : τ} {e : Effect} {reply : e.Reply} (calls : e.call? = none) (h : shows s x)
    (first : allows s ⟨e, reply⟩ s₁) : ∃ x₁, others x ⟨e, reply⟩ x₁ ∧ shows s₁ x₁

/-- What a program comes to on a host, one that agrees comes to on a host that shadows it. -/
theorem Agrees.shadowed {same : α → β → Prop} {p : Program α} {q : Program β}
    (h : Agrees r same p q) {allows : σ → Exchange → σ → Prop} {others : τ → Exchange → τ → Prop}
    {shows : σ → τ → Prop} (shadows : Shadows r allows others shows) {s s₁ : σ} {x : τ} {t : Trace}
    {a : α} (shown : shows s x) (run : RunsOn allows p s t a s₁) :
    ∃ u b x₁, RunsOn others q x u b x₁ ∧ same a b ∧ shows s₁ x₁ ∧
      List.Forall₂ Exchange.Alike t u := by
  induction h generalizing s x t with
  | done h =>
    obtain ⟨runs, carried⟩ := run
    obtain ⟨rfl, rfl⟩ := runs_done_iff.1 runs
    cases carried
    exact ⟨[], _, x, ⟨.done _, .nil x⟩, h, shown, .nil⟩
  | call proper _ ih =>
    obtain ⟨runs, carried⟩ := run
    cases runs with | perform more =>
    cases carried with | cons first later =>
    obtain ⟨m, o', x₁, placed, alike, alike', first', shown₁⟩ := shadows.call proper shown first
    obtain ⟨u, b, x₂, run', related, shown₂, trace⟩ :=
      ih m placed _ o' alike alike' shown₁ ⟨more, later⟩
    exact ⟨_ :: u, b, x₂, ⟨.perform run'.1, .cons first' run'.2⟩, related, shown₂,
      .cons (.call (alike.trans alike'.symm)) trace⟩
  | other calls _ ih =>
    obtain ⟨runs, carried⟩ := run
    cases runs with | perform more =>
    cases carried with | cons first later =>
    obtain ⟨x₁, first', shown₁⟩ := shadows.other calls shown first
    obtain ⟨u, b, x₂, run', related, shown₂, trace⟩ := ih _ shown₁ ⟨more, later⟩
    exact ⟨_ :: u, b, x₂, ⟨.perform run'.1, .cons first' run'.2⟩, related, shown₂,
      .cons (.same _) trace⟩

end Program

namespace Backend

variable {r : Registry} {root : String} {b : Backend} {s s' : b.Holding} {m : MemoryStore}
  {c : StoreCall}

/-- A backend holds the documents of a store in memory that has all in place. -/
structure Holds (r : Registry) (root : String) (b : Backend) (s : b.Holding) (m : MemoryStore) :
    Prop where
  shows : Shows root b s m
  placed : r.Placed m

theorem holds_blank (r : Registry) (root : String) (b : Backend) :
    Holds r root b b.blank .empty := ⟨shows_blank root b, Registry.placed_empty r⟩

theorem Holds.step (named : r.WellNamed) (h : Holds r root b s m) (proper : c.Proper r) :
    c.Alike (b.step root s c).1 (m.step c).1 ∧
      Holds r root b (b.step root s c).2 (m.step c).2 := by
  obtain ⟨alike, shows⟩ := h.shows.step h.placed.ordered proper.fileable
  refine ⟨alike, shows, ?_⟩
  rw [MemoryStore.step_snd]
  split
  · exact h.placed.after named proper
  · exact h.placed

theorem serves_iff {o : c.Outcome} : Serves (b.step root) (fun _ => False) s ⟨.call c, o⟩ s' ↔
    b.step root s c = (o, s') := or_iff_left fun h => h.1

end Backend
end CensusLink
