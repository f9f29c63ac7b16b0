import CensusLink.Proofs.Store.Backends
import Mathlib.Data.List.Induction

/-!
Both backends are one map. After any calls, whatever their schemas, keys, paths and values are, a
key has the document that was stored last under it, unless that has been deleted since; a search
finds each matching document of its schema once; a name that is none of a schema is refused. So what
a call finds is settled by the calls that write where it looks.
-/
namespace CensusLink

namespace Schema

/-- Small letters, digits, underscores and hyphens, and at least one of them. -/
def Valid (name : String) : Prop :=
  name ≠ "" ∧
    ∀ c ∈ name.toList, ('a' ≤ c ∧ c ≤ 'z') ∨ ('0' ≤ c ∧ c ≤ '9') ∨ c = '_' ∨ c = '-'

theorem check_eq_ok_iff {name : String} : check name = .ok () ↔ Valid name := by
  rw [check, Valid]
  split
  next empty => simp [empty]
  next some =>
    have all : name.toList.all isNameChar = true ↔
        ∀ c ∈ name.toList, ('a' ≤ c ∧ c ≤ 'z') ∨ ('0' ≤ c ∧ c ≤ '9') ∨ c = '_' ∨ c = '-' := by
      simp [List.all_eq_true, isNameChar, or_assoc]
    rw [← all]
    by_cases h : name.toList.all isNameChar <;> simp [h, some]

end Schema

namespace StoreCall

/-- The call writes under a key of a schema. -/
def Writes (schema key : String) : StoreCall → Prop
  | .store s k _ => s = schema ∧ k = key
  | .delete s k => s = schema ∧ k = key
  | _ => False

/-- What a call leaves under a key of a schema, given what is there. -/
def leaves (schema key : String) (found : Option Document) : StoreCall → Option Document
  | .store s k d => if s = schema ∧ k = key then some d else found
  | .delete s k => if s = schema ∧ k = key then none else found
  | _ => found

/-- What calls leave under a key of a schema. -/
def current (calls : List StoreCall) (schema key : String) : Option Document :=
  calls.foldl (leaves schema key) none

theorem current_append (calls more : List StoreCall) (schema key : String) :
    current (calls ++ more) schema key =
      more.foldl (leaves schema key) (current calls schema key) := List.foldl_append

theorem Writes.schema_eq {schema key : String} : ∀ {c : StoreCall}, c.Writes schema key →
    c.schema = schema
  | .store _ _ _, h => h.1
  | .delete _ _, h => h.1

theorem leaves_of_not_writes {schema key : String} {c : StoreCall} (h : ¬ c.Writes schema key)
    (found : Option Document) : c.leaves schema key found = found := by
  cases c with
  | store s k d => exact if_neg h
  | delete s k => exact if_neg h
  | _ => rfl

theorem leaves_of_writes {schema key : String} {c : StoreCall} {d : Document}
    (h : c.Writes schema key) (found : Option Document) :
    c.leaves schema key found = some d ↔ c = .store schema key d := by
  cases c with
  | store s k e =>
    obtain ⟨rfl, rfl⟩ := h
    simp [leaves]
  | delete s k =>
    obtain ⟨rfl, rfl⟩ := h
    simp [leaves]
  | _ => exact h.elim

/-- The last of some calls stores the document, or it does not write there and an earlier one
does. -/
theorem last_stores_iff {calls : List StoreCall} {c : StoreCall} {schema key : String}
    {d : Document} :
    (∃ before after, calls ++ [c] = before ++ .store schema key d :: after ∧
      ∀ e ∈ after, ¬ e.Writes schema key) ↔
    c = .store schema key d ∨ (¬ c.Writes schema key ∧ ∃ before after,
      calls = before ++ .store schema key d :: after ∧ ∀ e ∈ after, ¬ e.Writes schema key) := by
  constructor
  · rintro ⟨before, after, eq, none⟩
    rcases List.eq_nil_or_concat after with rfl | ⟨after, last, rfl⟩
    · obtain ⟨_, same⟩ := List.append_inj' eq rfl
      exact .inl (List.singleton_inj.1 same)
    · have split : calls ++ [c] = (before ++ .store schema key d :: after) ++ [last] := by
        simpa using eq
      obtain ⟨rfl, same⟩ := List.append_inj' split rfl
      obtain rfl := List.singleton_inj.1 same
      exact .inr ⟨none c (by simp), before, after, rfl, fun e he => none e (by simp [he])⟩
  · rintro (rfl | ⟨idle, before, after, rfl, none⟩)
    · exact ⟨calls, [], rfl, fun _ h => nomatch h⟩
    · refine ⟨before, after ++ [c], by simp, fun e he => ?_⟩
      rcases List.mem_append.1 he with he | he
      · exact none e he
      · exact List.mem_singleton.1 he ▸ idle

/-- A document is there if it was stored and nothing has been written over it. -/
theorem current_eq_some_iff {calls : List StoreCall} {schema key : String} {d : Document} :
    current calls schema key = some d ↔ ∃ before after,
      calls = before ++ .store schema key d :: after ∧ ∀ c ∈ after, ¬ c.Writes schema key := by
  induction calls using List.reverseRecOn with
  | nil => simp [current]
  | append_singleton calls c ih =>
    rw [current_append, List.foldl_cons, List.foldl_nil, last_stores_iff]
    by_cases writes : c.Writes schema key
    · rw [leaves_of_writes writes]
      exact (or_iff_left fun h => h.1 writes).symm
    · have other : c ≠ .store schema key d := by
        rintro rfl
        exact writes ⟨rfl, rfl⟩
      rw [leaves_of_not_writes writes, ih]
      exact ((or_iff_right other).trans (and_iff_right writes)).symm

/-- What a call answers after others. -/
def Answers (calls : List StoreCall) : (c : StoreCall) → c.Reply → Prop
  | .store _ _ _, _ => True
  | .retrieve schema key, (found : Option Document) => found = current calls schema key
  | .search schema path value, (found : List Document) =>
    ∃ entries : List (String × Document), (entries.map (·.1)).Nodup ∧
      (∀ key d, (key, d) ∈ entries ↔
        current calls schema key = some d ∧ Query.matchesField d.json path value) ∧
      found.Perm (entries.map (·.2))
  | .delete _ _, _ => True

/-- The outcome of a call may depend on another one before it. -/
def Heeds : StoreCall → StoreCall → Prop
  | .retrieve schema key, e => e.Writes schema key
  | .search schema _ _, e => e.schema = schema
  | _, _ => False

end StoreCall
namespace MemoryStore

/-- What calls in their order leave in a store. -/
def answering (m : MemoryStore) (calls : List StoreCall) : MemoryStore :=
  calls.foldl (fun m c => (m.step c).2) m

variable {m : MemoryStore} {c : StoreCall} {calls : List StoreCall} {schema key : String}

theorem ordered_step (h : m.Ordered) (c : StoreCall) : (m.step c).2.Ordered := by
  rw [step_snd]
  split
  · exact h.after _
  · exact h

theorem ordered_answering (h : m.Ordered) (calls : List StoreCall) :
    (m.answering calls).Ordered := by
  induction calls generalizing m with
  | nil => exact h
  | cons c rest ih => exact ih (ordered_step h c)

/-- A call does to a key what it is said to leave there. -/
theorem lookup_step (valid : Schema.check schema = .ok ()) (m : MemoryStore) (c : StoreCall) :
    ((m.step c).2.documents schema).lookup key =
      c.leaves schema key ((m.documents schema).lookup key) := by
  rw [step_snd]
  split
  next =>
    cases c with
    | store s k d =>
      refine (congrArg (List.lookup key) (documents_kept m s k d schema)).trans ?_
      by_cases same : schema = s
      · subst same
        simp [Keyed.lookup_insert, StoreCall.leaves, eq_comm]
      · simp [same, Ne.symm same, StoreCall.leaves]
    | delete s k =>
      refine (congrArg (List.lookup key) (documents_removed m s k schema)).trans ?_
      by_cases same : schema = s
      · subst same
        simp [Keyed.lookup_erase, StoreCall.leaves, eq_comm]
      · simp [same, Ne.symm same, StoreCall.leaves]
    | _ => rfl
  next refused =>
    have idle : ¬ c.Writes schema key := fun writes => refused (writes.schema_eq.symm ▸ valid)
    exact (StoreCall.leaves_of_not_writes idle _).symm

theorem lookup_answering (valid : Schema.check schema = .ok ()) (m : MemoryStore)
    (calls : List StoreCall) : ((m.answering calls).documents schema).lookup key =
      calls.foldl (StoreCall.leaves schema key) ((m.documents schema).lookup key) := by
  induction calls generalizing m with
  | nil => rfl
  | cons c rest ih => exact (ih (m.step c).2).trans (by rw [lookup_step valid, List.foldl_cons])

/-- After calls a key of a schema has what they leave there. -/
theorem lookup_current (valid : Schema.check schema = .ok ()) (calls : List StoreCall) :
    ((empty.answering calls).documents schema).lookup key =
      StoreCall.current calls schema key := lookup_answering valid empty calls

theorem answers_apply (valid : Schema.check c.schema = .ok ()) (calls : List StoreCall) :
    c.Answers calls ((empty.answering calls).apply c).1 := by
  cases c with
  | retrieve schema key => exact lookup_current valid calls
  | search schema path value =>
    have distinct : (((empty.answering calls).documents schema).map (·.1)).Nodup :=
      Keyed.nodup_keys ((ordered_answering ordered_empty calls).documents schema)
    let hits (e : String × Document) : Bool := Query.matchesField e.2.json path value
    refine ⟨((empty.answering calls).documents schema).filter hits, ?_, fun key d => ?_, .refl _⟩
    · exact (List.filter_sublist.map Prod.fst).nodup distinct
    · rw [List.mem_filter, ← Keyed.lookup_eq_some_iff distinct,
        lookup_current (show Schema.check schema = .ok () from valid)]
  | store schema key d => exact trivial
  | delete schema key => exact trivial

end MemoryStore

namespace StoreCall

variable {calls others : List StoreCall}

theorem Answers.of_alike : ∀ {c : StoreCall} {a : c.Reply} {o : c.Outcome}, c.Answers calls a →
    c.Alike o (.ok a) → ∃ reply, o = .ok reply ∧ c.Answers calls reply
  | .store _ _ _, a, _, answers, alike => ⟨a, alike, answers⟩
  | .retrieve _ _, a, _, answers, alike => ⟨a, alike, answers⟩
  | .delete _ _, a, _, answers, alike => ⟨a, alike, answers⟩
  | .search _ _ _, _, .ok found, ⟨entries, distinct, mem, perm⟩, alike =>
    ⟨found, rfl, entries, distinct, mem, List.Perm.trans alike perm⟩
  | .search _ _ _, _, .error _, _, alike => nomatch alike

/-- Two answers are alike if the same is left wherever a call that is heeded may write. -/
theorem Answers.alike : ∀ {c : StoreCall} {a a' : c.Reply}, c.Answers calls a →
    c.Answers others a' →
    (∀ schema key, (∀ e : StoreCall, e.Writes schema key → c.Heeds e) →
      current calls schema key = current others schema key) → c.Alike (.ok a) (.ok a')
  | .store _ _ _, _, _, _, _, _ => rfl
  | .delete _ _, _, _, _, _, _ => rfl
  | .retrieve schema key, a, a', answers, answers', same =>
    congrArg Except.ok (answers.trans ((same schema key fun _ h => h).trans answers'.symm))
  | .search schema path value, _, _, ⟨entries, distinct, mem, perm⟩,
      ⟨entries', distinct', mem', perm'⟩, same => by
    have equal : entries.Perm entries' := by
      refine (List.perm_ext_iff_of_nodup (Keyed.nodup_of_keys distinct)
        (Keyed.nodup_of_keys distinct')).2 fun (key, d) => ?_
      rw [mem, mem', same schema key fun _ h => h.schema_eq]
    exact perm.trans ((equal.map _).trans perm'.symm)

/-- Leaving out calls that write nothing under a key makes no difference to what is there. -/
theorem current_filter {p : StoreCall → Bool} {schema key : String}
    (kept : ∀ e ∈ calls, e.Writes schema key → p e) :
    current (calls.filter p) schema key = current calls schema key := by
  suffices ∀ found, (calls.filter p).foldl (leaves schema key) found =
      calls.foldl (leaves schema key) found from this none
  induction calls with
  | nil => exact fun _ => rfl
  | cons c rest ih =>
    intro found
    obtain ⟨here, later⟩ := List.forall_mem_cons.1 kept
    cases keeps : p c with
    | true => exact (congrArg _ (List.filter_cons_of_pos keeps)).trans (ih later _)
    | false =>
      have idle : ¬ c.Writes schema key := fun writes => by simp [here writes] at keeps
      rw [List.filter_cons_of_neg (by simp [keeps]), ih later, List.foldl_cons,
        leaves_of_not_writes idle]

end StoreCall

namespace Backend

variable {root : String}

theorem shows_after (b : Backend) {calls : List StoreCall} (fileable : ∀ c ∈ calls, c.Fileable)
    {s : b.Holding} {m : MemoryStore} (shows : Shows root b s m) (ordered : m.Ordered) :
    Shows root b (b.after root s calls) (m.answering calls) := by
  induction calls generalizing s m with
  | nil => exact shows
  | cons c rest ih =>
    obtain ⟨here, later⟩ := List.forall_mem_cons.1 fileable
    exact ih later (shows.step ordered here).2 (MemoryStore.ordered_step ordered c)

/-- A call to a schema is answered with what the calls before it have left. -/
theorem answers_step (b : Backend) (root : String) {calls : List StoreCall}
    (fileable : ∀ c ∈ calls, c.Fileable) {c : StoreCall} (here : c.Fileable)
    (valid : Schema.check c.schema = .ok ()) : ∃ reply,
      (b.step root (b.after root b.blank calls) c).1 = .ok reply ∧ c.Answers calls reply := by
  have shows := b.shows_after fileable (shows_blank root b) MemoryStore.ordered_empty
  have ordered := MemoryStore.ordered_answering MemoryStore.ordered_empty calls
  have alike := (shows.step ordered here).1
  rw [MemoryStore.step_of_valid _ valid] at alike
  exact (MemoryStore.answers_apply valid calls).of_alike alike

theorem step_of_invalid (b : Backend) (root : String) (s : b.Holding) {c : StoreCall} {f : Fault}
    (invalid : Schema.check c.schema = .error f) : b.step root s c = (.error f, s) := by
  cases b with
  | memory => exact MemoryStore.step_of_invalid s invalid
  | file => exact Disk.step_of_invalid invalid

/-- On both backends a call after others is refused for the name of its schema, or it finds what
those others have left; and it finds the same without those that do not write where it looks. What
calls have left is the document that one of them stored and none has written over since. -/
theorem stores_are_one_map (b : Backend) (root : String) {calls : List StoreCall}
    (fileable : ∀ c ∈ calls, c.Fileable) {c : StoreCall} (here : c.Fileable) :
    (¬ Schema.Valid c.schema → ∃ f, Schema.check c.schema = .error f ∧
      b.step root (b.after root b.blank calls) c = (.error f, b.after root b.blank calls)) ∧
    (Schema.Valid c.schema → ∃ reply,
      (b.step root (b.after root b.blank calls) c).1 = .ok reply ∧ c.Answers calls reply) ∧
    (∀ p : StoreCall → Bool, (∀ e ∈ calls, c.Heeds e → p e) →
      c.Alike (b.step root (b.after root b.blank (calls.filter p)) c).1
        (b.step root (b.after root b.blank calls) c).1) ∧
    ∀ schema key d, StoreCall.current calls schema key = some d ↔ ∃ before after,
      calls = before ++ .store schema key d :: after ∧ ∀ e ∈ after, ¬ e.Writes schema key := by
  cases valid : Schema.check c.schema with
  | error f =>
    have not : ¬ Schema.Valid c.schema := fun named => by
      rw [Schema.check_eq_ok_iff.2 named] at valid
      cases valid
    refine ⟨fun _ => ⟨f, rfl, b.step_of_invalid root _ valid⟩, fun named => absurd named not, ?_,
      fun _ _ _ => StoreCall.current_eq_some_iff⟩
    intro p _
    rw [b.step_of_invalid root _ valid, b.step_of_invalid root _ valid]
    exact .refl c _
  | ok =>
    refine ⟨fun not => absurd (Schema.check_eq_ok_iff.1 valid) not,
      fun _ => b.answers_step root fileable here valid, fun p kept => ?_,
      fun _ _ _ => StoreCall.current_eq_some_iff⟩
    have less : ∀ e ∈ calls.filter p, e.Fileable :=
      fun e he => fileable e (List.mem_of_mem_filter he)
    obtain ⟨reply, eq, answers⟩ := b.answers_step root fileable here valid
    obtain ⟨reply', eq', answers'⟩ := b.answers_step root less here valid
    rw [eq, eq']
    refine answers'.alike answers fun schema key heeded => ?_
    exact StoreCall.current_filter fun e he writes => kept e he (heeded e writes)

/-- Two documents, the first of which is deleted. -/
def letters : List StoreCall :=
  [.store "letters" "a" (.nested 0), .store "letters" "b" (.nested 1), .delete "letters" "a"]

theorem fileable_letters : ∀ c ∈ letters, c.Fileable := by
  simp [letters, StoreCall.Fileable, Document.Fileable, Document.isExact_nested,
    Document.depth_nested, FileStore.levels]

theorem stores_are_one_map_sample :
    (Backend.file.step "docs" (Backend.file.after "docs" Disk.empty letters)
      (.retrieve "letters" "a")).1 = .ok none ∧
    (Backend.file.step "docs" (Backend.file.after "docs" Disk.empty letters)
      (.retrieve "letters" "b")).1 = .ok (some (.nested 1)) := by
  have named : Schema.Valid "letters" := Schema.check_eq_ok_iff.1 (by decide)
  obtain ⟨_, eq, answers⟩ := (stores_are_one_map .file "docs" fileable_letters
    (c := .retrieve "letters" "a") trivial).2.1 named
  obtain ⟨_, eq', answers'⟩ := (stores_are_one_map .file "docs" fileable_letters
    (c := .retrieve "letters" "b") trivial).2.1 named
  refine ⟨eq.trans (congrArg Except.ok (answers.trans ?_)),
    eq'.trans (congrArg Except.ok (answers'.trans ?_))⟩
  · simp [letters, StoreCall.current, StoreCall.leaves]
  · simp [letters, StoreCall.current, StoreCall.leaves]

end Backend
end CensusLink
