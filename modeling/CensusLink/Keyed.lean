/-!
Lists of values with their keys in strictly increasing order. Putting in a value replaces the one
with its key; after that its key finds it, and every other key finds what it found before.
-/
namespace CensusLink.Keyed

variable {α : Type}

/-- Keys strictly increase from entry to entry. -/
def Sorted (entries : List (String × α)) : Prop := entries.Pairwise fun a b => a.1 < b.1

/-- Puts a value in its place, over one that has the key already. -/
def insert (key : String) (a : α) : List (String × α) → List (String × α)
  | [] => [(key, a)]
  | (k, b) :: rest =>
    if key < k then (key, a) :: (k, b) :: rest
    else if key = k then (key, a) :: rest
    else (k, b) :: insert key a rest

def erase (key : String) (entries : List (String × α)) : List (String × α) :=
  entries.filter fun e => e.1 ≠ key

/-- Entries in increasing order of their keys, the last one of each. -/
def sort (entries : List (String × α)) : List (String × α) :=
  entries.foldl (fun sorted e => insert e.1 e.2 sorted) []

theorem mem_insert {key : String} {a : α} {entries : List (String × α)} {e : String × α}
    (h : e ∈ insert key a entries) : e = (key, a) ∨ e ∈ entries := by
  fun_induction insert key a entries <;> grind

theorem sorted_insert (key : String) (a : α) {entries : List (String × α)}
    (h : Sorted entries) : Sorted (insert key a entries) := by
  unfold Sorted at h ⊢
  fun_induction insert key a entries with
  | case1 => simp
  | case2 k b rest lt =>
    rw [List.pairwise_cons] at h
    refine List.pairwise_cons.2 ⟨?_, List.pairwise_cons.2 h⟩
    intro e he
    rcases List.mem_cons.1 he with rfl | he
    · exact lt
    · exact String.lt_trans lt (h.1 e he)
  | case3 b rest _ =>
    rw [List.pairwise_cons] at h
    exact List.pairwise_cons.2 h
  | case4 k b rest notLt ne ih =>
    rw [List.pairwise_cons] at h
    refine List.pairwise_cons.2 ⟨?_, ih h.2⟩
    intro e he
    rcases mem_insert he with rfl | he
    · have le : k ≤ key := String.not_lt.1 notLt
      rcases Decidable.em (k < key) with lt | notLt'
      · exact lt
      · exact absurd (String.le_antisymm (String.not_lt.1 notLt') le) ne
    · exact h.1 e he

theorem sorted_erase (key : String) {entries : List (String × α)} (h : Sorted entries) :
    Sorted (erase key entries) := List.Pairwise.filter _ h

theorem sorted_sort (entries : List (String × α)) : Sorted (sort entries) := by
  suffices ∀ sorted, Sorted sorted →
      Sorted (entries.foldl (fun s e => insert e.1 e.2 s) sorted) from this [] List.Pairwise.nil
  induction entries with
  | nil => exact fun _ h => h
  | cons e rest ih => exact fun _ h => ih _ (sorted_insert e.1 e.2 h)

/-- What holds of every entry still holds when one is put in of which it holds. -/
theorem forall_insert {p : String × α → Prop} {key : String} {a : α}
    {entries : List (String × α)} (ha : p (key, a)) (h : ∀ e ∈ entries, p e) :
    ∀ e ∈ insert key a entries, p e := by
  intro e he
  rcases mem_insert he with rfl | he
  · exact ha
  · exact h e he

/-- Sorting makes no new entries. -/
theorem mem_of_mem_sort {entries : List (String × α)} {e : String × α} (h : e ∈ sort entries) :
    e ∈ entries := by
  suffices ∀ rest sorted : List (String × α), (∀ d ∈ rest, d ∈ entries) →
      (∀ d ∈ sorted, d ∈ entries) →
      ∀ d ∈ rest.foldl (fun s e => insert e.1 e.2 s) sorted, d ∈ entries from
    this entries [] (fun _ h => h) (fun _ h => nomatch h) e h
  intro rest
  induction rest with
  | nil => exact fun _ _ h => h
  | cons d rest ih =>
    intro sorted hr hs
    refine ih _ (fun c hc => hr c (List.mem_cons_of_mem _ hc)) (forall_insert ?_ hs)
    exact hr d List.mem_cons_self

theorem lookup_insert (key : String) (a : α) (entries : List (String × α)) (k : String) :
    (insert key a entries).lookup k = if k = key then some a else entries.lookup k := by
  fun_induction insert key a entries with
  | case1 => grind
  | case2 l b rest lt => grind
  | case3 b rest _ => grind
  | case4 l b rest notLt ne ih => grind

theorem lookup_erase (key : String) (entries : List (String × α)) (k : String) :
    (erase key entries).lookup k = if k = key then none else entries.lookup k := by
  unfold erase
  induction entries with
  | nil => simp
  | cons e rest ih => grind

theorem lookup_cons_of_ne {k l : String} (h : k ≠ l) (b : α) (rest : List (String × α)) :
    ((l, b) :: rest).lookup k = rest.lookup k := by
  rw [List.lookup_cons, beq_eq_false_iff_ne.2 h]

theorem lookup_append_of_ne {k key : String} (h : k ≠ key) (entries : List (String × α)) (a : α) :
    (entries ++ [(key, a)]).lookup k = entries.lookup k := by
  rw [List.lookup_append, lookup_cons_of_ne h, List.lookup_nil, Option.or_none]

theorem nodup_keys {entries : List (String × α)} (h : Sorted entries) :
    (entries.map (·.1)).Nodup := by
  refine List.pairwise_map.2 (h.imp ?_)
  intro a b lt eq
  rw [eq] at lt
  exact String.lt_irrefl b.1 lt

theorem lookup_eq_some_iff {entries : List (String × α)} (h : (entries.map (·.1)).Nodup)
    {key : String} {a : α} : entries.lookup key = some a ↔ (key, a) ∈ entries := by
  induction entries with
  | nil => simp
  | cons e rest ih =>
    obtain ⟨l, b⟩ := e
    simp only [List.map_cons, List.nodup_cons] at h
    by_cases same : key = l
    · subst same
      have absent : (key, a) ∉ rest := fun member => h.1 (List.mem_map.2 ⟨_, member, rfl⟩)
      simp [absent, eq_comm]
    · rw [lookup_cons_of_ne same, ih h.2]
      simp [same]

theorem nodup_of_keys {entries : List (String × α)} (h : (entries.map (·.1)).Nodup) :
    entries.Nodup :=
  List.Pairwise.of_map (·.1) (fun _ _ ne eq => ne (congrArg (·.1) eq)) h

/-- Lists of different keys that each key finds the same in have the same entries. -/
theorem perm_of_lookup {entries others : List (String × α)} (h : (entries.map (·.1)).Nodup)
    (h' : (others.map (·.1)).Nodup) (same : ∀ key, entries.lookup key = others.lookup key) :
    entries.Perm others := by
  refine (List.perm_ext_iff_of_nodup (nodup_of_keys h) (nodup_of_keys h')).2 fun e => ?_
  rw [← lookup_eq_some_iff h, ← lookup_eq_some_iff h', same]

/-- A key above all others goes to the end. -/
theorem insert_eq_append {key : String} {a : α} {entries : List (String × α)}
    (h : ∀ e ∈ entries, e.1 < key) : insert key a entries = entries ++ [(key, a)] := by
  induction entries with
  | nil => rfl
  | cons e rest ih =>
    have lt : e.1 < key := h e (by simp)
    have ne : key ≠ e.1 := by
      rintro rfl
      exact String.lt_irrefl _ lt
    simp only [insert, if_neg (String.lt_asymm lt), if_neg ne, List.cons_append]
    rw [ih fun e he => h e (by simp [he])]

/-- What is there already is put in without a change. -/
theorem insert_eq_self {key : String} {a : α} {entries : List (String × α)}
    (h : Sorted entries) (found : entries.lookup key = some a) :
    insert key a entries = entries := by
  induction entries with
  | nil => simp at found
  | cons e rest ih =>
    obtain ⟨l, b⟩ := e
    obtain ⟨below, sorted⟩ := List.pairwise_cons.1 h
    by_cases same : key = l
    · subst same
      have eq : b = a := by simpa using found
      rw [insert, if_neg (String.lt_irrefl _), if_pos rfl, eq]
    · rw [lookup_cons_of_ne same] at found
      have lt : l < key := below _ ((lookup_eq_some_iff (nodup_keys sorted)).1 found)
      simp only [insert, if_neg (String.lt_asymm lt), if_neg same]
      rw [ih sorted found]

/-- A new key adds one entry. -/
theorem insert_perm {key : String} {a : α} {entries : List (String × α)}
    (h : key ∉ entries.map (·.1)) : (insert key a entries).Perm ((key, a) :: entries) := by
  fun_induction insert key a entries with
  | case1 => exact .refl _
  | case2 => exact .refl _
  | case3 => simp at h
  | case4 k b rest _ _ ih =>
    rw [List.map_cons, List.mem_cons, not_or] at h
    exact ((ih h.2).cons _).trans (.swap _ _ _)

/-- A new entry that is left out makes no difference to the others. -/
theorem filter_insert {p : String × α → Bool} {key : String} {a : α}
    {entries : List (String × α)} (h : key ∉ entries.map (·.1)) (out : p (key, a) = false) :
    (insert key a entries).filter p = entries.filter p := by
  fun_induction insert key a entries with
  | case1 => simp [out]
  | case2 => simp [out]
  | case3 => simp at h
  | case4 k b rest _ _ ih =>
    rw [List.map_cons, List.mem_cons, not_or] at h
    simp only [List.filter_cons, ih h.2]

/-- Of two values put in under one key the later one stays. -/
theorem insert_insert (key : String) (a b : α) (entries : List (String × α)) :
    insert key a (insert key b entries) = insert key a entries := by
  fun_induction insert key b entries with
  | case1 => simp [insert]
  | case2 k c rest lt => simp [insert, lt]
  | case3 c rest _ => simp [insert]
  | case4 k c rest notLt ne ih => simp [insert, notLt, ne, ih]

theorem insert_comm_of_lt {k l : String} (lt : k < l) (a b : α) (entries : List (String × α)) :
    insert k a (insert l b entries) = insert l b (insert k a entries) := by
  have notLt := String.lt_asymm lt
  have ne : l ≠ k := by
    rintro rfl
    exact notLt lt
  induction entries with
  | nil => simp [insert, lt, notLt, ne]
  | cons e rest ih =>
    obtain ⟨m, c⟩ := e
    by_cases below : k < m
    · by_cases inside : l < m
      · simp [insert, lt, notLt, ne, below, inside]
      · by_cases same : l = m
        · subst same
          simp [insert, lt, notLt, ne]
        · simp [insert, below, notLt, ne, inside, same]
    · have above : ¬ l < m := fun lt' => below (String.lt_trans lt lt')
      have other : l ≠ m := by
        rintro rfl
        exact below lt
      by_cases same : k = m
      · subst same
        simp [insert, above, other]
      · simp [insert, below, same, above, other, ih]

/-- Values under different keys may be put in in any order. -/
theorem insert_comm {k l : String} (ne : k ≠ l) (a b : α) (entries : List (String × α)) :
    insert k a (insert l b entries) = insert l b (insert k a entries) := by
  by_cases lt : k < l
  · exact insert_comm_of_lt lt a b entries
  · have above : l < k := Decidable.byContradiction fun notLt =>
      ne (String.le_antisymm (String.not_lt.1 notLt) (String.not_lt.1 lt))
    exact (insert_comm_of_lt above b a entries).symm

theorem foldl_insert_eq_append {entries sorted : List (String × α)}
    (h : Sorted (sorted ++ entries)) :
    entries.foldl (fun s e => insert e.1 e.2 s) sorted = sorted ++ entries := by
  induction entries generalizing sorted with
  | nil => simp
  | cons e rest ih =>
    have below : ∀ d ∈ sorted, d.1 < e.1 := fun d hd =>
      (List.pairwise_append.1 h).2.2 d hd e (by simp)
    rw [List.foldl_cons, insert_eq_append below, ih (by simpa using h)]
    simp

theorem sort_eq_self {entries : List (String × α)} (h : Sorted entries) :
    sort entries = entries := @foldl_insert_eq_append _ entries [] h

/-- Among entries of different keys, sorting makes no difference to what a key finds. -/
theorem lookup_sort {entries : List (String × α)} (h : (entries.map (·.1)).Nodup) (k : String) :
    (sort entries).lookup k = entries.lookup k := by
  suffices ∀ sorted, (entries.foldl (fun s e => insert e.1 e.2 s) sorted).lookup k =
      (entries.lookup k).or (sorted.lookup k) by simpa [sort] using this []
  induction entries with
  | nil => simp
  | cons e rest ih =>
    intro sorted
    obtain ⟨l, b⟩ := e
    simp only [List.map_cons, List.nodup_cons] at h
    rw [List.foldl_cons, ih h.2, lookup_insert]
    by_cases same : k = l
    · subst same
      have absent : rest.lookup k = none := by
        cases found : rest.lookup k with
        | none => rfl
        | some c =>
          exact absurd (List.mem_map.2 ⟨_, (lookup_eq_some_iff h.2).1 found, rfl⟩) h.1
      simp [absent]
    · rw [lookup_cons_of_ne same, if_neg same]

end CensusLink.Keyed
