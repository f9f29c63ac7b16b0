import CensusLink.Text.Lowercase

/-!
Small letters and hyphens. A hyphen is neither a letter nor passed over in search of one, so it ends
a word wherever it stands: a text with a hyphen in it is put into small letters part by part. Only
the Kelvin sign and the dotted capital I come to be among the first 128 characters without being one
of these: the one is a k, and the other an i and a dot.
-/
namespace CensusLink.Text

variable {c : Char} {before rest ahead beyond cs : List Char}

/-- What one character comes to between others, those before it from the nearest on. -/
def lowered (before : List Char) (c : Char) (rest : List Char) : List Char :=
  if c == 'Σ' then [if casedAhead before && !casedAhead rest then 'ς' else 'σ']
  else if c == 'İ' then ['i', '\u0307']
  else if c.toNat < 0x80 then [c.toLower]
  else [lowerChar c]

theorem lowerFrom_cons (before : List Char) (c : Char) (rest : List Char) :
    lowerFrom before (c :: rest) = lowered before c rest ++ lowerFrom (c :: before) rest := rfl

theorem lowered_ne_nil : lowered before c rest ≠ [] := by
  rw [lowered]
  split
  · exact List.cons_ne_nil _ _
  · split
    · exact List.cons_ne_nil _ _
    · split <;> exact List.cons_ne_nil _ _

theorem inRanges_eq (ranges : Array (Nat × Nat)) (c : Char) :
    inRanges ranges c = ranges.toList.any fun r => r.1 ≤ c.toNat && c.toNat ≤ r.2 := by
  rw [inRanges, Array.any_toList]

theorem not_isCaseIgnorable_hyphen : isCaseIgnorable '-' = false := by
  rw [isCaseIgnorable, inRanges_eq]
  decide +kernel

theorem not_isCased_hyphen : isCased '-' = false := by
  rw [isCased, inRanges_eq]
  decide +kernel

theorem casedAhead_cons (c : Char) (cs : List Char) :
    casedAhead (c :: cs) = if isCaseIgnorable c then casedAhead cs else isCased c := by
  rw [casedAhead, List.dropWhile_cons]
  by_cases passed : isCaseIgnorable c = true
  · rw [if_pos passed, if_pos passed]
    rfl
  · rw [if_neg passed, if_neg passed]

/-- Nothing is seen past a hyphen. -/
theorem casedAhead_hyphen (cs beyond : List Char) :
    casedAhead (cs ++ '-' :: beyond) = casedAhead cs := by
  induction cs with
  | nil =>
    rw [List.nil_append, casedAhead_cons, not_isCaseIgnorable_hyphen, not_isCased_hyphen]
    rfl
  | cons c cs ih => rw [List.cons_append, casedAhead_cons, casedAhead_cons, ih]

theorem lowered_hyphen_ahead (before : List Char) (c : Char) (rest beyond : List Char) :
    lowered before c (rest ++ '-' :: beyond) = lowered before c rest := by
  rw [lowered, lowered, casedAhead_hyphen]

theorem lowered_hyphen_before (before beyond : List Char) (c : Char) (rest : List Char) :
    lowered (before ++ '-' :: beyond) c rest = lowered before c rest := by
  rw [lowered, lowered, casedAhead_hyphen]

theorem lowerFrom_hyphen_before (before beyond cs : List Char) :
    lowerFrom (before ++ '-' :: beyond) cs = lowerFrom before cs := by
  induction cs generalizing before with
  | nil => rfl
  | cons c rest ih =>
    rw [lowerFrom_cons, lowerFrom_cons, lowered_hyphen_before]
    exact congrArg _ (ih (c :: before))

/-- A text is put into small letters up to a hyphen, and behind it as if nothing stood before. -/
theorem lowerFrom_hyphen (before cs rest : List Char) :
    lowerFrom before (cs ++ '-' :: rest) = lowerFrom before cs ++ '-' :: lowerFrom [] rest := by
  induction cs generalizing before with
  | nil =>
    have hyphen : lowered before '-' rest = ['-'] := rfl
    rw [List.nil_append, lowerFrom_cons, hyphen]
    exact congrArg _ (lowerFrom_hyphen_before [] before rest)
  | cons c cs ih =>
    rw [List.cons_append, lowerFrom_cons, lowerFrom_cons, lowered_hyphen_ahead, ih,
      List.append_assoc]

theorem lowercase_hyphen (s t : String) :
    lowercase (s ++ "-" ++ t) = lowercase s ++ "-" ++ lowercase t := by
  refine String.toList_inj.1 ?_
  simp only [lowercase, String.toList_append, String.toList_ofList]
  rw [List.append_assoc, List.append_assoc]
  exact lowerFrom_hyphen [] s.toList t.toList

theorem lowercase_eq_empty_iff {s : String} : lowercase s = "" ↔ s = "" := by
  constructor
  · intro empty
    have none : lowerFrom [] s.toList = [] := by
      have := congrArg String.toList empty
      rwa [lowercase, String.toList_ofList] at this
    cases chars : s.toList with
    | nil => exact String.toList_inj.1 chars
    | cons c rest =>
      rw [chars, lowerFrom_cons] at none
      exact absurd (List.append_eq_nil_iff.1 none).1 lowered_ne_nil
  · rintro rfl
    rfl

/-! What comes to be which character. -/

/-- Every run leads to characters beyond the first 128, but the one of the capital letters among
these and that of the Kelvin sign. -/
theorem lowerRuns_beyond : ∀ run ∈ lowerRuns.toList, run.2.1 < 128 ∨
    run.1 = 0x212A ∧ run.2.1 = 0x212A ∨ 128 ≤ (run.1 : Int) + run.2.2.2 := by
  decide +kernel

theorem ofNat_beyond {n : Nat} (far : 128 ≤ n) :
    128 ≤ (Char.ofNat n).toNat ∨ Char.ofNat n = '\x00' := by
  by_cases valid : n.isValidChar
  · rw [Char.ofNat, dif_pos valid]
    exact .inl far
  · exact .inr (dif_neg valid)

/-- A character beyond the first 128 does not come to be one of them, if it is not the Kelvin sign.
A code point that is none would come to be the first of them all. -/
theorem lowerChar_beyond (far : 128 ≤ c.toNat) (other : c.toNat ≠ 0x212A) :
    128 ≤ (lowerChar c).toNat ∨ lowerChar c = '\x00' := by
  generalize eq : lowerChar c = d
  unfold lowerChar at eq
  split at eq
  next first last step shift found =>
    have run := lowerRuns_beyond _ (Array.mem_def.1 (Array.mem_of_find?_eq_some found))
    have within := Array.find?_some found
    simp only [Bool.and_eq_true, decide_eq_true_eq] at within
    obtain ⟨⟨le, le'⟩, -⟩ := within
    rw [← eq]
    refine ofNat_beyond ?_
    rcases run with small | ⟨rfl, rfl⟩ | beyond
    · simp only at small
      omega
    · omega
    · simp only at beyond
      omega
  next =>
    rw [← eq]
    exact .inl far

end CensusLink.Text
