import CensusLink.Binary64.Basic
import Mathlib.Algebra.Group.Nat.Defs

/-!
How far a rounded number is from what was rounded, and what becomes of numbers of at least one.
Those are followed in units as if none were too large: `saturated` is the number that so many units
make, and a product of such numbers is the product of their units, saturated. So whether something
was too large has to be asked of a result only, and not of every step on the way to it.
-/
namespace CensusLink
namespace Binary64

variable {num den u v : Nat}

theorem exists_scale_eq : ∃ e, scale = 2 ^ e := ⟨1074, by decide +kernel⟩

theorem exists_ceiling_eq : ∃ e, ceiling = 2 ^ e := ⟨2098, by decide +kernel⟩

theorem scale_pos : 0 < scale := by
  obtain ⟨e, eq⟩ := exists_scale_eq
  rw [eq]
  exact Nat.two_pow_pos e

/-- Whole numbers up to 2^53 are far from the greatest number. -/
theorem mul_scale_lt_ceiling {n : Nat} (le : n ≤ 2 ^ 53) : n * scale < ceiling :=
  Nat.lt_of_le_of_lt (Nat.mul_le_mul_right scale le) (by decide +kernel)

/-! Rounding -/

theorem nearest_mul (pos : 0 < den) (t : Nat) : nearest (den * t) den = t := by
  rw [nearest, Nat.mul_div_cancel_left t pos, Nat.mul_mod_right]
  exact if_pos pos

theorem div_le_nearest (num den : Nat) : num / den ≤ nearest num den := by
  simp only [nearest]
  split
  · exact Nat.le_refl _
  · split <;> omega

/-- A quotient moves by a half at most. -/
theorem nearest_error (num : Nat) (pos : 0 < den) :
    2 * num ≤ 2 * (den * nearest num den) + den ∧
      2 * (den * nearest num den) ≤ 2 * num + den := by
  have parts : den * (num / den) + num % den = num := Nat.div_add_mod num den
  have less : num % den < den := Nat.mod_lt num pos
  have above : den * (num / den + 1) = den * (num / den) + den := Nat.mul_succ _ _
  simp only [nearest]
  split
  · omega
  · split
    · rw [above]
      omega
    · rcases Nat.mod_two_eq_zero_or_one (num / den) with even | odd
      · rw [even, Nat.add_zero]
        omega
      · rw [odd, above]
        omega

/-- What is a number as it is stays as it is. -/
theorem roundUnits_mul (pos : 0 < den) (fits : 2 ^ lowBits u ∣ u) :
    roundUnits (den * u) den = u := by
  obtain ⟨k, eq⟩ := fits
  have pos' : 0 < den * 2 ^ lowBits u := Nat.mul_pos pos (Nat.two_pow_pos _)
  have parts : den * u = den * 2 ^ lowBits u * k := by rw [Nat.mul_assoc, ← eq]
  rw [roundUnits, Nat.mul_div_cancel_left u pos, Nat.pow_eq, parts, nearest_mul pos', Nat.mul_comm,
    ← eq]

/-- A whole number up to 2^53 has no bits to lose, whatever its unit is. -/
theorem dvd_of_le {n : Nat} (le : n ≤ 2 ^ 53) (e : Nat) :
    2 ^ lowBits (n * 2 ^ e) ∣ n * 2 ^ e := by
  by_cases none : n = 0
  · rw [none, Nat.zero_mul]
    exact Nat.dvd_zero _
  by_cases most : n = 2 ^ 53
  · rw [most, ← Nat.pow_add, lowBits, Nat.log2_two_pow]
    exact Nat.pow_dvd_pow 2 (Nat.sub_le _ _)
  · have some : n * 2 ^ e ≠ 0 := Nat.mul_ne_zero none (Nat.ne_of_gt (Nat.two_pow_pos e))
    have less : n * 2 ^ e < 2 ^ (53 + e) := by
      rw [Nat.pow_add]
      exact Nat.mul_lt_mul_of_pos_right (Nat.lt_of_le_of_ne le most) (Nat.two_pow_pos e)
    have few : lowBits (n * 2 ^ e) ≤ e := by
      have length := (Nat.log2_lt some).2 less
      rw [lowBits]
      omega
    exact Nat.dvd_trans (Nat.pow_dvd_pow 2 few) (Nat.dvd_mul_left _ _)

/-- Rounding does not lead below a power of two. -/
theorem le_roundUnits {e : Nat} (pos : 0 < den) (le : 2 ^ e * den ≤ num) :
    2 ^ e ≤ roundUnits num den := by
  have quotient : 2 ^ e ≤ num / den := (Nat.le_div_iff_mul_le pos).2 le
  have some : num / den ≠ 0 := Nat.ne_of_gt (Nat.lt_of_lt_of_le (Nat.two_pow_pos e) quotient)
  have low : lowBits (num / den) ≤ (num / den).log2 := Nat.sub_le _ _
  calc 2 ^ e ≤ 2 ^ (num / den).log2 :=
      Nat.pow_le_pow_right (by decide) ((Nat.le_log2 some).2 quotient)
    _ = 2 ^ ((num / den).log2 - lowBits (num / den)) * 2 ^ lowBits (num / den) := by
      rw [← Nat.pow_add, Nat.sub_add_cancel low]
    _ ≤ nearest num (den * 2 ^ lowBits (num / den)) * 2 ^ lowBits (num / den) := by
      refine Nat.mul_le_mul_right _ (Nat.le_trans ?_ (div_le_nearest _ _))
      rw [← Nat.div_div_eq_div_mul, Nat.le_div_iff_mul_le (Nat.two_pow_pos _), ← Nat.pow_add,
        Nat.sub_add_cancel low]
      exact Nat.log2_self_le some
    _ = roundUnits num den := rfl

/-- Where there are 53 bits at least, rounding moves a number by one part in 2^53 at most. -/
theorem roundUnits_error (pos : 0 < den) (many : 2 ^ 52 * den ≤ num) :
    2 ^ 53 * num ≤ 2 ^ 53 * (den * roundUnits num den) + num ∧
      2 ^ 53 * (den * roundUnits num den) ≤ 2 ^ 53 * num + num := by
  have quotient : 2 ^ 52 ≤ num / den := (Nat.le_div_iff_mul_le pos).2 many
  have some : num / den ≠ 0 := Nat.ne_of_gt (Nat.lt_of_lt_of_le (Nat.two_pow_pos 52) quotient)
  have long : 52 ≤ (num / den).log2 := (Nat.le_log2 some).2 quotient
  have step : 2 ^ 52 * (den * 2 ^ lowBits (num / den)) ≤ num :=
    calc 2 ^ 52 * (den * 2 ^ lowBits (num / den))
        = den * (2 ^ lowBits (num / den) * 2 ^ 52) := by
          rw [Nat.mul_comm, Nat.mul_assoc]
      _ = den * 2 ^ (num / den).log2 := by
          rw [← Nat.pow_add, lowBits, Nat.sub_add_cancel long]
      _ ≤ den * (num / den) := Nat.mul_le_mul_left den (Nat.log2_self_le some)
      _ ≤ num := Nat.mul_div_le num den
  have rounded : den * roundUnits num den = den * 2 ^ lowBits (num / den) *
      nearest num (den * 2 ^ lowBits (num / den)) := by
    rw [roundUnits, Nat.pow_eq, Nat.mul_assoc, Nat.mul_comm (nearest _ _)]
  have error := nearest_error num (Nat.mul_pos pos (Nat.two_pow_pos (lowBits (num / den))))
  rw [rounded]
  omega

/-! Numbers in units -/

/-- The number that so many units are. -/
def saturated (u : Nat) : Binary64 := if u < ceiling then .finite false u else .infinite false

/-- The units of a product. -/
def times (u v : Nat) : Nat := roundUnits (u * v) scale

theorem saturated_of_lt (less : u < ceiling) : saturated u = .finite false u := if_pos less

theorem saturated_of_le (le : ceiling ≤ u) : saturated u = .infinite false :=
  if_neg (Nat.not_lt.2 le)

theorem saturated_eq_infinite_iff : saturated u = .infinite false ↔ ceiling ≤ u := by
  rw [saturated]
  split <;> simp_all

theorem ofUnits_false (num den : Nat) : ofUnits false num den = saturated (roundUnits num den) :=
  rfl

/-- Whole numbers up to 2^53 are numbers. -/
theorem ofNat_eq {n : Nat} (le : n ≤ 2 ^ 53) : ofNat n = saturated (n * scale) := by
  obtain ⟨e, eq⟩ := exists_scale_eq
  have exact : roundUnits (1 * (n * 2 ^ e)) 1 = n * 2 ^ e :=
    roundUnits_mul Nat.one_pos (dvd_of_le le e)
  rw [Nat.one_mul] at exact
  rw [ofNat, ofRatio, ofUnits_false, eq, exact]

theorem one_eq : one = saturated scale := by
  have less := mul_scale_lt_ceiling (n := 1) (by decide)
  rw [Nat.one_mul] at less
  exact (saturated_of_lt less).symm

/-- A product is no less than a power of two that the exact product is no less than. -/
theorem le_times {e : Nat} (le : 2 ^ e * scale ≤ u * v) : 2 ^ e ≤ times u v :=
  le_roundUnits scale_pos le

theorem ceiling_le_times (large : ceiling ≤ u) (one_le : scale ≤ v) : ceiling ≤ times u v := by
  have least := Nat.mul_le_mul large one_le
  obtain ⟨e, eq⟩ := exists_ceiling_eq
  rw [eq] at least ⊢
  exact le_times least

theorem times_comm (u v : Nat) : times u v = times v u := by rw [times, times, Nat.mul_comm]

/-- Products of numbers of at least one are worked out in units. -/
theorem mul_saturated (one_le : scale ≤ u) (one_le' : scale ≤ v) :
    (saturated u).mul (saturated v) = saturated (times u v) := by
  have some : u ≠ 0 := Nat.ne_of_gt (Nat.lt_of_lt_of_le scale_pos one_le)
  have some' : v ≠ 0 := Nat.ne_of_gt (Nat.lt_of_lt_of_le scale_pos one_le')
  rcases Nat.lt_or_ge u ceiling with small | large
  · rcases Nat.lt_or_ge v ceiling with small' | large'
    · rw [saturated_of_lt small, saturated_of_lt small']
      exact ofUnits_false (u * v) scale
    · rw [saturated_of_lt small, saturated_of_le large', times_comm,
        saturated_of_le (ceiling_le_times large' one_le)]
      exact if_neg some
  · rw [saturated_of_le large, saturated_of_le (ceiling_le_times large one_le')]
    rcases Nat.lt_or_ge v ceiling with small' | large'
    · rw [saturated_of_lt small']
      exact if_neg some'
    · rw [saturated_of_le large']
      rfl

theorem zero_eq : zero = saturated 0 := by
  have less := mul_scale_lt_ceiling (n := 0) (by decide)
  rw [Nat.zero_mul] at less
  exact (saturated_of_lt less).symm

/-- Zero times what is too large is not a number. -/
theorem zero_mul_saturated (v : Nat) :
    zero.mul (saturated v) = if v < ceiling then zero else nan := by
  have none : roundUnits (scale * 0) scale = 0 := roundUnits_mul scale_pos (Nat.dvd_zero _)
  rw [Nat.mul_zero] at none
  rcases Nat.lt_or_ge v ceiling with small | large
  · rw [saturated_of_lt small, if_pos small, zero, mul, Nat.zero_mul, bne_self_eq_false,
      ofUnits_false, none, ← zero_eq, zero]
  · rw [saturated_of_le large, if_neg (Nat.not_lt.2 large)]
    rfl

theorem isNaN_saturated (u : Nat) : (saturated u).isNaN = false := by
  rw [saturated]
  split <;> rfl

theorem lt_saturated_iff : lt (saturated u) (saturated v) = true ↔ u < v ∧ u < ceiling := by
  rw [saturated, saturated]
  split <;> split <;> simp [lt, signedUnits] <;> omega

/-- What is too large is the same number, whatever its units. -/
theorem saturated_congr (large : ceiling ≤ u) (le : u ≤ v) : saturated v = saturated u := by
  rw [saturated_of_le large, saturated_of_le (Nat.le_trans large le)]

theorem min_saturated (u v : Nat) :
    (saturated u).min (saturated v) = saturated (Nat.min u v) := by
  simp only [min, isNaN_saturated, Bool.false_eq_true, if_false, lt_saturated_iff]
  rcases Nat.lt_or_ge v u with less | le
  · have least : Nat.min u v = v := Nat.min_eq_right (Nat.le_of_lt less)
    rw [least]
    split
    · rfl
    · exact saturated_congr (by omega) (Nat.le_of_lt less)
  · have least : Nat.min u v = u := Nat.min_eq_left le
    rw [least, if_neg (by omega)]

theorem nan_min (x : Binary64) : nan.min x = x := rfl

theorem max_saturated (u v : Nat) :
    (saturated u).max (saturated v) = saturated (Nat.max u v) := by
  simp only [max, isNaN_saturated, Bool.false_eq_true, if_false, lt_saturated_iff]
  rcases Nat.lt_or_ge u v with less | le
  · have most : Nat.max u v = v := Nat.max_eq_right (Nat.le_of_lt less)
    rw [most]
    split
    · rfl
    · exact (saturated_congr (by omega) (Nat.le_of_lt less)).symm
  · have most : Nat.max u v = u := Nat.max_eq_left le
    rw [most, if_neg (by omega)]

theorem toNatUpTo_saturated (less : u < ceiling) (limit : Nat) :
    (saturated u).toNatUpTo limit = Nat.min (u / scale) limit := by
  rw [saturated_of_lt less, toNatUpTo]

end Binary64
end CensusLink
