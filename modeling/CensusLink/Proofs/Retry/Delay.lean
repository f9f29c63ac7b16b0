import CensusLink.Proofs.Binary64.Power
import CensusLink.Retry.Policy

/-!
The waits between the attempts of a write, for policies of whole numbers. A delay is the first one
times a power of the factor, or the greatest delay if that is less. That holds for exact powers, for
rounded ones and for those that are too large to be numbers, with one exception: zero times what is
too large is not a number, and what is not a number gives way to the greatest delay. So a policy
whose first delay is zero does not wait at first, and waits as long as it may from some attempt on.
-/
namespace CensusLink
namespace RetryPolicy
open Binary64

theorem exponentLimit_bounds : 1026 ≤ exponentLimit ∧ exponentLimit ≤ 2 ^ 31 := by decide

/-- Two to the greatest exponent is too large by far. -/
theorem far_above : ∃ e, e ≤ exponentLimit ∧ 4 * ceiling ≤ 3 * (2 ^ e * scale) :=
  ⟨1026, by decide, by decide +kernel⟩

theorem four_scale_lt : 4 * scale < 3 * ceiling := by decide +kernel

attribute [local irreducible] scale ceiling exponentLimit

variable {p : RetryPolicy} {attempt later m n u v w : Nat}

/-- A policy of whole numbers, each of which a floating point number tells exactly. -/
structure Whole (p : RetryPolicy) (m : Nat) : Prop where
  multiplier : p.multiplier = .ofNat m
  pos : 1 ≤ m
  le : m ≤ 2 ^ 53
  first : p.initialDelay.toNat ≤ 2 ^ 53
  greatest : p.maxDelay.toNat ≤ 2 ^ 53

/-- The exponent of an attempt. -/
def exponent (attempt : Nat) : Nat := Nat.min (attempt - 1) exponentLimit

/-- What the first delay is multiplied with. -/
def factor (p : RetryPolicy) (attempt : Nat) : Binary64 :=
  (p.multiplier.max .one).pow (exponent attempt)

/-- The factor is too large to be a number. -/
def Overflows (p : RetryPolicy) (attempt : Nat) : Prop := p.factor attempt = .infinite false

theorem Whole.exists_factor (whole : p.Whole m) (attempt : Nat) :
    ∃ w, p.factor attempt = saturated w ∧
      Tracks m (exponent attempt) (exponent attempt) w := by
  have most : Nat.max (m * scale) scale = m * scale :=
    Nat.max_eq_left (Nat.le_mul_of_pos_left scale whole.pos)
  rw [factor, whole.multiplier, ofNat_eq whole.le, one_eq, max_saturated, most]
  exact exists_pow whole.pos whole.le (exponent attempt)

theorem uncapped_eq (p : RetryPolicy) (attempt : Nat) :
    p.uncapped attempt = (Binary64.ofNat p.initialDelay.toNat).mul (p.factor attempt) := rfl

/-- A delay of so many units, in whole milliseconds. -/
theorem delayAfter_of_capped (short : p.maxDelay.toNat ≤ 2 ^ 53)
    (eq : (p.uncapped attempt).min (.ofNat p.maxDelay.toNat) = saturated u)
    (le : u ≤ p.maxDelay.toNat * scale) : p.delayAfter attempt = u / scale := by
  have finite : u < ceiling := Nat.lt_of_le_of_lt le (mul_scale_lt_ceiling short)
  have most : Nat.max u 0 = u := Nat.max_eq_left (Nat.zero_le u)
  have quotient : u / scale ≤ p.maxDelay.toNat := Nat.div_le_of_le_mul (by rwa [Nat.mul_comm])
  have least : Nat.min (u / scale) 18446744073709551615 = u / scale :=
    Nat.min_eq_left (Nat.le_trans quotient (Nat.le_trans short (by decide)))
  rw [delayAfter, eq, zero_eq, max_saturated, most, toNatUpTo_saturated finite, least]

theorem delayAfter_of_saturated (short : p.maxDelay.toNat ≤ 2 ^ 53)
    (eq : p.uncapped attempt = saturated u) :
    p.delayAfter attempt = Nat.min (u / scale) p.maxDelay.toNat := by
  have capped : (p.uncapped attempt).min (.ofNat p.maxDelay.toNat) =
      saturated (Nat.min u (p.maxDelay.toNat * scale)) := by
    rw [eq, ofNat_eq short, min_saturated]
  rw [delayAfter_of_capped short capped (Nat.min_le_right _ _)]
  rcases Nat.lt_or_ge u (p.maxDelay.toNat * scale) with less | le
  · have least : Nat.min u (p.maxDelay.toNat * scale) = u := Nat.min_eq_left less.le
    have quotient : u / scale < p.maxDelay.toNat := (Nat.div_lt_iff_lt_mul scale_pos).2 less
    rw [least]
    exact (Nat.min_eq_left quotient.le).symm
  · have least : Nat.min u (p.maxDelay.toNat * scale) = p.maxDelay.toNat * scale :=
      Nat.min_eq_right le
    have quotient : p.maxDelay.toNat ≤ u / scale := (Nat.le_div_iff_mul_le scale_pos).2 le
    rw [least, Nat.mul_div_cancel _ scale_pos]
    exact (Nat.min_eq_right quotient).symm

theorem delayAfter_of_nan (short : p.maxDelay.toNat ≤ 2 ^ 53) (eq : p.uncapped attempt = .nan) :
    p.delayAfter attempt = p.maxDelay.toNat := by
  have capped : (p.uncapped attempt).min (.ofNat p.maxDelay.toNat) =
      saturated (p.maxDelay.toNat * scale) := by
    rw [eq, ofNat_eq short, nan_min]
  rw [delayAfter_of_capped short capped (Nat.le_refl _), Nat.mul_div_cancel _ scale_pos]

/-- Whole milliseconds, as far as they are told exactly. -/
theorem min_of_reaches {max : Nat} (reaches : Reaches n u) (short : max ≤ 2 ^ 53) :
    Nat.min (u / scale) max = Nat.min n max := by
  rcases reaches with ⟨_, rfl⟩ | ⟨large, far⟩
  · rw [Nat.mul_div_cancel n scale_pos]
  · have quotient : max ≤ u / scale :=
      Nat.le_trans short ((Nat.le_div_iff_mul_le scale_pos).2 far)
    have large' : max ≤ n := Nat.le_trans short large.le
    have least : Nat.min (u / scale) max = max := Nat.min_eq_right quotient
    have least' : Nat.min n max = max := Nat.min_eq_right large'
    rw [least, least']

/-- A first delay of zero stays zero, unless the factor is too large. -/
theorem delayAfter_of_zero (short : p.maxDelay.toNat ≤ 2 ^ 53) (none : p.initialDelay.toNat = 0)
    (eq : p.factor attempt = saturated w) :
    p.delayAfter attempt = if w < ceiling then 0 else p.maxDelay.toNat := by
  have first : Binary64.ofNat p.initialDelay.toNat = zero := by
    rw [none, ofNat_eq (by decide), Nat.zero_mul, zero_eq]
  have product := zero_mul_saturated w
  rw [← eq, ← first, ← uncapped_eq, first] at product
  by_cases small : w < ceiling
  · rw [if_pos small] at product ⊢
    rw [zero_eq] at product
    rw [delayAfter_of_saturated short product, Nat.zero_div]
    exact Nat.min_eq_left (Nat.zero_le _)
  · rw [if_neg small] at product ⊢
    exact delayAfter_of_nan short product

theorem exponent_of_le (within : attempt - 1 ≤ exponentLimit) : exponent attempt = attempt - 1 :=
  Nat.min_eq_left within

theorem exponent_of_ge (beyond : exponentLimit ≤ attempt - 1) : exponent attempt = exponentLimit :=
  Nat.min_eq_right beyond

/-- A power that is more than can be told exactly still is where the exponent is cut off. -/
theorem reaches_of_exponent {first : Nat} (some : 0 < first) (pos : 0 < m)
    (reaches : Reaches (first * m ^ exponent attempt) u) :
    Reaches (first * m ^ (attempt - 1)) u := by
  rcases Nat.le_total (attempt - 1) exponentLimit with within | beyond
  · rwa [exponent_of_le within] at reaches
  rcases Nat.eq_or_lt_of_le (show 1 ≤ m from pos) with rfl | two_le
  · rwa [Nat.one_pow] at reaches ⊢
  · rw [exponent_of_ge beyond] at reaches
    have far : 2 ^ 53 < first * m ^ exponentLimit :=
      calc 2 ^ 53 < 2 ^ exponentLimit :=
            Nat.pow_lt_pow_right (by decide) (Nat.lt_of_lt_of_le (by decide) exponentLimit_bounds.1)
        _ ≤ m ^ exponentLimit := Nat.pow_le_pow_left two_le _
        _ ≤ first * m ^ exponentLimit := Nat.le_mul_of_pos_left (m ^ exponentLimit) some
    have farther : first * m ^ exponentLimit ≤ first * m ^ (attempt - 1) :=
      Nat.mul_le_mul_left first (Nat.pow_le_pow_right pos beyond)
    exact reaches.of_lt far (Nat.lt_of_lt_of_le far farther)

/-- A first delay of some length follows the formula. -/
theorem delayAfter_of_pos (short : p.initialDelay.toNat ≤ 2 ^ 53)
    (short' : p.maxDelay.toNat ≤ 2 ^ 53) (some : 0 < p.initialDelay.toNat) (pos : 0 < m)
    (eq : p.factor attempt = saturated w) (tracks : Tracks m (exponent attempt) n w) :
    p.delayAfter attempt =
      Nat.min (p.initialDelay.toNat * m ^ (attempt - 1)) p.maxDelay.toNat := by
  have first := Reaches.of_le short
  have product : p.uncapped attempt = saturated (times (p.initialDelay.toNat * scale) w) := by
    rw [uncapped_eq, eq, ofNat_eq short]
    exact mul_saturated (first.scale_le some) (tracks.scale_le pos)
  rw [delayAfter_of_saturated short' product]
  have reaches := first.times tracks.reaches some (Nat.pow_pos pos)
  exact min_of_reaches (reaches_of_exponent some pos reaches) short'

theorem exponent_le (attempt : Nat) : exponent attempt ≤ 2 ^ 31 :=
  Nat.le_trans (Nat.min_le_right _ _) exponentLimit_bounds.2

theorem exponent_mono (le : attempt ≤ later) : exponent attempt ≤ exponent later := by
  have less : attempt - 1 ≤ later - 1 := Nat.sub_le_sub_right le 1
  exact Nat.le_min.2 ⟨Nat.le_trans (Nat.min_le_left _ _) less, Nat.min_le_right _ _⟩

theorem overflows_iff (eq : p.factor attempt = saturated w) :
    p.Overflows attempt ↔ ceiling ≤ w := by
  rw [Overflows, eq, saturated_eq_infinite_iff]

/-- One to any power is not too large. -/
theorem two_le_of_ceiling_le (pos : 0 < m) (near : Near n (m ^ n) w) (few : n ≤ 2 ^ 31)
    (large : ceiling ≤ w) : 2 ≤ m := by
  by_contra less
  obtain rfl : m = 1 := by omega
  have bound := (near.bounds few).2
  rw [Nat.one_pow, Nat.one_mul] at bound
  have apart := four_scale_lt
  omega

theorem not_overflows_of_lt (pos : 0 < m) (eq : p.factor attempt = saturated w)
    (near : Near (exponent attempt) (m ^ exponent attempt) w)
    (small : 4 * (m ^ (attempt - 1) * scale) < 3 * ceiling) : ¬ p.Overflows attempt := by
  have bound := (near.bounds (exponent_le attempt)).2
  have less : m ^ exponent attempt * scale ≤ m ^ (attempt - 1) * scale :=
    Nat.mul_le_mul_right scale (Nat.pow_le_pow_right pos (Nat.min_le_left _ _))
  rw [overflows_iff eq]
  omega

theorem overflows_of_le (pos : 0 < m) (eq : p.factor attempt = saturated w)
    (near : Near (exponent attempt) (m ^ exponent attempt) w)
    (large : 4 * ceiling ≤ 3 * (m ^ (attempt - 1) * scale)) : p.Overflows attempt := by
  have bound := (near.bounds (exponent_le attempt)).1
  rw [overflows_iff eq]
  rcases Nat.le_total (attempt - 1) exponentLimit with within | beyond
  · rw [exponent_of_le within] at bound
    omega
  rcases Nat.eq_or_lt_of_le (show 1 ≤ m from pos) with rfl | two_le
  · have apart := four_scale_lt
    rw [Nat.one_pow, Nat.one_mul] at large
    omega
  · rw [exponent_of_ge beyond] at bound
    obtain ⟨e, le, far⟩ := far_above
    have power : 2 ^ e * scale ≤ m ^ exponentLimit * scale :=
      Nat.mul_le_mul_right scale
        (Nat.le_trans (Nat.pow_le_pow_right (by decide) le) (Nat.pow_le_pow_left two_le _))
    omega

namespace Whole

variable (whole : p.Whole m)
include whole

/-- A factor that is too large stays so from attempt to attempt. -/
theorem overflows_mono (overflow : p.Overflows attempt) (le : attempt ≤ later) :
    p.Overflows later := by
  obtain ⟨v, eq, tracks⟩ := whole.exists_factor attempt
  obtain ⟨w, eq', tracks'⟩ := whole.exists_factor later
  rcases Nat.eq_or_lt_of_le (exponent_mono le) with same | less
  · rwa [Overflows, factor, ← same]
  · rw [overflows_iff eq] at overflow
    have two_le := two_le_of_ceiling_le whole.pos tracks.near (exponent_le attempt) overflow
    have bound := (tracks.near.bounds (exponent_le attempt)).2
    have bound' := (tracks'.near.bounds (exponent_le later)).1
    have twice : 2 * (m ^ exponent attempt * scale) ≤ m ^ exponent later * scale := by
      rw [← Nat.mul_assoc]
      refine Nat.mul_le_mul_right scale ?_
      calc 2 * m ^ exponent attempt ≤ m * m ^ exponent attempt := Nat.mul_le_mul_right _ two_le
        _ = m ^ (exponent attempt + 1) := (Nat.pow_succ').symm
        _ ≤ m ^ exponent later := Nat.pow_le_pow_right whole.pos less
    rw [overflows_iff eq']
    omega

/-- Zero times what is too large gives way to the greatest delay. -/
theorem delayAfter_of_overflows (none : p.initialDelay.toNat = 0) (overflow : p.Overflows attempt) :
    p.delayAfter attempt = p.maxDelay.toNat := by
  obtain ⟨w, eq, -⟩ := whole.exists_factor attempt
  rw [delayAfter_of_zero whole.greatest none eq]
  exact if_neg (Nat.not_lt.2 ((overflows_iff eq).1 overflow))

/-- Anything else follows the formula. -/
theorem delayAfter_eq (told : p.initialDelay.toNat = 0 → ¬ p.Overflows attempt) :
    p.delayAfter attempt =
      Nat.min (p.initialDelay.toNat * m ^ (attempt - 1)) p.maxDelay.toNat := by
  obtain ⟨w, eq, tracks⟩ := whole.exists_factor attempt
  rcases Nat.eq_zero_or_pos p.initialDelay.toNat with none | some
  · have small : w < ceiling := Nat.not_le.1 fun large => told none ((overflows_iff eq).2 large)
    rw [delayAfter_of_zero whole.greatest none eq, if_pos small, none, Nat.zero_mul]
    exact (Nat.min_eq_left (Nat.zero_le _)).symm
  · exact delayAfter_of_pos whole.first whole.greatest some whole.pos eq tracks

theorem delayAfter_le (attempt : Nat) : p.delayAfter attempt ≤ p.maxDelay.toNat := by
  by_cases idle : p.initialDelay.toNat = 0 ∧ p.Overflows attempt
  · exact (whole.delayAfter_of_overflows idle.1 idle.2).le
  · rw [whole.delayAfter_eq fun none overflow => idle ⟨none, overflow⟩]
    exact Nat.min_le_right _ _

theorem delayAfter_mono (le : attempt ≤ later) : p.delayAfter attempt ≤ p.delayAfter later := by
  by_cases idle : p.initialDelay.toNat = 0 ∧ p.Overflows later
  · rw [whole.delayAfter_of_overflows idle.1 idle.2]
    exact whole.delayAfter_le attempt
  · rw [whole.delayAfter_eq fun none overflow => idle ⟨none, overflow⟩,
      whole.delayAfter_eq fun none overflow => idle ⟨none, whole.overflows_mono overflow le⟩]
    have grown :
        p.initialDelay.toNat * m ^ (attempt - 1) ≤ p.initialDelay.toNat * m ^ (later - 1) :=
      Nat.mul_le_mul_left _ (Nat.pow_le_pow_right whole.pos (Nat.sub_le_sub_right le 1))
    exact Nat.le_min.2 ⟨Nat.le_trans (Nat.min_le_left _ _) grown, Nat.min_le_right _ _⟩

end Whole

/-- With whole numbers that are told exactly, the delay after an attempt is the first delay times a
power of the factor, or the greatest delay if that is less, unless zero is multiplied with what is
too large to be a number: then it is the greatest delay. Never is it longer than that, and from
attempt to attempt it does not get shorter. The factor is too large only where the power is three
quarters of what is too large at least, and wherever it is four thirds of that. -/
theorem delay_follows_formula_iff (whole : p.Whole m) (attempt : Nat) :
    (p.delayAfter attempt = Nat.min (p.initialDelay.toNat * m ^ (attempt - 1)) p.maxDelay.toNat ↔
      (p.initialDelay.toNat = 0 → p.Overflows attempt → p.maxDelay.toNat = 0)) ∧
    (p.initialDelay.toNat = 0 → p.Overflows attempt → p.delayAfter attempt = p.maxDelay.toNat) ∧
    p.delayAfter attempt ≤ p.maxDelay.toNat ∧
    (∀ later, attempt ≤ later → p.delayAfter attempt ≤ p.delayAfter later) ∧
    (4 * (m ^ (attempt - 1) * scale) < 3 * ceiling → ¬ p.Overflows attempt) ∧
    (4 * ceiling ≤ 3 * (m ^ (attempt - 1) * scale) → p.Overflows attempt) := by
  obtain ⟨w, eq, tracks⟩ := whole.exists_factor attempt
  refine ⟨⟨fun formula none overflow => ?_, fun told => ?_⟩, whole.delayAfter_of_overflows,
    whole.delayAfter_le attempt, fun later => whole.delayAfter_mono,
    not_overflows_of_lt whole.pos eq tracks.near, overflows_of_le whole.pos eq tracks.near⟩
  · rw [whole.delayAfter_of_overflows none overflow, none, Nat.zero_mul] at formula
    exact formula.trans (Nat.min_eq_left (Nat.zero_le _))
  · by_cases idle : p.initialDelay.toNat = 0 ∧ p.Overflows attempt
    · rw [whole.delayAfter_of_overflows idle.1 idle.2, told idle.1 idle.2]
      exact (Nat.min_eq_right (Nat.zero_le _)).symm
    · exact whole.delayAfter_eq fun none overflow => idle ⟨none, overflow⟩

/-- No first delay, a factor of two and a greatest delay of two seconds. -/
def idle : RetryPolicy := ⟨0, .ofNat 2, 2000, 5⟩

theorem whole_idle : idle.Whole 2 := ⟨rfl, by decide, by decide, by decide, by decide⟩

/-- Far from where the power gets too large the formula holds or does not hold for sure. -/
theorem delay_follows_formula_iff_sample :
    idle.Whole 2 ∧ idle.delayAfter 1024 = 0 ∧ idle.delayAfter 1026 = 2000 := by
  obtain ⟨formula, -, -, -, told, -⟩ := delay_follows_formula_iff whole_idle 1024
  obtain ⟨-, waits, -, -, -, overflow⟩ := delay_follows_formula_iff whole_idle 1026
  refine ⟨whole_idle, ?_, waits rfl (overflow (by decide +kernel))⟩
  have less := told (by decide +kernel)
  refine (formula.2 fun _ overflow => absurd overflow less).trans ?_
  have first : idle.initialDelay.toNat = 0 := rfl
  rw [first, Nat.zero_mul]
  exact Nat.min_eq_left (Nat.zero_le _)

/-- The first attempt whose power is too large: there is a wait, where the formula has none. -/
theorem idle_policy_waits :
    idle.delayAfter 1025 = 2000 ∧
      Nat.min (idle.initialDelay.toNat * 2 ^ (1025 - 1)) idle.maxDelay.toNat = 0 ∧
      idle.delayAfter 1024 = 0 := by
  decide +kernel

end RetryPolicy
end CensusLink
