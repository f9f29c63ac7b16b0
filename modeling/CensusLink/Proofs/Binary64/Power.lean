import CensusLink.Proofs.Binary64.Rounding
import Mathlib.Algebra.Order.Field.Basic
import Mathlib.Algebra.Order.Ring.Pow
import Mathlib.Algebra.Order.Ring.Rat
import Mathlib.Tactic.GCongr
import Mathlib.Tactic.Linarith
import Mathlib.Tactic.NormNum
import Mathlib.Tactic.Positivity
import Mathlib.Tactic.Ring

/-!
Powers of a whole number, as squaring and multiplying works them out. As long as a power is at most
2^53 it comes out exactly, and beyond that it does not come out below 2^53. Every power has as many
roundings as its exponent at most, so it is near the exact one, and is too large only where the
exact one nearly is.
-/
namespace CensusLink
namespace Binary64

attribute [local irreducible] scale ceiling

variable {m n n' k l r s u v : Nat}

/-- The units of a whole number, exactly if it is at most 2^53. -/
def Reaches (n u : Nat) : Prop :=
  (n ≤ 2 ^ 53 ∧ u = n * scale) ∨ (2 ^ 53 < n ∧ 2 ^ 53 * scale ≤ u)

theorem Reaches.scale_le (reaches : Reaches n u) (pos : 0 < n) : scale ≤ u := by
  rcases reaches with ⟨_, rfl⟩ | ⟨_, large⟩
  · exact Nat.le_mul_of_pos_left scale pos
  · exact Nat.le_trans (Nat.le_mul_of_pos_left scale (by decide)) large

theorem Reaches.of_le (le : n ≤ 2 ^ 53) : Reaches n (n * scale) := .inl ⟨le, rfl⟩

/-- Of a number beyond 2^53 no more is told than that it is. -/
theorem Reaches.of_lt (reaches : Reaches n u) (large : 2 ^ 53 < n) (large' : 2 ^ 53 < n') :
    Reaches n' u := by
  rcases reaches with ⟨le, _⟩ | ⟨_, far⟩
  · exact absurd large (Nat.not_lt.2 le)
  · exact .inr ⟨large', far⟩

theorem far_times (far : 2 ^ 53 * scale * scale ≤ u * v) : 2 ^ 53 * scale ≤ times u v := by
  obtain ⟨e, eq⟩ := exists_scale_eq
  have power : 2 ^ 53 * scale = 2 ^ (53 + e) := by rw [eq, Nat.pow_add]
  rw [power] at far ⊢
  exact le_times far

theorem Reaches.times (reaches : Reaches n u) (reaches' : Reaches n' v) (pos : 0 < n)
    (pos' : 0 < n') : Reaches (n * n') (times u v) := by
  have one_le := reaches.scale_le pos
  have one_le' := reaches'.scale_le pos'
  rcases reaches with ⟨le, rfl⟩ | ⟨large, far⟩
  · rcases reaches' with ⟨le', rfl⟩ | ⟨large', far'⟩
    · have product : n * scale * (n' * scale) = scale * (n * n' * scale) := by ring
      by_cases few : n * n' ≤ 2 ^ 53
      · obtain ⟨e, eq⟩ := exists_scale_eq
        refine .inl ⟨few, ?_⟩
        rw [Binary64.times, product]
        refine roundUnits_mul scale_pos ?_
        rw [eq]
        exact dvd_of_le few e
      · have many : 2 ^ 53 < n * n' := Nat.not_le.1 few
        refine .inr ⟨many, far_times ?_⟩
        rw [product, Nat.mul_comm]
        exact Nat.mul_le_mul_left scale (Nat.mul_le_mul_right scale many.le)
    · refine .inr ⟨Nat.lt_of_lt_of_le large' (Nat.le_mul_of_pos_left n' pos), far_times ?_⟩
      rw [Nat.mul_comm (n * scale)]
      exact Nat.mul_le_mul far' one_le
  · refine .inr ⟨Nat.lt_of_lt_of_le large (Nat.le_mul_of_pos_right n pos'), far_times ?_⟩
    exact Nat.mul_le_mul far one_le'

/-- By what part a rounding moves a number at most. -/
def slack : ℚ := 1 / 2 ^ 53

/-- The units of a whole number after so many roundings. -/
def Near (r n u : Nat) : Prop :=
  (1 - slack) ^ r * (n * scale) ≤ u ∧ (u : ℚ) ≤ (1 + slack) ^ r * (n * scale)

theorem Near.zero (n : Nat) : Near 0 n (n * scale) := by simp [Near]

theorem slack_bounds : 0 < slack ∧ slack < 1 := by norm_num [slack]

/-- Where there are 53 bits to round to, a product is off by the slack. -/
theorem times_error (one_le : scale ≤ u) (one_le' : scale ≤ v) :
    (1 - slack) * (u * v) ≤ scale * (times u v : ℚ) ∧
      scale * (times u v : ℚ) ≤ (1 + slack) * (u * v) := by
  have bits : 2 ^ 52 ≤ scale := by decide +kernel
  have many : 2 ^ 52 * scale ≤ u * v := Nat.mul_le_mul (Nat.le_trans bits one_le) one_le'
  obtain ⟨above, below⟩ := roundUnits_error scale_pos many
  have above' : (2 ^ 53 * (u * v) : ℚ) ≤ 2 ^ 53 * (scale * times u v) + u * v := by
    exact_mod_cast above
  have below' : (2 ^ 53 * (scale * times u v) : ℚ) ≤ 2 ^ 53 * (u * v) + u * v := by
    exact_mod_cast below
  constructor
  · rw [slack]
    linarith
  · rw [slack]
    linarith

theorem Near.times (near : Near r n u) (near' : Near s n' v) (one_le : scale ≤ u)
    (one_le' : scale ≤ v) : Near (r + s + 1) (n * n') (times u v) := by
  obtain ⟨low, high⟩ := near
  obtain ⟨low', high'⟩ := near'
  obtain ⟨above, below⟩ := times_error one_le one_le'
  obtain ⟨slack_pos, slack_lt⟩ := slack_bounds
  have pos : (0 : ℚ) < scale := by exact_mod_cast scale_pos
  have part : 0 ≤ 1 - slack := by linarith
  constructor
  · refine le_of_mul_le_mul_left ?_ pos
    calc (scale : ℚ) * ((1 - slack) ^ (r + s + 1) * ((n * n' : ℕ) * scale))
        = (1 - slack) * (((1 - slack) ^ r * (n * scale)) * ((1 - slack) ^ s * (n' * scale))) := by
          push_cast
          ring
      _ ≤ (1 - slack) * (u * v) := by gcongr
      _ ≤ scale * Binary64.times u v := above
  · refine le_of_mul_le_mul_left ?_ pos
    calc (scale : ℚ) * Binary64.times u v ≤ (1 + slack) * (u * v) := below
      _ ≤ (1 + slack) * (((1 + slack) ^ r * (n * scale)) * ((1 + slack) ^ s * (n' * scale))) := by
          gcongr
      _ = scale * ((1 + slack) ^ (r + s + 1) * ((n * n' : ℕ) * scale)) := by
          push_cast
          ring

/-- The units of a power of a whole number after so many roundings. -/
structure Tracks (m k r u : Nat) : Prop where
  reaches : Reaches (m ^ k) u
  near : Near r (m ^ k) u

theorem Tracks.scale_le (tracks : Tracks m k r u) (pos : 0 < m) : scale ≤ u :=
  tracks.reaches.scale_le (Nat.pow_pos pos)

theorem Tracks.times (tracks : Tracks m k r u) (tracks' : Tracks m l s v) (pos : 0 < m) :
    Tracks m (k + l) (r + s + 1) (times u v) := by
  constructor
  · rw [Nat.pow_add]
    exact tracks.reaches.times tracks'.reaches (Nat.pow_pos pos) (Nat.pow_pos pos)
  · rw [Nat.pow_add]
    exact tracks.near.times tracks'.near (tracks.scale_le pos) (tracks'.scale_le pos)

/-- Squaring and multiplying comes to a power of the base, times what was there before. Its
roundings are counted as those of one multiplication after the other would be: a square counts
twice what its root counts and one more, so that the bits of the exponent make up for the steps. -/
theorem exists_powFrom (pos : 0 < m) {steps : Nat} (short : n < 2 ^ steps)
    (tracks : Tracks m k r u) (base : Tracks m l s v) :
    ∃ w, powFrom steps (saturated u) (saturated v) n = saturated w ∧
      Tracks m (k + l * n) (r + (s + 1) * n) w := by
  induction steps generalizing k r l s n u v with
  | zero =>
    obtain rfl : n = 0 := Nat.lt_one_iff.1 short
    exact ⟨u, rfl, tracks⟩
  | succ steps ih =>
    have half : n / 2 < 2 ^ steps := by
      rw [Nat.pow_succ] at short
      omega
    have halves : 2 * (n / 2) + n % 2 = n := Nat.div_add_mod n 2
    have square : (saturated v).mul (saturated v) = saturated (Binary64.times v v) :=
      mul_saturated (base.scale_le pos) (base.scale_le pos)
    obtain ⟨u', eq, tracks'⟩ : ∃ u', (if n % 2 = 1 then (saturated u).mul (saturated v) else
        saturated u) = saturated u' ∧ Tracks m (k + l * (n % 2)) (r + (s + 1) * (n % 2)) u' := by
      rcases Nat.mod_two_eq_zero_or_one n with even | odd
      · refine ⟨u, if_neg (by omega), ?_⟩
        rw [even]
        exact tracks
      · refine ⟨Binary64.times u v, ?_, ?_⟩
        · rw [if_pos odd, mul_saturated (tracks.scale_le pos) (base.scale_le pos)]
        · rw [odd, Nat.mul_one, Nat.mul_one]
          exact tracks.times base pos
    simp only [powFrom, eq, square]
    split
    next done =>
      have last : n % 2 = n := by omega
      rw [last] at tracks'
      exact ⟨u', rfl, tracks'⟩
    next =>
      obtain ⟨w, result, tracked⟩ := ih half tracks' (base.times base pos)
      have count (c d : Nat) : c + d * (n % 2) + (d + d) * (n / 2) = c + d * n := by
        calc c + d * (n % 2) + (d + d) * (n / 2) = c + d * (2 * (n / 2) + n % 2) := by ring
          _ = c + d * n := by rw [halves]
      have roundings : s + s + 1 + 1 = s + 1 + (s + 1) := by omega
      rw [roundings, count, count] at tracked
      exact ⟨w, result, tracked⟩

theorem Tracks.of_le (le : m ^ k ≤ 2 ^ 53) : Tracks m k 0 (m ^ k * scale) :=
  ⟨.of_le le, .zero (m ^ k)⟩

/-- A power of a whole number in units. -/
theorem exists_pow (pos : 0 < m) (le : m ≤ 2 ^ 53) (n : Nat) :
    ∃ w, (saturated (m * scale)).pow n = saturated w ∧ Tracks m n n w := by
  have start : Tracks m 0 0 (m ^ 0 * scale) := .of_le (by rw [Nat.pow_zero]; decide)
  have base : Tracks m 1 0 (m ^ 1 * scale) := .of_le (by rwa [Nat.pow_one])
  rw [Nat.pow_zero, Nat.one_mul] at start
  rw [Nat.pow_one] at base
  obtain ⟨w, eq, tracks⟩ := exists_powFrom pos Nat.lt_log2_self start base (n := n)
  rw [← one_eq] at eq
  rw [Nat.zero_add, Nat.one_mul] at tracks
  exact ⟨w, eq, tracks⟩

/-- So many roundings as an exponent may ask for move a number by a quarter, not more. -/
theorem slack_pow (few : r ≤ 2 ^ 31) :
    3 / 4 ≤ (1 - slack) ^ r ∧ (1 + slack) ^ r ≤ 4 / 3 := by
  obtain ⟨slack_pos, slack_lt⟩ := slack_bounds
  have few' : (r : ℚ) ≤ 2 ^ 31 := by exact_mod_cast few
  have low : 3 / 4 ≤ (1 - slack) ^ r := by
    have bernoulli := one_add_mul_le_pow (show (-2 : ℚ) ≤ -slack by linarith) r
    have part : (r : ℚ) * slack ≤ 1 / 4 := by
      rw [slack]
      linarith
    rw [← sub_eq_add_neg] at bernoulli
    linarith
  refine ⟨low, ?_⟩
  have both : (1 + slack) ^ r * (1 - slack) ^ r ≤ 1 := by
    rw [← mul_pow]
    refine pow_le_one₀ ?_ ?_ <;> nlinarith
  have upper : 0 ≤ (1 + slack) ^ r := by positivity
  nlinarith

/-- After so many roundings a number is off by a third at most. -/
theorem Near.bounds (near : Near r n u) (few : r ≤ 2 ^ 31) :
    3 * (n * scale) ≤ 4 * u ∧ 3 * u ≤ 4 * (n * scale) := by
  obtain ⟨low, high⟩ := near
  obtain ⟨part, more⟩ := slack_pow few
  have exact : (0 : ℚ) ≤ n * scale := by positivity
  constructor
  · have below : 3 / 4 * (n * scale : ℚ) ≤ u := le_trans (by gcongr) low
    have whole : 3 * (n * scale : ℚ) ≤ 4 * u := by linarith
    exact_mod_cast whole
  · have above : (u : ℚ) ≤ 4 / 3 * (n * scale) := le_trans high (by gcongr)
    have whole : 3 * (u : ℚ) ≤ 4 * (n * scale) := by linarith
    exact_mod_cast whole

end Binary64
end CensusLink
