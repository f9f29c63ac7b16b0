import CensusLink.Json.Wire

/-!
How often a call that met contention is tried again, and how long is waited in between: a first
delay that grows by a factor from attempt to attempt, up to a greatest delay.
-/
namespace CensusLink

structure RetryPolicy where
  initialDelay : UInt64
  multiplier : Binary64
  maxDelay : UInt64
  maxAttempts : UInt32
  deriving DecidableEq

namespace RetryPolicy

def standard : RetryPolicy := ⟨100, .ofNat 2, 2000, 5⟩

/-- One attempt and no waiting. -/
def once : RetryPolicy := ⟨0, .one, 0, 1⟩

/-- The attempts that are made: never none. -/
def attempts (p : RetryPolicy) : Nat := Nat.max 1 p.maxAttempts.toNat

/-- The greatest exponent that is worked out. -/
def exponentLimit : Nat := 2147483647

/-- The delay after an attempt, before it is capped. The multiplier counts as one if it is less. -/
def uncapped (p : RetryPolicy) (attempt : Nat) : Binary64 :=
  (Binary64.ofNat p.initialDelay.toNat).mul
    ((p.multiplier.max .one).pow (Nat.min (attempt - 1) exponentLimit))

/-- The milliseconds to wait after an attempt, the first being attempt one. -/
def delayAfter (p : RetryPolicy) (attempt : Nat) : Nat :=
  (((p.uncapped attempt).min (.ofNat p.maxDelay.toNat)).max .zero).toNatUpTo 18446744073709551615

end RetryPolicy

instance : Wire RetryPolicy where
  shape := .record "RetryPolicy" <|
    .cons "initial_delay_ms" .required (Wire.shape UInt64) <|
    .cons "multiplier" .required (Wire.shape Binary64) <|
    .cons "max_delay_ms" .required (Wire.shape UInt64) <|
    .cons "max_attempts" .required (Wire.shape UInt32) .nil
  pack p := (Wire.pack p.initialDelay, Wire.pack p.multiplier, Wire.pack p.maxDelay,
    Wire.pack p.maxAttempts, ())
  unpack := fun (initialDelay, multiplier, maxDelay, maxAttempts, ()) =>
    ⟨Wire.unpack initialDelay, Wire.unpack multiplier, Wire.unpack maxDelay,
      Wire.unpack maxAttempts⟩
  unpack_pack p := by simp [Wire.unpack_pack]

end CensusLink
