import ChainRules.Proofs.Work.Rounding
import Mathlib

set_option autoImplicit false

namespace ChainRules.CompactBits

structure NextBelow (target lower : Target) : Prop where
  below : lower < target
  declared : ∃ bits : CompactBits, bits.toTarget = .ok lower
  greatest : ∀ (bits : CompactBits) (value : Target), bits.toTarget = .ok value → value < target → value ≤ lower

theorem declared_small_or_multiple (bits : CompactBits) (value : Target) (declared : bits.toTarget = .ok value) :
    value.toNat < 2 ^ 31 ∨ 2 ^ 16 ∣ value.toNat := by
  rcases declared_cases bits value declared with rfl | ⟨fits, rfl⟩
  · exact .inl (by decide)
  · by_cases long : 5 ≤ bits.exponent
    · exact .inr (expand_multiple _ _ 5 bits.mantissa_lt fits long)
    · exact .inl (expand_lt _ _ 5 bits.mantissa_lt fits (by decide) (Nat.lt_of_not_le long))

theorem five_bytes (target : Target) (large : 2 ^ 32 ≤ target.toNat) : 5 ≤ byteSize target := by
  have length : ¬ bitLength target.value ≤ 32 := by
    rw [bit_length_le]
    exact Nat.not_lt.mpr large
  unfold byteSize
  omega

theorem large_rounded (target : Target) (large : 2 ^ 32 ≤ target.toNat) : 2 ^ 32 ≤ (rounded target).toNat :=
  declared_le_rounded ⟨0x05010000⟩ ⟨0x100000000⟩ target (by decide +kernel) large

theorem step_divides_rounded (target : Target) (large : 2 ^ 32 ≤ target.toNat) : 2 ^ 16 ∣ (rounded target).toNat := by
  have size := five_bytes target large
  have step : 16 ≤ droppedBits (byteSize target) := by
    unfold droppedBits
    omega
  rw [rounded_value]
  exact Nat.dvd_mul_left_of_dvd (Nat.pow_dvd_pow 2 step) _

theorem declared_step_below (bits : CompactBits) (value target : Target) (declared : bits.toTarget = .ok value)
    (large : 2 ^ 32 ≤ target.toNat) (below : value < rounded target) :
    value.toNat + 2 ^ 16 ≤ (rounded target).toNat := by
  have least := large_rounded target large
  rcases declared_small_or_multiple bits value declared with small | multiple
  · omega
  · obtain ⟨steps, exact⟩ := step_divides_rounded target large
    obtain ⟨fewer, same⟩ := multiple
    have less : value.toNat < (rounded target).toNat := below
    omega

theorem rounded_same_or_next_below (target lowered : Target) (large : 2 ^ 32 ≤ target.toNat) (le : lowered ≤ target)
    (close : target.toNat < lowered.toNat + 2 ^ 16) :
    rounded lowered = rounded target ∨ NextBelow (rounded target) (rounded lowered) := by
  rcases Nat.eq_or_lt_of_le (rounded_mono lowered target le) with same | below
  · exact .inl (Target.eq_of_to_nat_eq _ _ same)
  · refine .inr ⟨below, ⟨ofTarget lowered, to_target_of_target lowered⟩, fun bits value declared less => ?_⟩
    -- The step down to this value is more than was lost, so the value is still below what is left.
    have step := declared_step_below bits value target declared large less
    have kept : (rounded target).toNat ≤ target.toNat := rounded_le target
    exact declared_le_rounded bits value lowered declared (show value.toNat ≤ lowered.toNat by omega)

-- Targets of four bytes are closer together: here a loss of less than `2 ^ 16` is many steps.
example : rounded ⟨0x80000000⟩ = ⟨0x80000000⟩ ∧ rounded ⟨0x7fffff00⟩ = ⟨0x7fffff00⟩ ∧
    rounded ⟨0x7fff8000⟩ = ⟨0x7fff8000⟩ := by decide +kernel

end ChainRules.CompactBits
