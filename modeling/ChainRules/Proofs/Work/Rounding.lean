import ChainRules.Proofs.Work.Canonical
import Mathlib

set_option autoImplicit false

namespace ChainRules.CompactBits

theorem mantissa_lt (bits : CompactBits) : bits.mantissa < 2 ^ 23 :=
  Nat.mod_lt bits.value.toNat (by decide)

theorem declared_cases (bits : CompactBits) (target : Target) (declared : bits.toTarget = .ok target) :
    target = .zero ∨
      overflows bits.exponent bits.mantissa = false ∧ target = ⟨expand bits.exponent bits.mantissa⟩ := by
  unfold toTarget at declared
  by_cases zero : bits.mantissa = 0
  · rw [if_pos zero] at declared
    exact .inl (Except.ok.inj declared).symm
  · by_cases negative : bits.isNegative = true
    · simp [zero, negative] at declared
    · by_cases overflow : overflows bits.exponent bits.mantissa = true
      · simp [zero, negative, overflow] at declared
      · rw [if_neg zero, if_neg negative, if_neg overflow] at declared
        exact .inr ⟨Bool.eq_false_of_not_eq_true overflow, (Except.ok.inj declared).symm⟩

theorem shifted_lt (number bits shift width : Nat) (short : number < 2 ^ bits) (within : bits + shift ≤ width) :
    number * 2 ^ shift < 2 ^ width := by
  calc
    number * 2 ^ shift < 2 ^ bits * 2 ^ shift := Nat.mul_lt_mul_of_pos_right short (Nat.two_pow_pos shift)
    _ = 2 ^ (bits + shift) := (pow_add 2 bits shift).symm
    _ ≤ 2 ^ width := Nat.pow_le_pow_right (by decide) within

theorem shifted_mantissa_lt (exponent mantissa : Nat) (small : mantissa < 2 ^ 23)
    (fits : overflows exponent mantissa = false) : mantissa * 2 ^ droppedBits exponent < 2 ^ 256 := by
  have guard := of_decide_eq_false fits
  unfold droppedBits
  rcases Nat.lt_or_ge exponent 33 with low | high
  · exact shifted_lt mantissa 23 _ 256 small (by omega)
  · rcases Nat.lt_or_ge exponent 34 with middle | top
    · exact shifted_lt mantissa 16 _ 256 (by omega) (by omega)
    · exact shifted_lt mantissa 8 _ 256 (by omega) (by omega)

-- One of the two powers is 1: the mantissa is moved up or down, never both.
theorem expand_value (exponent mantissa : Nat) (small : mantissa < 2 ^ 23)
    (fits : overflows exponent mantissa = false) :
    (expand exponent mantissa).toNat = mantissa * 2 ^ droppedBits exponent / 2 ^ (8 * (3 - exponent)) := by
  have bound := shifted_mantissa_lt exponent mantissa small fits
  unfold expand
  by_cases short : exponent ≤ 3
  · rw [if_pos short, Nat.shiftRight_eq_div_pow, dropped_bits_short exponent short, pow_zero, Nat.mul_one]
    exact of_nat_value (Nat.lt_of_le_of_lt (Nat.div_le_self _ _) small) (by decide)
  · rw [if_neg short, Nat.shiftLeft_eq, Nat.sub_eq_zero_of_le (Nat.le_of_not_le short), Nat.mul_zero, pow_zero,
      Nat.div_one]
    exact of_nat_value bound (Nat.le_refl _)

theorem expand_multiple (exponent mantissa size : Nat) (small : mantissa < 2 ^ 23)
    (fits : overflows exponent mantissa = false) (reaches : size ≤ exponent) :
    2 ^ droppedBits size ∣ (expand exponent mantissa).toNat := by
  rw [expand_value exponent mantissa small fits]
  by_cases short : exponent ≤ 3
  · rw [dropped_bits_short size (Nat.le_trans reaches short), pow_zero]
    exact one_dvd _
  · rw [Nat.sub_eq_zero_of_le (Nat.le_of_not_le short), Nat.mul_zero, pow_zero, Nat.div_one]
    have shift : droppedBits size ≤ droppedBits exponent :=
      Nat.mul_le_mul_left 8 (Nat.sub_le_sub_right reaches 3)
    exact Nat.dvd_mul_left_of_dvd (Nat.pow_dvd_pow 2 shift) mantissa

theorem expand_lt (exponent mantissa size : Nat) (small : mantissa < 2 ^ 23)
    (fits : overflows exponent mantissa = false) (long : 3 < size) (shorter : exponent < size) :
    (expand exponent mantissa).toNat < 2 ^ (droppedBits size + 15) := by
  rw [expand_value exponent mantissa small fits]
  apply Nat.lt_of_le_of_lt (Nat.div_le_self _ _)
  apply shifted_lt mantissa 23 _ _ small
  unfold droppedBits
  omega

theorem leading_bit_le (target : Target) (long : 3 < byteSize target) :
    2 ^ (droppedBits (byteSize target) + 15) ≤ target.toNat := by
  apply le_to_nat_of_bound
  unfold droppedBits
  omega

theorem multiple_le_rounded (target : Target) (number : Nat) (below : number ≤ target.toNat)
    (multiple : 2 ^ droppedBits (byteSize target) ∣ number) : number ≤ (rounded target).toNat := by
  rw [rounded_value, ← Nat.div_mul_cancel multiple]
  exact Nat.mul_le_mul_right _ (Nat.div_le_div_right below)

theorem declared_le_rounded (bits : CompactBits) (value target : Target) (declared : bits.toTarget = .ok value)
    (below : value ≤ target) : value ≤ rounded target := by
  rcases declared_cases bits value declared with rfl | ⟨fits, rfl⟩
  · exact Nat.zero_le _
  · by_cases reaches : byteSize target ≤ bits.exponent
    · exact multiple_le_rounded target _ below (expand_multiple _ _ _ bits.mantissa_lt fits reaches)
    · by_cases long : 3 < byteSize target
      -- Bits with a smaller exponent stay below the leading bit, and rounding keeps that bit.
      · have small := expand_lt _ _ _ bits.mantissa_lt fits long (Nat.lt_of_not_le reaches)
        have leading := multiple_le_rounded target _ (leading_bit_le target long)
          (Nat.pow_dvd_pow 2 (Nat.le_add_right _ 15))
        exact Nat.le_trans (Nat.le_of_lt small) leading
      · apply multiple_le_rounded target _ below
        rw [dropped_bits_short _ (Nat.le_of_not_lt long), pow_zero]
        exact one_dvd _

theorem rounding_loss (target : Target) : 2 ^ 15 * (target.toNat - (rounded target).toNat) ≤ target.toNat := by
  have loss : target.toNat - (rounded target).toNat = target.toNat % 2 ^ droppedBits (byteSize target) := by
    have parts := Nat.div_add_mod' target.toNat (2 ^ droppedBits (byteSize target))
    rw [rounded_value]
    omega
  rw [loss]
  by_cases long : 3 < byteSize target
  · calc
      2 ^ 15 * (target.toNat % 2 ^ droppedBits (byteSize target))
        ≤ 2 ^ 15 * 2 ^ droppedBits (byteSize target) :=
          Nat.mul_le_mul_left _ (Nat.le_of_lt (Nat.mod_lt _ (Nat.two_pow_pos _)))
      _ = 2 ^ (droppedBits (byteSize target) + 15) := by rw [pow_add, Nat.mul_comm]
      _ ≤ target.toNat := leading_bit_le target long
  · rw [dropped_bits_short _ (Nat.le_of_not_lt long), pow_zero, Nat.mod_one]
    exact Nat.zero_le _

theorem rounded_declared (bits : CompactBits) (target : Target) (declared : bits.toTarget = .ok target) :
    rounded target = target := by
  apply Target.eq_of_to_nat_eq
  exact Nat.le_antisymm (rounded_le target) (declared_le_rounded bits target target declared (Nat.le_refl _))

theorem rounded_mono (small large : Target) (le : small ≤ large) : rounded small ≤ rounded large :=
  declared_le_rounded (ofTarget small) (rounded small) large (to_target_of_target small)
    (Nat.le_trans (rounded_le small) le)

theorem byte_size_mono (small large : Target) (le : small ≤ large) : byteSize small ≤ byteSize large := by
  have length : bitLength small.value ≤ bitLength large.value :=
    (bit_length_le small.value _).mpr (Nat.lt_of_le_of_lt le ((bit_length_le large.value _).mp (Nat.le_refl _)))
  exact Nat.succ_le_succ (Nat.div_le_div_right length)

theorem leading_bytes_mono (small large size : Nat) (le : small ≤ large) :
    leadingBytes small size ≤ leadingBytes large size := by
  unfold leadingBytes
  by_cases short : size ≤ 3
  · rw [if_pos short, if_pos short, Nat.shiftLeft_eq, Nat.shiftLeft_eq]
    exact Nat.mul_le_mul_right _ le
  · rw [if_neg short, if_neg short, Nat.shiftRight_eq_div_pow, Nat.shiftRight_eq_div_pow]
    exact Nat.div_le_div_right le

theorem of_target_value (target : Target) :
    (ofTarget target).value.toNat = significand target + 0x1000000 * byteSize target := by
  have size := byte_size_le target
  rw [of_target_eq]
  exact assemble_value (byteSize target) (significand target) (by omega) (significand_lt target)

theorem of_target_mono (small large : Target) (le : small ≤ large) :
    (ofTarget small).value ≤ (ofTarget large).value := by
  rw [UInt32.le_iff_toNat_le, of_target_value, of_target_value]
  have size := byte_size_mono small large le
  have bound := significand_lt small
  by_cases same : byteSize small = byteSize large
  · have leading : significand small ≤ significand large := by
      unfold significand
      rw [same]
      exact leading_bytes_mono _ _ _ le
    omega
  · omega

theorem of_target_greatest_below (target : Target) :
    ∃ nearest, (ofTarget target).toTarget = .ok nearest ∧ nearest ≤ target ∧
      (∀ (bits : CompactBits) (value : Target), bits.toTarget = .ok value → value ≤ target → value ≤ nearest) ∧
      (∀ bits : CompactBits, bits.toTarget = .ok target → (ofTarget target).toTarget = .ok target) ∧
      ofTarget nearest = ofTarget target ∧
      2 ^ 15 * (target.toNat - nearest.toNat) ≤ target.toNat := by
  have decoded := to_target_of_target target
  refine ⟨rounded target, decoded, rounded_le target, ?_, ?_, of_target_rounded target, rounding_loss target⟩
  · intro bits value declared below
    exact declared_le_rounded bits value target declared below
  · intro bits declared
    rw [decoded, rounded_declared bits target declared]

-- The top bit of the value would be read as the sign, so it is moved down by a byte.
example : ofTarget ⟨0x80000001⟩ = ⟨0x05008000⟩ := by decide +kernel

end ChainRules.CompactBits
