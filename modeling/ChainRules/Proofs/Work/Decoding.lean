import ChainRules.Proofs.Work.Rounding
import Mathlib

set_option autoImplicit false

namespace ChainRules.CompactBits

theorem exponent_bits (bits : CompactBits) : (bits.value >>> 24).toNat = bits.exponent := by
  rw [UInt32.toNat_shiftRight, Nat.shiftRight_eq_div_pow]
  rfl

theorem mantissa_bits (bits : CompactBits) : (bits.value &&& 0x7fffff).toNat = bits.mantissa := by
  rw [UInt32.toNat_and]
  exact Nat.and_two_pow_sub_one_eq_mod bits.value.toNat 23

theorem sign_bit (bits : CompactBits) : bits.value &&& 0x00800000 = 0 ↔ bits.isNegative = false := by
  rw [← UInt32.toNat_inj, UInt32.toNat_and, isNegative]
  change bits.value.toNat &&& 2 ^ 23 = 0 ↔ _
  rw [Nat.and_two_pow, Nat.testBit_eq_decide_div_mod_eq]
  simp

def scaled (exponent mantissa : Nat) : ℚ := mantissa * 256 ^ ((exponent : ℤ) - 3)

theorem scaled_floor (exponent mantissa : Nat) :
    ⌊scaled exponent mantissa⌋₊ = mantissa * 2 ^ droppedBits exponent / 2 ^ (8 * (3 - exponent)) := by
  unfold scaled
  by_cases short : exponent ≤ 3
  · have power : ((exponent : ℤ) - 3) = -((3 - exponent : ℕ) : ℤ) := by omega
    have weight : ((2 ^ (8 * (3 - exponent)) : ℕ) : ℚ) = 256 ^ (3 - exponent) := by
      rw [pow_mul]
      norm_num
    rw [power, zpow_neg, zpow_natCast, ← div_eq_mul_inv, ← weight, Nat.floor_div_eq_div,
      dropped_bits_short exponent short, pow_zero, Nat.mul_one]
  · have power : ((exponent : ℤ) - 3) = ((exponent - 3 : ℕ) : ℤ) := by omega
    have weight : ((2 ^ droppedBits exponent : ℕ) : ℚ) = 256 ^ (exponent - 3) := by
      rw [droppedBits, pow_mul]
      norm_num
    rw [power, zpow_natCast, ← weight, ← Nat.cast_mul, Nat.floor_natCast,
      Nat.sub_eq_zero_of_le (Nat.le_of_not_le short), Nat.mul_zero, pow_zero, Nat.div_one]

theorem expand_floor (exponent mantissa : Nat) (small : mantissa < 2 ^ 23)
    (fits : overflows exponent mantissa = false) :
    (expand exponent mantissa).toNat = ⌊scaled exponent mantissa⌋₊ := by
  rw [expand_value exponent mantissa small fits, scaled_floor]

theorem le_shifted (number bits shift width : Nat) (long : 2 ^ bits ≤ number) (reaches : width ≤ bits + shift) :
    2 ^ width ≤ number * 2 ^ shift := by
  calc
    2 ^ width ≤ 2 ^ (bits + shift) := Nat.pow_le_pow_right (by decide) reaches
    _ = 2 ^ bits * 2 ^ shift := pow_add 2 bits shift
    _ ≤ number * 2 ^ shift := Nat.mul_le_mul_right _ long

theorem overflows_iff (exponent mantissa : Nat) (small : mantissa < 2 ^ 23) (nonzero : mantissa ≠ 0) :
    overflows exponent mantissa = true ↔ 2 ^ 256 ≤ ⌊scaled exponent mantissa⌋₊ := by
  constructor
  · intro overflow
    have large : 32 < exponent := by
      have guard := of_decide_eq_true overflow
      omega
    rw [scaled_floor, Nat.sub_eq_zero_of_le (by omega), Nat.mul_zero, pow_zero, Nat.div_one]
    unfold droppedBits
    rcases of_decide_eq_true overflow with top | ⟨byte, high⟩ | ⟨bytes, full⟩
    · exact le_shifted mantissa 0 _ 256 (Nat.pos_of_ne_zero nonzero) (by omega)
    · exact le_shifted mantissa 8 _ 256 byte (by omega)
    · exact le_shifted mantissa 16 _ 256 bytes (by omega)
  · intro large
    by_contra fits
    have value := expand_floor exponent mantissa small (Bool.eq_false_of_not_eq_true fits)
    have bound := (expand exponent mantissa).isLt
    omega

def Declarable (bits : CompactBits) : Prop :=
  bits.isNegative = false ∧ ⌊scaled bits.exponent bits.mantissa⌋₊ < 2 ^ 256

theorem fits_of_declarable (bits : CompactBits) (nonzero : bits.mantissa ≠ 0) (declarable : bits.Declarable) :
    overflows bits.exponent bits.mantissa = false := by
  apply Bool.eq_false_of_not_eq_true
  rw [overflows_iff _ _ bits.mantissa_lt nonzero]
  exact Nat.not_le.mpr declarable.2

theorem to_target_zero (bits : CompactBits) (zero : bits.mantissa = 0) : bits.toTarget = .ok .zero := if_pos zero

theorem to_target_declarable (bits : CompactBits) (nonzero : bits.mantissa ≠ 0) (declarable : bits.Declarable) :
    bits.toTarget = .ok ⟨expand bits.exponent bits.mantissa⟩ := by
  have positive : ¬ bits.isNegative = true := by simp [declarable.1]
  have fits : ¬ overflows bits.exponent bits.mantissa = true := by
    simp [bits.fits_of_declarable nonzero declarable]
  rw [toTarget, if_neg nonzero, if_neg positive, if_neg fits]

theorem to_target_undeclarable (bits : CompactBits) (nonzero : bits.mantissa ≠ 0)
    (undeclarable : ¬ bits.Declarable) : bits.toTarget = .error (.malformedCompactBits bits) := by
  rw [toTarget, if_neg nonzero]
  by_cases negative : bits.isNegative = true
  · rw [if_pos negative]
  · have overflow : overflows bits.exponent bits.mantissa = true := by
      rw [overflows_iff _ _ bits.mantissa_lt nonzero]
      by_contra fits
      exact undeclarable ⟨Bool.eq_false_of_not_eq_true negative, Nat.lt_of_not_le fits⟩
    rw [if_neg negative, if_pos overflow]

theorem to_target_ok_iff (bits : CompactBits) (target : Target) :
    bits.toTarget = .ok target ↔
      bits.mantissa = 0 ∧ target = .zero ∨
        bits.Declarable ∧ target.toNat = ⌊scaled bits.exponent bits.mantissa⌋₊ := by
  by_cases zero : bits.mantissa = 0
  · have floor : ⌊scaled bits.exponent bits.mantissa⌋₊ = Target.zero.toNat := by
      rw [zero, scaled_floor, Nat.zero_mul, Nat.zero_div]
      rfl
    have same : target.toNat = Target.zero.toNat → target = .zero := Target.eq_of_to_nat_eq _ _
    rw [bits.to_target_zero zero, floor, Except.ok.injEq, eq_comm]
    tauto
  · by_cases declarable : bits.Declarable
    · have value := expand_floor _ _ bits.mantissa_lt (bits.fits_of_declarable zero declarable)
      rw [bits.to_target_declarable zero declarable, Except.ok.injEq, ← value]
      constructor
      · rintro rfl
        exact .inr ⟨declarable, rfl⟩
      · rintro (⟨vanishes, _⟩ | ⟨_, same⟩)
        · exact absurd vanishes zero
        · exact (Target.eq_of_to_nat_eq target _ same).symm
    · rw [bits.to_target_undeclarable zero declarable]
      simp [zero, declarable]

theorem to_target_error_iff (bits : CompactBits) :
    bits.toTarget = .error (.malformedCompactBits bits) ↔ ¬ (bits.mantissa = 0 ∨ bits.Declarable) := by
  by_cases zero : bits.mantissa = 0
  · simp [bits.to_target_zero zero, zero]
  · by_cases declarable : bits.Declarable
    · simp [bits.to_target_declarable zero declarable, declarable]
    · simp [bits.to_target_undeclarable zero declarable, zero, declarable]

theorem to_target_shift (bits : CompactBits) (target : Target) (declared : bits.toTarget = .ok target)
    (nonzero : bits.mantissa ≠ 0) (long : 3 < bits.exponent) :
    target.value = BitVec.ofNat 256 bits.mantissa <<< (8 * (bits.exponent - 3)) ∧
      target.value >>> (8 * (bits.exponent - 3)) = BitVec.ofNat 256 bits.mantissa := by
  have narrow : (BitVec.ofNat 256 bits.mantissa).toNat = bits.mantissa := of_nat_value bits.mantissa_lt (by decide)
  have declarable : bits.Declarable := by
    rcases (bits.to_target_ok_iff target).mp declared with ⟨zero, _⟩ | ⟨declarable, _⟩
    · exact absurd zero nonzero
    · exact declarable
  have fits := bits.fits_of_declarable nonzero declarable
  have value := expand_value _ _ bits.mantissa_lt fits
  rw [Nat.sub_eq_zero_of_le (Nat.le_of_lt long), Nat.mul_zero, pow_zero, Nat.div_one] at value
  rw [bits.to_target_declarable nonzero declarable] at declared
  obtain rfl := Except.ok.inj declared
  constructor
  · apply BitVec.eq_of_toNat_eq
    rw [value, BitVec.toNat_shiftLeft, narrow, Nat.shiftLeft_eq]
    exact (Nat.mod_eq_of_lt (shifted_mantissa_lt _ _ bits.mantissa_lt fits)).symm
  · apply BitVec.eq_of_toNat_eq
    rw [BitVec.toNat_ushiftRight, value, narrow, Nat.shiftRight_eq_div_pow]
    exact Nat.mul_div_cancel _ (Nat.two_pow_pos _)

theorem declared_target_exact (bits : CompactBits) :
    ((bits.value >>> 24).toNat = bits.exponent ∧
      (bits.value &&& 0x7fffff).toNat = bits.mantissa ∧
      (bits.value &&& 0x00800000 = 0 ↔ bits.isNegative = false)) ∧
    (∀ target, bits.toTarget = .ok target ↔
      bits.mantissa = 0 ∧ target = .zero ∨
        bits.Declarable ∧ target.toNat = ⌊scaled bits.exponent bits.mantissa⌋₊) ∧
    (bits.toTarget = .error (.malformedCompactBits bits) ↔ ¬ (bits.mantissa = 0 ∨ bits.Declarable)) ∧
    (∀ target, bits.toTarget = .ok target → bits.mantissa ≠ 0 → 3 < bits.exponent →
      target.value = BitVec.ofNat 256 bits.mantissa <<< (8 * (bits.exponent - 3)) ∧
        target.value >>> (8 * (bits.exponent - 3)) = BitVec.ofNat 256 bits.mantissa) :=
  ⟨⟨bits.exponent_bits, bits.mantissa_bits, bits.sign_bit⟩, bits.to_target_ok_iff, bits.to_target_error_iff,
    bits.to_target_shift⟩

-- One byte of mantissa fits with exponent 34, and a second one does not.
example : (toTarget ⟨0x220000ff⟩).toOption.isSome ∧ (toTarget ⟨0x22000100⟩).toOption.isNone := by decide +kernel

end ChainRules.CompactBits
