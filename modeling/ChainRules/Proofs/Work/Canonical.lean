import ChainRules.Work.Encoding
import ChainRules.Proofs.Work.Wide
import Mathlib

set_option autoImplicit false

namespace ChainRules.CompactBits

theorem to_target_cases (bits : CompactBits) :
    (∃ target, bits.toTarget = .ok target) ∨ bits.toTarget = .error (.malformedCompactBits bits) := by
  unfold toTarget
  by_cases zero : bits.mantissa = 0
  · exact .inl ⟨.zero, if_pos zero⟩
  · by_cases negative : bits.isNegative = true
    · exact .inr (by rw [if_neg zero, if_pos negative])
    · by_cases overflow : overflows bits.exponent bits.mantissa = true
      · exact .inr (by rw [if_neg zero, if_neg negative, if_pos overflow])
      · exact .inl ⟨⟨expand bits.exponent bits.mantissa⟩, by rw [if_neg zero, if_neg negative, if_neg overflow]⟩

-- Bytes of a target, with room for a clear top bit.
def byteSize (target : Target) : Nat := bitLength target.value / 8 + 1

def significand (target : Target) : Nat := leadingBytes target.toNat (byteSize target)

def droppedBits (size : Nat) : Nat := 8 * (size - 3)

theorem dropped_bits_short (size : Nat) (short : size ≤ 3) : droppedBits size = 0 := by
  rw [droppedBits, Nat.sub_eq_zero_of_le short, Nat.mul_zero]

theorem byte_size_le (target : Target) : byteSize target ≤ 33 := by
  have short := (bit_length_le target.value 256).mpr target.to_nat_lt
  unfold byteSize
  omega

theorem to_nat_lt_byte_size (target : Target) : target.toNat < 2 ^ (8 * byteSize target - 1) := by
  apply (bit_length_le target.value _).mp
  unfold byteSize
  omega

theorem le_to_nat_of_bound (target : Target) (bound : Nat) (large : bound < 8 * (byteSize target - 1)) :
    2 ^ bound ≤ target.toNat := by
  apply Nat.le_of_not_lt
  intro small
  have short := (bit_length_le target.value bound).mpr small
  unfold byteSize at large
  omega

theorem significand_lt (target : Target) : significand target < 2 ^ 23 := by
  have bound := to_nat_lt_byte_size target
  have positive : 1 ≤ byteSize target := Nat.succ_pos _
  unfold significand leadingBytes
  by_cases short : byteSize target ≤ 3
  · rw [if_pos short, Nat.shiftLeft_eq]
    have width : 2 ^ 23 = 2 ^ (8 * byteSize target - 1) * 2 ^ (8 * (3 - byteSize target)) := by
      rw [← pow_add]
      congr 1
      omega
    rw [width]
    exact Nat.mul_lt_mul_of_pos_right bound (Nat.two_pow_pos _)
  · rw [if_neg short, Nat.shiftRight_eq_div_pow]
    apply Nat.div_lt_of_lt_mul
    rw [← pow_add]
    have width : 8 * (byteSize target - 3) + 23 = 8 * byteSize target - 1 := by omega
    rwa [width]

theorem significand_eq_zero (target : Target) (zero : significand target = 0) : target.toNat = 0 := by
  unfold significand leadingBytes at zero
  by_cases short : byteSize target ≤ 3
  · rw [if_pos short, Nat.shiftLeft_eq] at zero
    exact (Nat.mul_eq_zero.mp zero).resolve_right (Nat.two_pow_pos _).ne'
  · rw [if_neg short, Nat.shiftRight_eq_div_pow] at zero
    have large := le_to_nat_of_bound target (8 * (byteSize target - 3)) (by omega)
    have small := (Nat.div_eq_zero_iff_lt (Nat.two_pow_pos _)).mp zero
    omega

theorem assemble_value (exponent significand : Nat) (narrow : exponent < 256) (small : significand < 2 ^ 23) :
    (assemble exponent significand).value.toNat = significand + 0x1000000 * exponent := by
  apply UInt32.toNat_ofNat_of_lt'
  show significand + 0x1000000 * exponent < 2 ^ 32
  omega

theorem assemble_fields (exponent significand : Nat) (narrow : exponent < 256) (small : significand < 2 ^ 23) :
    (assemble exponent significand).exponent = exponent ∧
      (assemble exponent significand).mantissa = significand ∧
      (assemble exponent significand).isNegative = false := by
  have value := assemble_value exponent significand narrow small
  refine ⟨?_, ?_, ?_⟩
  · rw [CompactBits.exponent, value]
    omega
  · rw [CompactBits.mantissa, value]
    omega
  · rw [CompactBits.isNegative, value]
    exact decide_eq_false (by omega)

theorem of_target_eq (target : Target) : ofTarget target = assemble (byteSize target) (significand target) := by
  have small := significand_lt target
  have clear : ¬ significand target / 0x800000 % 2 = 1 := by omega
  exact if_neg clear

theorem significand_fits (target : Target) : overflows (byteSize target) (significand target) = false := by
  have size := byte_size_le target
  have widest : byteSize target = 33 → significand target < 2 ^ 16 := by
    intro full
    have bound := target.to_nat_lt
    unfold significand leadingBytes
    rw [full, if_neg (by decide), Nat.shiftRight_eq_div_pow]
    apply Nat.div_lt_of_lt_mul
    rwa [← pow_add]
  unfold overflows
  apply decide_eq_false
  omega

theorem expand_leading_bytes (number size : Nat) (fits : number < 2 ^ 256) :
    (expand size (leadingBytes number size)).toNat = number / 2 ^ droppedBits size * 2 ^ droppedBits size := by
  unfold expand leadingBytes
  by_cases short : size ≤ 3
  · rw [if_pos short, if_pos short, Nat.shiftLeft_shiftRight, dropped_bits_short size short, pow_zero, Nat.div_one,
      Nat.mul_one]
    exact of_nat_value fits (Nat.le_refl _)
  · rw [if_neg short, if_neg short, Nat.shiftLeft_eq, Nat.shiftRight_eq_div_pow]
    exact of_nat_value (Nat.lt_of_le_of_lt (Nat.div_mul_le_self _ _) fits) (Nat.le_refl _)

theorem leading_bytes_rounded (number size : Nat) :
    leadingBytes (number / 2 ^ droppedBits size * 2 ^ droppedBits size) size = leadingBytes number size := by
  unfold leadingBytes
  by_cases short : size ≤ 3
  · rw [if_pos short, if_pos short, dropped_bits_short size short, pow_zero, Nat.div_one, Nat.mul_one]
  · rw [if_neg short, if_neg short, Nat.shiftRight_eq_div_pow, Nat.shiftRight_eq_div_pow]
    exact Nat.mul_div_cancel _ (Nat.two_pow_pos (droppedBits size))

def rounded (target : Target) : Target := ⟨expand (byteSize target) (significand target)⟩

theorem rounded_value (target : Target) :
    (rounded target).toNat =
      target.toNat / 2 ^ droppedBits (byteSize target) * 2 ^ droppedBits (byteSize target) :=
  expand_leading_bytes target.toNat (byteSize target) target.to_nat_lt

theorem to_target_of_target (target : Target) : (ofTarget target).toTarget = .ok (rounded target) := by
  have size := byte_size_le target
  obtain ⟨exponent, mantissa, positive⟩ :=
    assemble_fields (byteSize target) (significand target) (by omega) (significand_lt target)
  rw [of_target_eq, toTarget, exponent, mantissa, positive, significand_fits]
  by_cases zero : significand target = 0
  · have vanishes : (rounded target).toNat = Target.zero.toNat := by
      rw [rounded_value, significand_eq_zero target zero, Nat.zero_div, Nat.zero_mul]
      rfl
    rw [if_pos zero, Target.eq_of_to_nat_eq _ _ vanishes]
  · rw [if_neg zero]
    rfl

theorem rounded_le (target : Target) : rounded target ≤ target :=
  Nat.le_trans (Nat.le_of_eq (rounded_value target)) (Nat.div_mul_le_self _ _)

theorem rounded_bit_length (target : Target) : bitLength (rounded target).value = bitLength target.value := by
  have value := rounded_value target
  have same : ∀ bound, bitLength (rounded target).value ≤ bound ↔ bitLength target.value ≤ bound := by
    intro bound
    rw [bit_length_le, bit_length_le]
    show (rounded target).toNat < 2 ^ bound ↔ target.toNat < 2 ^ bound
    rw [value]
    by_cases kept : droppedBits (byteSize target) ≤ bound
    · rw [← Nat.sub_add_cancel kept, pow_add, Nat.mul_lt_mul_right (Nat.two_pow_pos _),
        Nat.div_lt_iff_lt_mul (Nat.two_pow_pos _)]
    · -- A dropped bit is below the leading one, so neither number is as small as that.
      have large := le_to_nat_of_bound target (droppedBits (byteSize target)) (by
        unfold droppedBits at kept ⊢
        omega)
      have weight : 2 ^ bound < 2 ^ droppedBits (byteSize target) :=
        Nat.pow_lt_pow_right (by decide) (Nat.lt_of_not_le kept)
      have leading := Nat.mul_le_mul_right (2 ^ droppedBits (byteSize target))
        (Nat.div_pos large (Nat.two_pow_pos _))
      omega
  exact Nat.le_antisymm ((same _).mpr (Nat.le_refl _)) ((same _).mp (Nat.le_refl _))

theorem rounded_byte_size (target : Target) : byteSize (rounded target) = byteSize target := by
  unfold byteSize
  rw [rounded_bit_length]

theorem of_target_rounded (target : Target) : ofTarget (rounded target) = ofTarget target := by
  have kept : significand (rounded target) = significand target := by
    unfold significand
    rw [rounded_byte_size, rounded_value, leading_bytes_rounded]
  rw [of_target_eq, of_target_eq, rounded_byte_size, kept]

def CanonicalWithin (limit : Target) (bits : CompactBits) : Prop :=
  ∃ target, bits.toTarget = .ok target ∧ ofTarget target = bits ∧ target ≤ limit

theorem canonical_of_target (limit target : Target) (within : target ≤ limit) :
    CanonicalWithin limit (ofTarget target) :=
  ⟨rounded target, to_target_of_target target, of_target_rounded target, Nat.le_trans (rounded_le target) within⟩

end ChainRules.CompactBits
