import ChainRules.Work.Target
import Mathlib

set_option autoImplicit false

namespace ChainRules

theorem bit_length_le {width : Nat} (word : BitVec width) (bound : Nat) :
    bitLength word ≤ bound ↔ word.toNat < 2 ^ bound := by
  unfold bitLength
  split
  · rename_i zero
    simp [zero]
  · rename_i nonzero
    rw [← Nat.log2_lt nonzero]
    exact Nat.succ_le_iff

theorem of_nat_value {width bits number : Nat} (small : number < 2 ^ bits) (within : bits ≤ width) :
    (BitVec.ofNat width number).toNat = number := by
  rw [BitVec.toNat_ofNat]
  exact Nat.mod_eq_of_lt (Nat.lt_of_lt_of_le small (Nat.pow_le_pow_right (by decide) within))

theorem exact_sum {width : Nat} (a b : BitVec width) (fits : a.toNat + b.toNat < 2 ^ width) :
    ¬ BitVec.uaddOverflow a b = true ∧ (a + b).toNat = a.toNat + b.toNat :=
  ⟨fun carry => absurd (of_decide_eq_true carry) (Nat.not_le.mpr fits), BitVec.toNat_add_of_lt fits⟩

theorem exact_product {width : Nat} (a b : BitVec width) (fits : a.toNat * b.toNat < 2 ^ width) :
    ¬ BitVec.umulOverflow a b = true ∧ (a * b).toNat = a.toNat * b.toNat :=
  ⟨fun carry => absurd (of_decide_eq_true carry) (Nat.not_le.mpr fits), BitVec.toNat_mul_of_lt fits⟩

theorem wide_capacity : 2 ^ 256 * 2 ^ 256 = 2 ^ 512 := by
  rw [show (512 : Nat) = 256 + 256 from rfl, pow_add]

namespace Wide

theorem widen_value (word : BitVec 256) : (widen word).toNat = word.toNat := by
  exact BitVec.toNat_setWidth_of_le (by decide)

theorem add_value (a b : Wide) (fits : a.toNat + b.toNat < 2 ^ 256 * 2 ^ 256) :
    ∃ sum, add a b = .ok sum ∧ sum.toNat = a.toNat + b.toNat := by
  obtain ⟨noCarry, value⟩ := exact_sum a b (wide_capacity ▸ fits)
  refine ⟨a + b, ?_, value⟩
  delta add
  exact if_neg noCarry

theorem mul_value (a b : Wide) (left : a.toNat < 2 ^ 256) (right : b.toNat < 2 ^ 256) :
    ∃ product, mul a b = .ok product ∧ product.toNat = a.toNat * b.toNat := by
  obtain ⟨noCarry, value⟩ := exact_product a b (wide_capacity ▸ Nat.mul_lt_mul'' left right)
  exact ⟨a * b, if_neg noCarry, value⟩

theorem div_value (a b : Wide) (nonzero : b.toNat ≠ 0) :
    ∃ quotient, div a b = .ok quotient ∧ quotient.toNat = a.toNat / b.toNat :=
  ⟨a / b, if_neg nonzero, BitVec.toNat_udiv⟩

theorem narrow_value (wide : Wide) (small : wide.toNat < 2 ^ 256) :
    ∃ word, narrow? wide = some word ∧ word.toNat = wide.toNat := by
  refine ⟨wide.setWidth 256, if_pos ((bit_length_le wide 256).mpr small), ?_⟩
  rw [BitVec.toNat_setWidth]
  exact Nat.mod_eq_of_lt small

theorem narrow_none (wide : Wide) (large : 2 ^ 256 ≤ wide.toNat) : narrow? wide = none := by
  apply if_neg
  rw [bit_length_le]
  exact Nat.not_lt.mpr large

end Wide

namespace Target

theorem to_nat_lt (target : Target) : target.toNat < 2 ^ 256 := target.value.isLt

theorem eq_of_to_nat_eq (a b : Target) (same : a.toNat = b.toNat) : a = b := by
  cases a
  cases b
  congr 1
  exact BitVec.eq_of_toNat_eq same

theorem widen_value (target : Target) : target.widen.toNat = target.toNat :=
  Wide.widen_value target.value

theorem add_widened_value (total : Wide) (target : Target) (fits : total.toNat + 2 ^ 256 ≤ 2 ^ 256 * 2 ^ 256) :
    ∃ sum, Wide.add total target.widen = .ok sum ∧ sum.toNat = total.toNat + target.toNat := by
  have small := target.to_nat_lt
  rw [← target.widen_value] at small ⊢
  exact Wide.add_value total target.widen (by omega)

theorem capped_at_value (limit : Target) (wide : Wide) :
    (cappedAt limit wide).toNat = min wide.toNat limit.toNat := by
  unfold cappedAt
  by_cases small : wide.toNat < 2 ^ 256
  · obtain ⟨word, narrowed, value⟩ := Wide.narrow_value wide small
    have same : (⟨word⟩ : Target).toNat = wide.toNat := value
    rw [narrowed, ← same]
    by_cases within : (⟨word⟩ : Target) ≤ limit
    · simp only [if_pos within]
      exact (Nat.min_eq_left within).symm
    · simp only [if_neg within]
      exact (Nat.min_eq_right (Nat.le_of_not_le within)).symm
  · rw [Wide.narrow_none wide (Nat.le_of_not_lt small)]
    have bound := limit.to_nat_lt
    simp only
    omega

end Target

end ChainRules
