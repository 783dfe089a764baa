import ChainRules.Proofs.Work.Rounding
import Mathlib

set_option autoImplicit false

namespace ChainRules.CompactBits

@[mk_iff]
structure Leading (bits : CompactBits) : Prop where
  positive : bits.isNegative = false
  nonempty : 1 ≤ bits.exponent
  narrow : bits.exponent ≤ 33
  significant : 0x8000 ≤ bits.mantissa
  widest : bits.exponent = 33 → bits.mantissa ≤ 0xffff
  whole : bits.exponent < 3 → 256 ^ (3 - bits.exponent) ∣ bits.mantissa

instance (bits : CompactBits) : Decidable bits.Leading := decidable_of_iff' _ (leading_iff bits)

def Normal (bits : CompactBits) : Prop := bits.value = 0x01000000 ∨ bits.Leading

instance (bits : CompactBits) : Decidable bits.Normal := inferInstanceAs (Decidable (_ ∨ _))

theorem leading_bit_doubled (target : Target) (nonzero : target.toNat ≠ 0) :
    2 ^ (8 * (byteSize target - 1)) ≤ 2 * target.toNat := by
  by_cases single : byteSize target = 1
  · rw [single]
    omega
  · have positive : 1 ≤ byteSize target := Nat.succ_pos _
    have bound := le_to_nat_of_bound target (8 * (byteSize target - 1) - 1) (by omega)
    rw [show 8 * (byteSize target - 1) = 8 * (byteSize target - 1) - 1 + 1 by omega, pow_succ]
    omega

theorem byte_size_eq (target : Target) (size : Nat) (positive : 1 ≤ size)
    (lower : 2 ^ (8 * (size - 1)) ≤ 2 * target.toNat) (upper : target.toNat < 2 ^ (8 * size - 1)) :
    byteSize target = size := by
  have short := (bit_length_le target.value (8 * size - 1)).mpr upper
  have long : 8 * (size - 1) ≤ bitLength target.value := by
    by_contra less
    have small := (bit_length_le target.value (8 * (size - 1) - 1)).mp (by omega)
    have halved : 2 ^ (8 * (size - 1)) = 2 * 2 ^ (8 * (size - 1) - 1) := by
      rw [← pow_succ']
      congr 1
      omega
    have bound : target.toNat < 2 ^ (8 * (size - 1) - 1) := small
    omega
  unfold byteSize
  omega

theorem le_significand (target : Target) (nonzero : target.toNat ≠ 0) : 0x8000 ≤ significand target := by
  have leading := leading_bit_doubled target nonzero
  have positive : 1 ≤ byteSize target := Nat.succ_pos _
  unfold significand leadingBytes
  by_cases short : byteSize target ≤ 3
  · rw [if_pos short, Nat.shiftLeft_eq]
    have scaled := Nat.mul_le_mul_right (2 ^ (8 * (3 - byteSize target))) leading
    rw [← pow_add, show 8 * (byteSize target - 1) + 8 * (3 - byteSize target) = 16 by omega, Nat.mul_assoc] at scaled
    omega
  · rw [if_neg short, Nat.shiftRight_eq_div_pow, Nat.le_div_iff_mul_le (Nat.two_pow_pos _)]
    rw [show 8 * (byteSize target - 1) = 16 + 8 * (byteSize target - 3) by omega, pow_add] at leading
    omega

theorem significand_whole (target : Target) (short : byteSize target < 3) :
    256 ^ (3 - byteSize target) ∣ significand target := by
  unfold significand leadingBytes
  rw [if_pos (Nat.le_of_lt short), Nat.shiftLeft_eq, pow_mul]
  exact dvd_mul_left _ _

theorem of_target_normal (target : Target) : (ofTarget target).Normal := by
  by_cases zero : target.toNat = 0
  · left
    obtain rfl := Target.eq_of_to_nat_eq target .zero zero
    decide
  · right
    have size := byte_size_le target
    obtain ⟨exponent, mantissa, positive⟩ :=
      assemble_fields (byteSize target) (significand target) (by omega) (significand_lt target)
    rw [← of_target_eq] at exponent mantissa positive
    refine ⟨positive, ?_, ?_, ?_, ?_, ?_⟩
    · rw [exponent]
      exact Nat.succ_pos _
    · rw [exponent]
      exact size
    · rw [mantissa]
      exact le_significand target zero
    · rw [exponent, mantissa]
      intro widest
      have fits := of_decide_eq_false (significand_fits target)
      omega
    · rw [exponent, mantissa]
      exact significand_whole target

namespace Leading

variable {bits : CompactBits}

theorem fits (leading : bits.Leading) : overflows bits.exponent bits.mantissa = false := by
  have narrow := leading.narrow
  have widest := leading.widest
  apply decide_eq_false
  omega

theorem nonzero (leading : bits.Leading) : bits.mantissa ≠ 0 := by
  have significant := leading.significant
  omega

theorem to_target (leading : bits.Leading) : bits.toTarget = .ok ⟨expand bits.exponent bits.mantissa⟩ := by
  rw [toTarget, if_neg leading.nonzero, leading.positive, leading.fits]
  rfl

theorem target_scaled (leading : bits.Leading) :
    (expand bits.exponent bits.mantissa).toNat * 2 ^ (8 * (3 - bits.exponent)) =
      bits.mantissa * 2 ^ droppedBits bits.exponent := by
  rw [expand_value _ _ bits.mantissa_lt leading.fits]
  apply Nat.div_mul_cancel
  by_cases short : bits.exponent < 3
  · rw [pow_mul]
    exact Nat.dvd_mul_right_of_dvd (leading.whole short) _
  · rw [Nat.sub_eq_zero_of_le (Nat.le_of_not_lt short)]
    exact one_dvd _

theorem byte_size (leading : bits.Leading) : byteSize ⟨expand bits.exponent bits.mantissa⟩ = bits.exponent := by
  have scaled := leading.target_scaled
  have small := bits.mantissa_lt
  have significant := leading.significant
  have nonempty := leading.nonempty
  have weight := Nat.two_pow_pos (8 * (3 - bits.exponent))
  apply byte_size_eq _ _ nonempty
  · change _ ≤ 2 * (expand bits.exponent bits.mantissa).toNat
    apply Nat.le_of_mul_le_mul_right _ weight
    rw [Nat.mul_assoc, scaled, ← pow_add,
      show 8 * (bits.exponent - 1) + 8 * (3 - bits.exponent) = 16 + droppedBits bits.exponent by
        unfold droppedBits
        omega, pow_add, ← Nat.mul_assoc]
    exact Nat.mul_le_mul_right _ (by omega)
  · change (expand bits.exponent bits.mantissa).toNat < _
    apply Nat.lt_of_mul_lt_mul_right (a := 2 ^ (8 * (3 - bits.exponent)))
    rw [scaled, ← pow_add,
      show 8 * bits.exponent - 1 + 8 * (3 - bits.exponent) = 23 + droppedBits bits.exponent by
        unfold droppedBits
        omega, pow_add]
    exact Nat.mul_lt_mul_of_pos_right small (Nat.two_pow_pos _)

theorem significand (leading : bits.Leading) :
    CompactBits.significand ⟨expand bits.exponent bits.mantissa⟩ = bits.mantissa := by
  have scaled := leading.target_scaled
  rw [CompactBits.significand, leading.byte_size]
  change leadingBytes (expand bits.exponent bits.mantissa).toNat bits.exponent = _
  unfold leadingBytes
  by_cases short : bits.exponent ≤ 3
  · rw [if_pos short, Nat.shiftLeft_eq, scaled, dropped_bits_short _ short, pow_zero, Nat.mul_one]
  · rw [Nat.sub_eq_zero_of_le (Nat.le_of_not_le short), Nat.mul_zero, pow_zero, Nat.mul_one] at scaled
    rw [if_neg short, Nat.shiftRight_eq_div_pow, scaled]
    exact Nat.mul_div_cancel _ (Nat.two_pow_pos _)

theorem of_target (leading : bits.Leading) : ofTarget ⟨expand bits.exponent bits.mantissa⟩ = bits := by
  have same : (ofTarget ⟨expand bits.exponent bits.mantissa⟩).value = bits.value := by
    apply UInt32.toNat_inj.mp
    rw [of_target_value, leading.byte_size, leading.significand]
    have positive := of_decide_eq_false leading.positive
    unfold mantissa exponent
    omega
  cases bits
  exact congrArg CompactBits.mk same

end Leading

theorem normal_iff_kept (bits : CompactBits) :
    bits.Normal ↔ ∃ target, bits.toTarget = .ok target ∧ ofTarget target = bits := by
  constructor
  · rintro (zero | leading)
    · obtain rfl : bits = ⟨0x01000000⟩ := by
        cases bits
        exact congrArg CompactBits.mk zero
      exact ⟨.zero, rfl, by decide⟩
    · exact ⟨_, leading.to_target, leading.of_target⟩
  · rintro ⟨target, _, rfl⟩
    exact of_target_normal target

theorem normal_iff_encoded (bits : CompactBits) : (∃ target, ofTarget target = bits) ↔ bits.Normal := by
  constructor
  · rintro ⟨target, rfl⟩
    exact of_target_normal target
  · intro normal
    obtain ⟨target, _, encoded⟩ := bits.normal_iff_kept.mp normal
    exact ⟨target, encoded⟩

theorem sign_never_taken (target : Target) : ¬ significand target / 0x800000 % 2 = 1 := by
  have small := significand_lt target
  omega

theorem normal_lt_iff (a b : CompactBits) (first second : Target) (normal : a.Normal) (other : b.Normal)
    (declared : a.toTarget = .ok first) (declares : b.toTarget = .ok second) :
    a.value < b.value ↔ first < second := by
  have encoded : ∀ (bits : CompactBits) (target : Target), bits.Normal → bits.toTarget = .ok target →
      ofTarget target = bits := by
    intro bits target normal declared
    obtain ⟨same, decoded, encoded⟩ := bits.normal_iff_kept.mp normal
    rw [declared] at decoded
    rw [Except.ok.inj decoded, encoded]
  obtain rfl := encoded a first normal declared
  obtain rfl := encoded b second other declares
  constructor
  · intro less
    by_contra reaches
    exact UInt32.not_lt.mpr (of_target_mono second first (Nat.le_of_not_lt reaches)) less
  · intro less
    apply UInt32.lt_of_le_of_ne (of_target_mono first second (Nat.le_of_lt less))
    intro same
    have merged : ofTarget first = ofTarget second := congrArg CompactBits.mk same
    rw [merged, declares] at declared
    exact Nat.lt_irrefl _ (Except.ok.inj declared ▸ less)

theorem canonical_bits_normal :
    (∀ bits : CompactBits, (∃ target, ofTarget target = bits) ↔ bits.Normal) ∧
    (∀ bits : CompactBits, bits.Normal ↔ ∃ target, bits.toTarget = .ok target ∧ ofTarget target = bits) ∧
    (∀ target : Target, ¬ leadingBytes target.toNat (bitLength target.value / 8 + 1) / 0x800000 % 2 = 1) ∧
    (∀ small large : Target, small ≤ large → (ofTarget small).value ≤ (ofTarget large).value) ∧
    (∀ (a b : CompactBits) (first second : Target), a.Normal → b.Normal →
      a.toTarget = .ok first → b.toTarget = .ok second → (a.value < b.value ↔ first < second)) :=
  ⟨normal_iff_encoded, normal_iff_kept, sign_never_taken, of_target_mono, normal_lt_iff⟩

-- Both declare 0x123400, the second with a mantissa that could be a byte longer.
example : Normal ⟨0x03123400⟩ ∧ ¬ Normal ⟨0x04001234⟩ := by decide +kernel

end ChainRules.CompactBits
