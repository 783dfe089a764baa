import ChainRules.Proofs.Difficulty.Swing
import ChainRules.Proofs.Difficulty.Untimed
import ChainRules.Proofs.Work.Spacing
import Mathlib

set_option autoImplicit false

namespace ChainRules.ChainParameters

variable {params : ChainParameters}

theorem Neutral.expected (neutral : params.Neutral) (chain : LinearChain) (store : BlockStore)
    (candidate : BlockHeader) (targets : Nat → Target) (retargets : params.Retargets chain store candidate targets) :
    params.expectedNextBits store chain.tip candidate =
      .ok (some (.ofTarget (params.untimedTarget
        (∑ i ∈ Finset.Ioc (chain.top - params.averagingWindow.toNat) chain.top, (targets i).toNat)))) := by
  obtain ⟨total, actual, next, value, bounded, _, answer, expected⟩ :=
    retargets.expected neutral.nonempty neutral.nominal_ne_zero
  rw [neutral.next_target total actual bounded, value] at answer
  rw [expected, ← Except.ok.inj answer]

theorem untimed_target_of_multiple (sum : Nat) (average : Target)
    (value : average.toNat = sum / params.averagingWindow.toNat) (within : average ≤ params.powLimit)
    (multiple : params.nominalSeconds ∣ average.toNat) : params.untimedTarget sum = average := by
  apply Target.eq_of_to_nat_eq
  rw [untimed_target_value, ← value, Nat.div_mul_cancel multiple]
  exact Nat.min_eq_left within

theorem untimed_target_close (sum : Nat) (average : Target)
    (value : average.toNat = sum / params.averagingWindow.toNat) (within : average ≤ params.powLimit)
    (positive : 0 < params.nominalSeconds) (short : params.nominalSeconds ≤ 2 ^ 16) :
    params.untimedTarget sum ≤ average ∧ average.toNat < (params.untimedTarget sum).toNat + 2 ^ 16 := by
  have lost := Nat.mod_lt average.toNat positive
  have parts := Nat.div_add_mod' average.toNat params.nominalSeconds
  have limited : average.toNat ≤ params.powLimit.toNat := within
  have scaled : (params.untimedTarget sum).toNat = average.toNat / params.nominalSeconds * params.nominalSeconds := by
    rw [untimed_target_value, ← value]
    exact Nat.min_eq_left (Nat.le_trans (Nat.div_mul_le_self _ _) limited)
  refine ⟨?_, ?_⟩
  · show (params.untimedTarget sum).toNat ≤ average.toNat
    omega
  · omega

theorem neutral_bits_near_average (params : ChainParameters) (chain : LinearChain) (store : BlockStore)
    (candidate : BlockHeader) (targets : Nat → Target) (sum : Nat)
    (neutral : params.Neutral)
    (short : (params.averagingWindow.toNat : Int) * params.targetSpacing.toInt ≤ 65536)
    (retargets : params.Retargets chain store candidate targets)
    (summed : sum = ∑ i ∈ Finset.Ioc (chain.top - params.averagingWindow.toNat) chain.top, (targets i).toNat)
    (within : sum / params.averagingWindow.toNat ≤ params.powLimit.toNat) :
    ∃ (average : Target) (bits : CompactBits), average.toNat = sum / params.averagingWindow.toNat ∧
      params.expectedNextBits store chain.tip candidate = .ok (some bits) ∧
      (∀ (other : LinearChain) (otherStore : BlockStore) (otherCandidate : BlockHeader), other.top = chain.top →
        params.Retargets other otherStore otherCandidate targets →
        params.expectedNextBits otherStore other.tip otherCandidate = .ok (some bits)) ∧
      ((params.averagingWindow.toNat : Int) * params.targetSpacing.toInt ∣ average.toNat →
        bits = .ofTarget average) ∧
      (2 ^ 32 ≤ average.toNat →
        ∃ nearest target : Target, (CompactBits.ofTarget average).toTarget = .ok nearest ∧
          bits.toTarget = .ok target ∧ (target = nearest ∨ CompactBits.NextBelow nearest target)) := by
  have seconds := neutral.nominal_seconds
  have positive := neutral.positive
  have value : (⟨BitVec.ofNat 256 (sum / params.averagingWindow.toNat)⟩ : Target).toNat =
      sum / params.averagingWindow.toNat :=
    of_nat_value (Nat.lt_of_le_of_lt within params.powLimit.to_nat_lt) (Nat.le_refl _)
  have limited : (⟨BitVec.ofNat 256 (sum / params.averagingWindow.toNat)⟩ : Target) ≤ params.powLimit :=
    Nat.le_trans (Nat.le_of_eq value) within
  refine ⟨_, .ofTarget (params.untimedTarget sum), value, ?_, ?_, ?_, ?_⟩
  · rw [summed]
    exact neutral.expected chain store candidate targets retargets
  · intro other otherStore otherCandidate sameHeight otherRetargets
    rw [summed, ← sameHeight]
    exact neutral.expected other otherStore otherCandidate targets otherRetargets
  · intro multiple
    rw [← seconds, Int.natCast_dvd_natCast] at multiple
    rw [untimed_target_of_multiple sum _ value limited multiple]
  · intro large
    obtain ⟨le, close⟩ := untimed_target_close sum _ value limited (by omega) (by omega)
    exact ⟨_, _, CompactBits.to_target_of_target _, CompactBits.to_target_of_target _,
      CompactBits.rounded_same_or_next_below _ _ large le close⟩

def unclocked : LinearChain := swinging.retimed (fun _ => 0)

theorem neutral_bits_near_average_swinging :
    regtest.Neutral ∧
      regtest.Retargets swinging swinging.recorded (LinearChain.steadyBlock 34).header (fun _ => ⟨0x0fffff <<< 208⟩) ∧
      regtest.Retargets unclocked unclocked.recorded (LinearChain.steadyBlock 34).header
        (fun _ => ⟨0x0fffff <<< 208⟩) ∧
      ∃ (bits : CompactBits) (target : Target),
        regtest.expectedNextBits swinging.recorded swinging.tip (LinearChain.steadyBlock 34).header =
          .ok (some bits) ∧
        regtest.expectedNextBits unclocked.recorded unclocked.tip (LinearChain.steadyBlock 34).header =
          .ok (some bits) ∧
        bits.toTarget = .ok target ∧
        (target = ⟨0x0fffff <<< 208⟩ ∨ CompactBits.NextBelow ⟨0x0fffff <<< 208⟩ target) := by
  have declared : CompactBits.toTarget ⟨0x1d0fffff⟩ = .ok ⟨0x0fffff <<< 208⟩ := by decide +kernel
  have onSwinging : regtest.Retargets swinging swinging.recorded (LinearChain.steadyBlock 34).header
      (fun _ => ⟨0x0fffff <<< 208⟩) :=
    ⟨swinging.recorded_complete, by decide, fun _ _ => declared, fun _ => ⟨by decide, by decide +kernel⟩⟩
  have onUnclocked : regtest.Retargets unclocked unclocked.recorded (LinearChain.steadyBlock 34).header
      (fun _ => ⟨0x0fffff <<< 208⟩) :=
    ⟨unclocked.recorded_complete, by decide, fun _ _ => declared, fun _ => ⟨by decide, by decide +kernel⟩⟩
  obtain ⟨average, bits, value, expected, same, _, near⟩ := neutral_bits_near_average regtest swinging
    swinging.recorded (LinearChain.steadyBlock 34).header _ (17 * 0x0fffff <<< 208) regtest_neutral (by decide)
    onSwinging (by decide +kernel) (by decide +kernel)
  obtain rfl : average = ⟨0x0fffff <<< 208⟩ :=
    Target.eq_of_to_nat_eq _ _ (value.trans (by decide +kernel))
  obtain ⟨nearest, target, rounded, decoded, close⟩ := near (by decide +kernel)
  obtain rfl : nearest = ⟨0x0fffff <<< 208⟩ :=
    Except.ok.inj (rounded.symm.trans (by decide +kernel))
  exact ⟨regtest_neutral, onSwinging, onUnclocked, bits, target, expected,
    same unclocked unclocked.recorded _ rfl onUnclocked, decoded, close⟩

end ChainRules.ChainParameters
