import ChainRules.Parameters.Presets
import ChainRules.Proofs.Difficulty.NextTarget
import Mathlib

set_option autoImplicit false

namespace ChainRules.ChainParameters

structure Untimed (params : ChainParameters) : Prop where
  rule : params.retargetRule = .everyBlockRawTimespan
  nonempty : 1 ≤ params.averagingWindow.toNat
  positive : 0 < (params.averagingWindow.toNat : Int) * params.targetSpacing.toInt
  minNominal : params.minActualTimespan.toInt = params.averagingWindow.toNat * params.targetSpacing.toInt
  maxNominal : params.maxActualTimespan.toInt = params.averagingWindow.toNat * params.targetSpacing.toInt

structure Neutral (params : ChainParameters) : Prop where
  nonempty : 1 ≤ params.averagingWindow.toNat
  positive : 0 < (params.averagingWindow.toNat : Int) * params.targetSpacing.toInt
  minNominal : params.minActualTimespan.toInt = params.averagingWindow.toNat * params.targetSpacing.toInt
  maxNominal : params.maxActualTimespan.toInt = params.averagingWindow.toNat * params.targetSpacing.toInt

theorem regtest_neutral : regtest.Neutral := by
  constructor <;> decide

theorem Untimed.neutral {params : ChainParameters} (untimed : params.Untimed) : params.Neutral :=
  ⟨untimed.nonempty, untimed.positive, untimed.minNominal, untimed.maxNominal⟩

def nominalSeconds (params : ChainParameters) : Nat := params.averagingWindowTimespan.toUInt64.toNat

def untimedTarget (params : ChainParameters) (sum : Nat) : Target :=
  ⟨BitVec.ofNat 256 (min (sum / params.averagingWindow.toNat / params.nominalSeconds * params.nominalSeconds)
    params.powLimit.toNat)⟩

variable {params : ChainParameters}

theorem Neutral.nominal (neutral : params.Neutral) :
    params.averagingWindowTimespan.toInt = params.averagingWindow.toNat * params.targetSpacing.toInt := by
  have value := neutral.minNominal
  have low := params.minActualTimespan.le_toInt
  have high := params.minActualTimespan.toInt_lt
  exact params.nominal_value (value ▸ low) (value ▸ high)

theorem Neutral.nominal_seconds (neutral : params.Neutral) :
    (params.nominalSeconds : Int) = params.averagingWindow.toNat * params.targetSpacing.toInt := by
  have positive := neutral.positive
  rw [← neutral.nominal] at positive ⊢
  exact unsigned_value _ (Int.le_of_lt positive)

theorem Untimed.nominal_seconds (untimed : params.Untimed) :
    (params.nominalSeconds : Int) = params.averagingWindow.toNat * params.targetSpacing.toInt :=
  untimed.neutral.nominal_seconds

theorem Neutral.nominal_ne_zero (neutral : params.Neutral) : params.averagingWindowTimespan ≠ 0 := by
  intro zero
  have positive := neutral.positive
  rw [← neutral.nominal, zero] at positive
  exact absurd positive (by decide)

theorem untimed_target_value (params : ChainParameters) (sum : Nat) :
    (params.untimedTarget sum).toNat =
      min (sum / params.averagingWindow.toNat / params.nominalSeconds * params.nominalSeconds)
        params.powLimit.toNat :=
  of_nat_value (Nat.lt_of_le_of_lt (Nat.min_le_right _ _) params.powLimit.to_nat_lt) (Nat.le_refl _)

theorem Neutral.next_target (neutral : params.Neutral) (total : Wide) (actual : Int64)
    (bounded : total.toNat < params.averagingWindow.toNat * 2 ^ 256) :
    params.nextTarget total actual = .ok (params.untimedTarget total.toNat) := by
  obtain ⟨counted, answer, value⟩ := params.counted_timespan_value actual
  have clamped : counted = params.averagingWindowTimespan := by
    apply Int64.toInt_inj.mp
    rw [value, neutral.minNominal, neutral.maxNominal, neutral.nominal, min_eq_right (le_max_right _ _)]
  obtain ⟨target, next, targetValue⟩ := params.next_target_value total actual counted neutral.nonempty
    neutral.nominal_ne_zero bounded answer
  rw [next, Target.eq_of_to_nat_eq target (params.untimedTarget total.toNat)]
  rw [targetValue, untimed_target_value, clamped]
  rfl

theorem untimed_target_mono (params : ChainParameters) (small large : Nat) (le : small ≤ large) :
    params.untimedTarget small ≤ params.untimedTarget large := by
  show (params.untimedTarget small).toNat ≤ (params.untimedTarget large).toNat
  rw [untimed_target_value, untimed_target_value]
  gcongr

theorem untimed_target_le (params : ChainParameters) (sum : Nat) (bound : Target)
    (average : sum ≤ params.averagingWindow.toNat * bound.toNat) :
    params.untimedTarget sum ≤ bound := by
  show (params.untimedTarget sum).toNat ≤ bound.toNat
  rw [untimed_target_value]
  calc
    _ ≤ sum / params.averagingWindow.toNat / params.nominalSeconds * params.nominalSeconds := Nat.min_le_left _ _
    _ ≤ sum / params.averagingWindow.toNat := Nat.div_mul_le_self _ _
    _ ≤ bound.toNat := Nat.div_le_of_le_mul average

theorem le_untimed_target (params : ChainParameters) (sum : Nat) (floor : Target)
    (nonempty : 1 ≤ params.averagingWindow.toNat) (multiple : params.nominalSeconds ∣ floor.toNat)
    (within : floor ≤ params.powLimit) (average : params.averagingWindow.toNat * floor.toNat ≤ sum) :
    floor ≤ params.untimedTarget sum := by
  show floor.toNat ≤ (params.untimedTarget sum).toNat
  rw [untimed_target_value]
  apply Nat.le_min_of_le_of_le _ within
  rw [← Nat.div_mul_cancel multiple]
  apply Nat.mul_le_mul_right
  apply Nat.div_le_div_right
  exact (Nat.le_div_iff_mul_le nonempty).mpr (Nat.mul_comm .. ▸ average)

end ChainRules.ChainParameters
