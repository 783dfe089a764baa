import ChainRules.Parameters.Presets
import ChainRules.Proofs.Difficulty.Timespan
import ChainRules.Proofs.Work.Wide
import Mathlib

set_option autoImplicit false

namespace ChainRules

theorem unsigned_wide_value (n : Int64) : (unsignedWide n).toNat = n.toUInt64.toNat :=
  of_nat_value n.toUInt64.toNat_lt (by decide)

theorem unsigned_eq_zero (n : Int64) (zero : n.toUInt64.toNat = 0) : n = 0 := by
  apply Int64.toBitVec_inj.mp
  apply BitVec.eq_of_toNat_eq
  exact n.toNat_toBitVec.trans zero

namespace ChainParameters

-- Neither is empty, and the duration is the product of the window and the spacing, not a wrapped one.
structure WindowDefined (params : ChainParameters) : Prop where
  nonempty : 1 ≤ params.averagingWindow.toNat
  nonzero : (params.averagingWindow.toNat : Int) * params.targetSpacing.toInt ≠ 0
  low : -2 ^ 63 ≤ (params.averagingWindow.toNat : Int) * params.targetSpacing.toInt
  high : (params.averagingWindow.toNat : Int) * params.targetSpacing.toInt < 2 ^ 63

structure ModerateTimespans (params : ChainParameters) : Prop where
  nonempty : 1 ≤ params.averagingWindow.toNat
  positive : 0 < (params.averagingWindow.toNat : Int) * params.targetSpacing.toInt
  small : (params.averagingWindow.toNat : Int) * params.targetSpacing.toInt ≤ 2 ^ 60
  minNonneg : 0 ≤ params.minActualTimespan.toInt
  ordered : params.minActualTimespan.toInt ≤ params.maxActualTimespan.toInt
  maxSmall : params.maxActualTimespan.toInt ≤ 2 ^ 60

theorem network_timespans_moderate (network : Network) : (ofNetwork network).ModerateTimespans := by
  cases network <;> constructor <;> decide

theorem nominal_value (params : ChainParameters)
    (low : -2 ^ 63 ≤ (params.averagingWindow.toNat : Int) * params.targetSpacing.toInt)
    (high : (params.averagingWindow.toNat : Int) * params.targetSpacing.toInt < 2 ^ 63) :
    params.averagingWindowTimespan.toInt = params.averagingWindow.toNat * params.targetSpacing.toInt :=
  Int64.toInt_ofInt_of_le low high

theorem WindowDefined.nominal_ne_zero {params : ChainParameters} (defined : params.WindowDefined) :
    params.averagingWindowTimespan ≠ 0 := by
  intro zero
  have value := params.nominal_value defined.low defined.high
  rw [zero] at value
  exact defined.nonzero value.symm

def clamped (params : ChainParameters) (damped : Int64) : Int64 :=
  min (max damped params.minActualTimespan) params.maxActualTimespan

-- What each operation answers on the way to the next target, and the integer that the answer stands for.
structure Scales (params : ChainParameters) (total : Wide) (actual : Int64) (average perSecond product : Wide)
    (damped : Int64) : Prop where
  averaged : Wide.div total (BitVec.ofNat 512 params.averagingWindow.toNat) = .ok average
  averageValue : average.toNat = total.toNat / params.averagingWindow.toNat
  added : checkedAdd params.averagingWindowTimespan (saturatingSub actual params.averagingWindowTimespan / 4) =
    .ok damped
  dampedValue : damped.toInt = params.averagingWindowTimespan.toInt +
    (saturatingSub actual params.averagingWindowTimespan).toInt.tdiv 4
  divided : Wide.div average (unsignedWide params.averagingWindowTimespan) = .ok perSecond
  perSecondValue : perSecond.toNat = average.toNat / params.averagingWindowTimespan.toUInt64.toNat
  multiplied : Wide.mul perSecond (unsignedWide (params.clamped damped)) = .ok product
  productValue : product.toNat = perSecond.toNat * (params.clamped damped).toUInt64.toNat

namespace Scales

variable {params : ChainParameters} {total average perSecond product : Wide} {actual damped : Int64}

theorem counted (scales : params.Scales total actual average perSecond product damped) :
    params.countedTimespan actual = .ok (params.clamped damped) := by
  simp only [countedTimespan, scales.added, Except.map, clamped]

theorem next_target (scales : params.Scales total actual average perSecond product damped) :
    params.nextTarget total actual = .ok (Target.cappedAt params.powLimit product) := by
  simp only [nextTarget, scales.averaged, scales.counted, scales.divided, scales.multiplied, bind, Except.bind, pure,
    Except.pure]

end Scales

theorem next_target_scales (params : ChainParameters) (total : Wide) (actual : Int64)
    (nonempty : 1 ≤ params.averagingWindow.toNat) (nominal : params.averagingWindowTimespan ≠ 0)
    (bounded : total.toNat < params.averagingWindow.toNat * 2 ^ 256) :
    ∃ average perSecond product damped, params.Scales total actual average perSecond product damped := by
  have window : (BitVec.ofNat 512 params.averagingWindow.toNat).toNat = params.averagingWindow.toNat :=
    of_nat_value params.averagingWindow.toNat_lt (by decide)
  obtain ⟨damped, added, dampedValue⟩ := damped_value params.averagingWindowTimespan actual
  obtain ⟨average, averaged, averageValue⟩ :=
    Wide.div_value total (BitVec.ofNat 512 params.averagingWindow.toNat) (by omega)
  obtain ⟨perSecond, divided, perSecondValue⟩ :=
    Wide.div_value average (unsignedWide params.averagingWindowTimespan) (by
      rw [unsigned_wide_value]
      exact fun zero => nominal (unsigned_eq_zero _ zero))
  rw [window] at averageValue
  rw [unsigned_wide_value] at perSecondValue
  have small : perSecond.toNat < 2 ^ 256 := by
    rw [perSecondValue, averageValue]
    exact Nat.lt_of_le_of_lt (Nat.div_le_self _ _) (Nat.div_lt_of_lt_mul bounded)
  have short : (unsignedWide (params.clamped damped)).toNat < 2 ^ 256 := by
    rw [unsigned_wide_value]
    exact Nat.lt_trans (params.clamped damped).toUInt64.toNat_lt (by decide)
  obtain ⟨product, multiplied, productValue⟩ :=
    Wide.mul_value perSecond (unsignedWide (params.clamped damped)) small short
  rw [unsigned_wide_value] at productValue
  exact ⟨average, perSecond, product, damped, averaged, averageValue, added, dampedValue, divided, perSecondValue,
    multiplied, productValue⟩

theorem next_target_value (params : ChainParameters) (total : Wide) (actual counted : Int64)
    (nonempty : 1 ≤ params.averagingWindow.toNat) (nominal : params.averagingWindowTimespan ≠ 0)
    (bounded : total.toNat < params.averagingWindow.toNat * 2 ^ 256)
    (answer : params.countedTimespan actual = .ok counted) :
    ∃ target, params.nextTarget total actual = .ok target ∧
      target.toNat =
        min (total.toNat / params.averagingWindow.toNat / params.averagingWindowTimespan.toUInt64.toNat
          * counted.toUInt64.toNat) params.powLimit.toNat := by
  obtain ⟨average, perSecond, product, damped, scales⟩ :=
    params.next_target_scales total actual nonempty nominal bounded
  obtain rfl := Except.ok.inj (answer.symm.trans scales.counted)
  refine ⟨Target.cappedAt params.powLimit product, scales.next_target, ?_⟩
  rw [Target.capped_at_value, scales.productValue, scales.perSecondValue, scales.averageValue]

theorem next_target_mono (params : ChainParameters) (smallTotal largeTotal : Wide) (short long : Int64) (low high : Target)
    (nonempty : 1 ≤ params.averagingWindow.toNat) (nominal : params.averagingWindowTimespan ≠ 0)
    (minNonneg : 0 ≤ params.minActualTimespan.toInt) (maxNonneg : 0 ≤ params.maxActualTimespan.toInt)
    (bounded : largeTotal.toNat < params.averagingWindow.toNat * 2 ^ 256)
    (totals : smallTotal.toNat ≤ largeTotal.toNat) (times : short ≤ long)
    (lowAnswer : params.nextTarget smallTotal short = .ok low)
    (highAnswer : params.nextTarget largeTotal long = .ok high) : low ≤ high := by
  obtain ⟨countedShort, shortAnswer, _⟩ := params.counted_timespan_value short
  obtain ⟨countedLong, longAnswer, _⟩ := params.counted_timespan_value long
  have counted := params.counted_timespan_mono short long countedShort countedLong times shortAnswer longAnswer
  have shortWord := unsigned_value countedShort
    (params.counted_timespan_nonneg short countedShort minNonneg maxNonneg shortAnswer)
  have longWord := unsigned_value countedLong
    (params.counted_timespan_nonneg long countedLong minNonneg maxNonneg longAnswer)
  have multipliers : countedShort.toUInt64.toNat ≤ countedLong.toUInt64.toNat := by omega
  obtain ⟨_, next, lowValue⟩ := params.next_target_value smallTotal short countedShort nonempty nominal
    (Nat.lt_of_le_of_lt totals bounded) shortAnswer
  obtain rfl := Except.ok.inj (lowAnswer.symm.trans next)
  obtain ⟨_, next, highValue⟩ :=
    params.next_target_value largeTotal long countedLong nonempty nominal bounded longAnswer
  obtain rfl := Except.ok.inj (highAnswer.symm.trans next)
  show low.toNat ≤ high.toNat
  rw [lowValue, highValue]
  gcongr

theorem next_target_answers (params : ChainParameters) (total : Wide) (actual : Int64)
    (nonempty : 1 ≤ params.averagingWindow.toNat) (nominal : params.averagingWindowTimespan ≠ 0)
    (bounded : total.toNat < params.averagingWindow.toNat * 2 ^ 256) :
    ∃ target, params.nextTarget total actual = .ok target ∧ target ≤ params.powLimit ∧
      params.nextBits total actual = .ok (.ofTarget target) := by
  obtain ⟨counted, answer, _⟩ := params.counted_timespan_value actual
  obtain ⟨target, next, value⟩ := params.next_target_value total actual counted nonempty nominal bounded answer
  refine ⟨target, next, ?_, ?_⟩
  · exact Nat.le_trans (Nat.le_of_eq value) (Nat.min_le_right _ _)
  · simp only [nextBits, next, Except.map, Except.mapError]

theorem next_target_exact (params : ChainParameters) (total : Wide) (last first : Int64)
    (moderate : params.ModerateTimespans)
    (bounded : total.toNat < params.averagingWindow.toNat * 2 ^ 256) :
    ∃ target, params.nextTarget total (saturatingSub last first) = .ok target ∧
      (target.toNat : Int) =
        min (params.powLimit.toNat : Int)
          ((total.toNat : Int) / (params.averagingWindow.toNat : Int)
            / ((params.averagingWindow.toNat : Int) * params.targetSpacing.toInt)
            * max params.minActualTimespan.toInt (min params.maxActualTimespan.toInt
              ((params.averagingWindow.toNat : Int) * params.targetSpacing.toInt +
                (last.toInt - first.toInt - (params.averagingWindow.toNat : Int) * params.targetSpacing.toInt).tdiv
                  4))) := by
  obtain ⟨nonempty, positive, small, minNonneg, ordered, maxSmall⟩ := moderate
  have nominal := params.nominal_value (by omega) (by omega)
  rw [← nominal] at positive small ⊢
  have nominalNonzero : params.averagingWindowTimespan ≠ 0 := by
    intro zero
    rw [zero] at positive
    exact absurd positive (by decide)
  obtain ⟨counted, answer, countedValue⟩ :=
    params.counted_timespan_exact last first positive small minNonneg ordered maxSmall
  obtain ⟨target, next, targetValue⟩ :=
    params.next_target_value total _ counted nonempty nominalNonzero bounded answer
  refine ⟨target, next, ?_⟩
  have countedWord := unsigned_value counted (by omega)
  have nominalWord := unsigned_value params.averagingWindowTimespan (by omega)
  rw [targetValue, ← countedValue, ← countedWord, ← nominalWord, min_comm]
  push_cast
  rfl

theorem next_target_exact_mainnet :
    mainnet.ModerateTimespans ∧ (17 * mainnet.powLimit.toNat / 2) < 17 * 2 ^ 256 ∧
      ∃ target, mainnet.nextTarget (BitVec.ofNat 512 (17 * mainnet.powLimit.toNat / 2))
          (saturatingSub Int64.maxValue Int64.minValue) = .ok target ∧
        target.toNat = mainnet.powLimit.toNat / 2 / 2550 * 3366 := by
  obtain ⟨target, next, value⟩ := next_target_exact mainnet (BitVec.ofNat 512 (17 * mainnet.powLimit.toNat / 2))
    Int64.maxValue Int64.minValue (network_timespans_moderate .main) (by decide +kernel)
  refine ⟨network_timespans_moderate .main, by decide +kernel, target, next, ?_⟩
  exact Int.ofNat.inj (value.trans (by decide +kernel))

end ChainParameters

end ChainRules
