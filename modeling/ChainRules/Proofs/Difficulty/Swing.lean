import ChainRules.Proofs.Difficulty.FullWindow
import ChainRules.Proofs.Work.Rounding
import Mathlib

set_option autoImplicit false

namespace ChainRules.ChainParameters

variable (params : ChainParameters)

def averageTarget (sum : Nat) : Int := (sum : Int) / params.averagingWindow.toNat

def nominalTimespan : Int := params.averagingWindow.toNat * params.targetSpacing.toInt

def targetPerSecond (sum : Nat) : Int := params.averageTarget sum / params.nominalTimespan

theorem target_per_second_nonneg (sum : Nat) (positive : 0 < params.nominalTimespan) :
    0 ≤ params.targetPerSecond sum :=
  Int.ediv_nonneg (Int.ediv_nonneg (Int.natCast_nonneg _) (Int.natCast_nonneg _)) (Int.le_of_lt positive)

theorem next_target_scaled (total : Wide) (actual counted : Int64) (target : Target)
    (defined : params.WindowDefined) (positive : 0 < params.nominalTimespan) (nonneg : 0 ≤ counted.toInt)
    (bounded : total.toNat < params.averagingWindow.toNat * 2 ^ 256)
    (counts : params.countedTimespan actual = .ok counted) (answer : params.nextTarget total actual = .ok target) :
    (target.toNat : Int) = min (params.powLimit.toNat : Int) (params.targetPerSecond total.toNat * counted.toInt) := by
  have nominal := params.nominal_value defined.low defined.high
  obtain ⟨_, found, value⟩ := params.next_target_value total actual counted defined.nonempty defined.nominal_ne_zero
    bounded counts
  obtain rfl := Except.ok.inj (answer.symm.trans found)
  have nominalWord := unsigned_value params.averagingWindowTimespan (nominal ▸ Int.le_of_lt positive)
  rw [value, min_comm, targetPerSecond, averageTarget, nominalTimespan, ← nominal, ← nominalWord,
    ← unsigned_value counted nonneg]
  push_cast
  rfl

theorem next_target_within (total : Wide) (actual : Int64) (target : Target) (defined : params.WindowDefined)
    (positive : 0 < params.nominalTimespan) (minNonneg : 0 ≤ params.minActualTimespan.toInt)
    (ordered : params.minActualTimespan.toInt ≤ params.maxActualTimespan.toInt)
    (bounded : total.toNat < params.averagingWindow.toNat * 2 ^ 256)
    (answer : params.nextTarget total actual = .ok target) :
    min (params.powLimit.toNat : Int) (params.targetPerSecond total.toNat * params.minActualTimespan.toInt) ≤
        target.toNat ∧
      (target.toNat : Int) ≤
        min (params.powLimit.toNat : Int) (params.targetPerSecond total.toNat * params.maxActualTimespan.toInt) := by
  obtain ⟨counted, counts, _⟩ := params.counted_timespan_value actual
  obtain ⟨above, below⟩ := params.counted_timespan_within actual counted ordered counts
  have rate := params.target_per_second_nonneg total.toNat positive
  rw [params.next_target_scaled total actual counted target defined positive (Int.le_trans minNonneg above) bounded
    counts answer]
  exact ⟨min_le_min_left _ (Int.mul_le_mul_of_nonneg_left above rate),
    min_le_min_left _ (Int.mul_le_mul_of_nonneg_left below rate)⟩

theorem rounding_keeps (target : Target) (floor : Int) (above : floor ≤ target.toNat) :
    floor * (2 ^ 15 - 1) ≤ (CompactBits.rounded target).toNat * 2 ^ 15 := by
  have loss := CompactBits.rounding_loss target
  have kept : (CompactBits.rounded target).toNat ≤ target.toNat := CompactBits.rounded_le target
  omega

theorem percent_above (sum : Nat) (bound percent : Int) (positive : 0 < params.nominalTimespan) (nonneg : 0 ≤ percent)
    (share : 100 * bound ≤ percent * params.nominalTimespan) :
    100 * (params.targetPerSecond sum * bound) ≤ percent * params.averageTarget sum := by
  have rate := params.target_per_second_nonneg sum positive
  have divided : params.targetPerSecond sum * params.nominalTimespan ≤ params.averageTarget sum :=
    Int.ediv_mul_le _ (Int.ne_of_gt positive)
  calc
    100 * (params.targetPerSecond sum * bound) = params.targetPerSecond sum * (100 * bound) := by ring
    _ ≤ params.targetPerSecond sum * (percent * params.nominalTimespan) := Int.mul_le_mul_of_nonneg_left share rate
    _ = percent * (params.targetPerSecond sum * params.nominalTimespan) := by ring
    _ ≤ percent * params.averageTarget sum := Int.mul_le_mul_of_nonneg_left divided nonneg

theorem percent_below (sum : Nat) (bound percent : Int) (positive : 0 < params.nominalTimespan) (nonneg : 0 ≤ percent)
    (share : percent * params.nominalTimespan ≤ 100 * bound) :
    percent * (params.averageTarget sum - params.nominalTimespan) ≤ 100 * (params.targetPerSecond sum * bound) := by
  have rate := params.target_per_second_nonneg sum positive
  have divided : params.averageTarget sum - params.nominalTimespan ≤
      params.targetPerSecond sum * params.nominalTimespan := by
    have lost := Int.lt_ediv_add_one_mul_self (params.averageTarget sum) positive
    rw [Int.add_mul, Int.one_mul] at lost
    exact Int.le_of_lt (Int.sub_lt_iff.mpr lost)
  calc
    percent * (params.averageTarget sum - params.nominalTimespan)
      ≤ percent * (params.targetPerSecond sum * params.nominalTimespan) := Int.mul_le_mul_of_nonneg_left divided nonneg
    _ = params.targetPerSecond sum * (percent * params.nominalTimespan) := by ring
    _ ≤ params.targetPerSecond sum * (100 * bound) := Int.mul_le_mul_of_nonneg_left share rate
    _ = 100 * (params.targetPerSecond sum * bound) := by ring

theorem retarget_swing_bounded (chain : LinearChain) (store : BlockStore) (candidate : BlockHeader)
    (targets : Nat → Target) (defined : params.WindowDefined) (positive : 0 < params.nominalTimespan)
    (minNonneg : 0 ≤ params.minActualTimespan.toInt)
    (ordered : params.minActualTimespan.toInt ≤ params.maxActualTimespan.toInt)
    (retargets : params.Retargets chain store candidate targets) :
    ∃ sum bits target,
      sum = ∑ i ∈ Finset.Ioc (chain.top - params.averagingWindow.toNat) chain.top, (targets i).toNat ∧
      params.expectedNextBits store chain.tip candidate = .ok (some bits) ∧
      bits.toTarget = .ok target ∧
      (target.toNat : Int) ≤
        min (params.powLimit.toNat : Int) (params.targetPerSecond sum * params.maxActualTimespan.toInt) ∧
      min (params.powLimit.toNat : Int) (params.targetPerSecond sum * params.minActualTimespan.toInt) * (2 ^ 15 - 1) ≤
        target.toNat * 2 ^ 15 ∧
      (∀ percent : Int, 0 ≤ percent →
        100 * params.maxActualTimespan.toInt ≤ percent * params.nominalTimespan →
        100 * (target.toNat : Int) ≤ percent * params.averageTarget sum) ∧
      (∀ percent : Int, 0 ≤ percent →
        percent * params.nominalTimespan ≤ 100 * params.minActualTimespan.toInt →
        min (100 * (params.powLimit.toNat : Int))
            (percent * (params.averageTarget sum - params.nominalTimespan)) * (2 ^ 15 - 1) ≤
          100 * (target.toNat * 2 ^ 15)) := by
  obtain ⟨total, actual, next, value, bounded, _, answer, expected⟩ :=
    retargets.expected defined.nonempty defined.nominal_ne_zero
  obtain ⟨above, below⟩ :=
    params.next_target_within total actual next defined positive minNonneg ordered bounded answer
  have upper : ((CompactBits.rounded next).toNat : Int) ≤
      min (params.powLimit.toNat : Int) (params.targetPerSecond total.toNat * params.maxActualTimespan.toInt) :=
    Int.le_trans (Int.ofNat_le.mpr (CompactBits.rounded_le next)) below
  have lower := rounding_keeps next _ above
  refine ⟨total.toNat, _, CompactBits.rounded next, value, expected, CompactBits.to_target_of_target next, upper, lower,
    ?_, ?_⟩
  · intro percent nonneg share
    have scaled := Int.le_trans upper (min_le_right _ _)
    exact Int.le_trans (Int.mul_le_mul_of_nonneg_left scaled (by decide))
      (params.percent_above total.toNat _ percent positive nonneg share)
  · intro percent nonneg share
    have scaled := params.percent_below total.toNat _ percent positive nonneg share
    have floor := min_le_min_left (100 * (params.powLimit.toNat : Int)) scaled
    rw [← mul_min_of_nonneg _ _ (by decide : (0 : Int) ≤ 100)] at floor
    calc
      _ ≤ 100 * min (params.powLimit.toNat : Int)
          (params.targetPerSecond total.toNat * params.minActualTimespan.toInt) * (2 ^ 15 - 1) :=
        Int.mul_le_mul_of_nonneg_right floor (by decide)
      _ = 100 * (min (params.powLimit.toNat : Int)
          (params.targetPerSecond total.toNat * params.minActualTimespan.toInt) * (2 ^ 15 - 1)) :=
        Int.mul_assoc _ _ _
      _ ≤ 100 * ((CompactBits.rounded next).toNat * 2 ^ 15) := Int.mul_le_mul_of_nonneg_left lower (by decide)

-- Two windows of the main network, the times of which jump from one end of their range to the other.
def swingingBlock (i : Nat) : StoredBlock :=
  ⟨{ (LinearChain.steadyBlock i).header with
      timestamp := if i ≤ 16 then Int64.maxValue else Int64.minValue
      bits := ⟨0x1d0fffff⟩ }, UInt32.ofNat i⟩

def swinging : LinearChain where
  block := swingingBlock
  top := 33
  heights := by decide
  linked := by decide +kernel
  distinct := by decide +kernel

theorem retarget_swing_bounded_swinging :
    mainnet.WindowDefined ∧ 0 < mainnet.nominalTimespan ∧
      mainnet.Retargets swinging swinging.recorded (LinearChain.steadyBlock 34).header
        (fun _ => ⟨0x0fffff <<< 208⟩) ∧
      ∃ bits target,
        mainnet.expectedNextBits swinging.recorded swinging.tip (LinearChain.steadyBlock 34).header =
          .ok (some bits) ∧
        bits.toTarget = .ok target ∧
        100 * (target.toNat : Int) ≤ 132 * 0x0fffff <<< 208 ∧
        84 * (0x0fffff <<< 208 - 2550) * (2 ^ 15 - 1) ≤ 100 * ((target.toNat : Int) * 2 ^ 15) := by
  have defined : mainnet.WindowDefined := by
    constructor <;> decide
  have retargets : mainnet.Retargets swinging swinging.recorded (LinearChain.steadyBlock 34).header
      (fun _ => ⟨0x0fffff <<< 208⟩) := by
    refine ⟨swinging.recorded_complete, by decide, ?_, fun _ => ⟨by decide, by decide +kernel⟩⟩
    intro i _
    exact (by decide +kernel : CompactBits.toTarget ⟨0x1d0fffff⟩ = .ok ⟨0x0fffff <<< 208⟩)
  obtain ⟨sum, bits, target, value, expected, decoded, _, _, above, below⟩ := retarget_swing_bounded mainnet swinging
    swinging.recorded (LinearChain.steadyBlock 34).header _ defined (by decide) (by decide) (by decide) retargets
  have average : mainnet.averageTarget sum = 0x0fffff <<< 208 := by
    rw [value]
    decide +kernel
  have nominal : mainnet.nominalTimespan = 2550 := by decide
  have high := above 132 (by decide) (by decide)
  have low := below 84 (by decide) (by decide)
  rw [average] at high low
  rw [nominal, min_eq_right (by decide +kernel)] at low
  exact ⟨defined, by decide, retargets, bits, target, expected, decoded, high, low⟩

end ChainRules.ChainParameters
