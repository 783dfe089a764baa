import ChainRules.Proofs.Difficulty.Limit
import Mathlib

set_option autoImplicit false

namespace ChainRules

-- A walk that has not yet taken `2 ^ 256` blocks can add any target to its sum.
theorem partial_sum_adds (store : BlockStore) (taken : Nat) (start : StoredBlock) (part : WindowSum) (target : Target)
    (short : taken < 2 ^ 256) (walked : sumWindow store taken start 0 = .ok (some part)) :
    ∃ sum, Wide.add part.total target.widen = .ok sum ∧ sum.toNat = part.total.toNat + target.toNat := by
  have walk := sum_window_answers store taken start 0 (by
    rw [BitVec.ofNat_eq_ofNat, BitVec.toNat_zero]
    omega)
  have bound := (walk.of_ok walked).1 part rfl
  rw [BitVec.ofNat_eq_ofNat, BitVec.toNat_zero] at bound
  exact target.add_widened_value part.total (by omega)

theorem middle_in_range (store : BlockStore) (count : Nat) (block : StoredBlock) (times : List Int64)
    (found : recentTimestamps store count block = .ok times) : (times.length - 1) / 2 < (sortAscending times).length := by
  have positive := List.length_pos_iff.mpr ((recent_timestamps_answers store count block).of_ok found)
  rw [sort_ascending_length]
  omega

namespace ChainParameters

variable (params : ChainParameters) (store : BlockStore)

theorem window_scales (start : StoredBlock) (window : WindowSum) (actual : Int64) (defined : params.WindowDefined)
    (walked : sumWindow store params.averagingWindow.toNat start 0 = .ok (some window)) :
    ∃ average perSecond product damped, params.Scales window.total actual average perSecond product damped := by
  have bounded := ((params.window_answers store start defined.nonempty).of_ok walked).1 window rfl
  exact params.next_target_scales window.total actual defined.nonempty defined.nominal_ne_zero bounded

theorem retarget_never_faults (previous : StoredBlock) (candidate : BlockHeader) (defined : params.WindowDefined) :
    ((∃ required, params.expectedNextBits store previous candidate = .ok required) ∨
      (∃ failure, params.expectedNextBits store previous candidate = .error (.ancestorLookupFailed failure)) ∨
      ∃ bits, params.expectedNextBits store previous candidate = .error (.malformedCompactBits bits)) ∧
    (∀ (start : StoredBlock) (taken : Nat) (part : WindowSum) (target : Target),
      taken < params.averagingWindow.toNat → sumWindow store taken start 0 = .ok (some part) →
      ∃ sum, Wide.add part.total target.widen = .ok sum ∧ sum.toNat = part.total.toNat + target.toNat) ∧
    (∀ (block : StoredBlock) (times : List Int64),
      recentTimestamps store (Constants.medianTimeSpan - 1) block = .ok times →
      (times.length - 1) / 2 < (sortAscending times).length) ∧
    (∀ (start : StoredBlock) (window : WindowSum) (actual : Int64),
      sumWindow store params.averagingWindow.toNat start 0 = .ok (some window) →
      ∃ average perSecond product damped, params.Scales window.total actual average perSecond product damped) := by
  have small := params.averagingWindow.toNat_lt
  refine ⟨?_, ?_, ?_, ?_⟩
  · exact (params.expected_next_bits_answers store previous candidate defined.nonempty defined.nominal_ne_zero).outcome
  · intro start taken part target short walked
    exact partial_sum_adds store taken start part target (by omega) walked
  · intro block times found
    exact middle_in_range store _ block times found
  · intro start window actual walked
    exact params.window_scales store start window actual defined walked

-- A spacing so far below zero that the nominal timespan is the least 64-bit integer.
def backwardRegtest : ChainParameters := { invertedRegtest with targetSpacing := -0x4000000000000000 }

theorem retarget_never_faults_backward :
    backwardRegtest.WindowDefined ∧ backwardRegtest.averagingWindowTimespan = Int64.minValue ∧
      backwardRegtest.expectedNextBits loopStore loopBlock loopBlock.header = .ok (some ⟨0x200f0f0f⟩) ∧
      ∃ window average perSecond product damped,
        sumWindow loopStore 2 loopBlock 0 = .ok (some window) ∧
        backwardRegtest.Scales window.total 0 average perSecond product damped ∧
        damped.toInt = -0x6000000000000001 := by
  have defined : backwardRegtest.WindowDefined := by
    constructor <;> decide
  have walked : sumWindow loopStore 2 loopBlock 0 = .ok (some ⟨2 * (0x0f0f0f <<< 232), loopBlock⟩) := by
    decide +kernel
  obtain ⟨_, _, _, scaled⟩ := retarget_never_faults backwardRegtest loopStore loopBlock loopBlock.header defined
  obtain ⟨average, perSecond, product, damped, scales⟩ := scaled loopBlock _ 0 walked
  refine ⟨defined, by decide, by decide +kernel, _, average, perSecond, product, damped, walked, scales, ?_⟩
  rw [scales.dampedValue]
  decide +kernel

end ChainParameters

end ChainRules
