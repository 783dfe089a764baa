import ChainRules.Proofs.Difficulty.FullWindow
import ChainRules.Proofs.Work.Rounding
import Mathlib

set_option autoImplicit false

namespace ChainRules.ChainParameters

variable (params : ChainParameters)

theorem retarget_bits_monotone (early late : LinearChain) (earlyStore lateStore : BlockStore)
    (earlyCandidate lateCandidate : BlockHeader) (earlyTargets lateTargets : Nat → Target)
    (defined : params.WindowDefined)
    (minNonneg : 0 ≤ params.minActualTimespan.toInt) (maxNonneg : 0 ≤ params.maxActualTimespan.toInt)
    (onEarly : params.Retargets early earlyStore earlyCandidate earlyTargets)
    (onLate : params.Retargets late lateStore lateCandidate lateTargets)
    (sameHeight : early.top = late.top)
    (same : ∀ i ≤ early.top - params.averagingWindow.toNat, early.time i = late.time i)
    (before : ∀ i, early.top - params.averagingWindow.toNat < i → i ≤ early.top → early.time i ≤ late.time i)
    (harder : ∀ i, early.InWindow params.averagingWindow.toNat i → earlyTargets i ≤ lateTargets i) :
    ∃ earlyBits lateBits low high,
      params.expectedNextBits earlyStore early.tip earlyCandidate = .ok (some earlyBits) ∧
      params.expectedNextBits lateStore late.tip lateCandidate = .ok (some lateBits) ∧
      earlyBits.toTarget = .ok low ∧ lateBits.toTarget = .ok high ∧
      low ≤ high ∧ earlyBits.value ≤ lateBits.value := by
  obtain ⟨smallTotal, short, low, smallValue, _, tookShort, lowAnswer, earlyBits⟩ :=
    onEarly.expected defined.nonempty defined.nominal_ne_zero
  obtain ⟨largeTotal, long, high, largeValue, bounded, tookLong, highAnswer, lateBits⟩ :=
    onLate.expected defined.nonempty defined.nominal_ne_zero
  have totals : smallTotal.toNat ≤ largeTotal.toNat := by
    rw [smallValue, largeValue, sameHeight]
    apply Finset.sum_le_sum
    intro i member
    obtain ⟨above, within⟩ := Finset.mem_Ioc.mp member
    apply harder i
    exact ⟨by omega, sameHeight ▸ within⟩
  have times : short ≤ long :=
    early.took_mono late _ _ short long sameHeight same before tookShort tookLong
  have ordered : low ≤ high := params.next_target_mono smallTotal largeTotal short long low high defined.nonempty
    defined.nominal_ne_zero minNonneg maxNonneg bounded totals times lowAnswer highAnswer
  exact ⟨_, _, _, _, earlyBits, lateBits, CompactBits.to_target_of_target low, CompactBits.to_target_of_target high,
    CompactBits.rounded_mono low high ordered, CompactBits.of_target_mono low high ordered⟩

def easierBlock (i : Nat) : StoredBlock :=
  if i ≤ 1 then LinearChain.steadyBlock i
  else ⟨{ (LinearChain.steadyBlock i).header with timestamp := Int64.ofNat (600 * i), bits := ⟨0x20101010⟩ },
    UInt32.ofNat i⟩

def easier : LinearChain where
  block := easierBlock
  top := 3
  heights := by decide
  linked := by decide +kernel
  distinct := by decide +kernel

def dampedRegtest : ChainParameters :=
  { pairwiseRegtest with minActualTimespan := 252, maxActualTimespan := 396 }

theorem damped_regtest_defined : dampedRegtest.WindowDefined := by
  constructor <;> decide

theorem damped_regtest_retargets (chain : LinearChain) (store : BlockStore) (candidate : BlockHeader)
    (targets : Nat → Target) (height : chain.top = 3) (complete : chain.Complete store)
    (declares : ∀ i, 2 ≤ i → i ≤ 3 → (chain.bits i).toTarget = .ok (targets i))
    (onTip : candidate.previous = chain.tip.hash) : dampedRegtest.Retargets chain store candidate targets where
  complete := complete
  full := by rw [height]; decide
  declares := by
    rintro i ⟨low, high⟩
    rw [height] at low high
    exact declares i low high
  atWindowEnd := fun _ => ⟨by rw [height]; decide, onTip⟩

theorem retarget_bits_monotone_easier :
    dampedRegtest.WindowDefined ∧ LinearChain.steady.Complete LinearChain.steadyStore ∧
      easier.Complete easier.recorded ∧
      ∃ steadyBits easierBits low high,
        dampedRegtest.expectedNextBits LinearChain.steadyStore LinearChain.steady.tip
          (LinearChain.steadyBlock 4).header = .ok (some steadyBits) ∧
        dampedRegtest.expectedNextBits easier.recorded easier.tip (LinearChain.steadyBlock 4).header =
          .ok (some easierBits) ∧
        steadyBits.toTarget = .ok low ∧ easierBits.toTarget = .ok high ∧
        low ≤ high ∧ steadyBits.value ≤ easierBits.value := by
  have steadyTarget : CompactBits.toTarget ⟨0x200f0f0f⟩ = .ok ⟨0x0f0f0f <<< 232⟩ := by decide +kernel
  have easierTarget : CompactBits.toTarget ⟨0x20101010⟩ = .ok ⟨0x101010 <<< 232⟩ := by decide +kernel
  have onSteady : dampedRegtest.Retargets .steady LinearChain.steadyStore (LinearChain.steadyBlock 4).header
      (fun _ => ⟨0x0f0f0f <<< 232⟩) :=
    damped_regtest_retargets _ _ _ _ rfl LinearChain.steady_complete (fun _ _ _ => steadyTarget) (by decide +kernel)
  have onEasier : dampedRegtest.Retargets easier easier.recorded (LinearChain.steadyBlock 4).header
      (fun _ => ⟨0x101010 <<< 232⟩) := by
    apply damped_regtest_retargets _ _ _ _ rfl easier.recorded_complete _ (by decide +kernel)
    intro i low high
    interval_cases i <;> exact easierTarget
  refine ⟨damped_regtest_defined, LinearChain.steady_complete, easier.recorded_complete, ?_⟩
  apply retarget_bits_monotone dampedRegtest .steady easier LinearChain.steadyStore easier.recorded
    (LinearChain.steadyBlock 4).header (LinearChain.steadyBlock 4).header _ _ damped_regtest_defined (by decide)
    (by decide) onSteady onEasier rfl (by decide)
  · intro i above within
    have low : 1 < i := above
    have high : i ≤ 3 := within
    interval_cases i <;> decide
  · intro i _
    decide +kernel

end ChainRules.ChainParameters
