import ChainRules.Proofs.Chain.Walks
import ChainRules.Proofs.Chain.Window
import ChainRules.Proofs.Difficulty.NextTarget
import Mathlib

set_option autoImplicit false

namespace ChainRules.ChainParameters

theorem expected_off_window_end (params : ChainParameters) (store : BlockStore) (previous : StoredBlock)
    (candidate : BlockHeader) (rule : params.retargetRule = .averagingWindowMedianTime)
    (nonempty : 1 ≤ params.averagingWindow.toNat)
    (inside : ¬ params.averagingWindow.toNat ∣ previous.height.toNat + 1) :
    params.expectedNextBits store previous candidate = .ok none := by
  rw [params.expected_at_window_ends_steps store previous candidate rule nonempty, if_neg inside]

theorem expected_on_window_end (params : ChainParameters) (store : BlockStore) (previous : StoredBlock)
    (candidate : BlockHeader) (parent : StoredBlock) (rule : params.retargetRule = .averagingWindowMedianTime)
    (nonempty : 1 ≤ params.averagingWindow.toNat)
    (atEnd : params.averagingWindow.toNat ∣ previous.height.toNat + 1)
    (found : store.requireBlock candidate.previous = .ok parent) :
    params.expectedNextBits store previous candidate =
      (sumWindow store params.averagingWindow.toNat parent 0).bind (params.bitsAtWindowEnd store previous) := by
  rw [params.expected_at_window_ends_steps store previous candidate rule nonempty, if_pos atEnd, found]
  rfl

theorem bits_from_medians_at (params : ChainParameters) (chain : LinearChain) (store : BlockStore) (total : Wide)
    (nonempty : 1 ≤ params.averagingWindow.toNat) (nominal : params.averagingWindowTimespan ≠ 0)
    (complete : chain.Complete store) (bounded : total.toNat < params.averagingWindow.toNat * 2 ^ 256) :
    ∃ last first next, chain.IsMedianTime chain.top last ∧
      chain.IsMedianTime (chain.top - params.averagingWindow.toNat) first ∧
      params.nextTarget total (saturatingSub last first) = .ok next ∧
      params.bitsFromMedians store chain.tip ⟨total, chain.block (chain.top - params.averagingWindow.toNat)⟩ =
        .ok (.ofTarget next) := by
  obtain ⟨last, lastFound, lastMedian⟩ := chain.median_time_past_at store chain.top (Nat.le_refl _)
    (fun i _ below => complete i (Nat.le_of_lt below))
  obtain ⟨first, firstFound, firstMedian⟩ :=
    chain.median_time_past_at store (chain.top - params.averagingWindow.toNat) (Nat.sub_le _ _)
      (fun i _ below => complete i (by omega))
  obtain ⟨next, answer, _, bits⟩ :=
    params.next_target_answers total (saturatingSub last first) nonempty nominal bounded
  have lastAtTip : medianTimePast store chain.tip = .ok last := lastFound
  refine ⟨last, first, next, lastMedian, firstMedian, answer, ?_⟩
  rw [bits_from_medians_steps, lastAtTip]
  show (medianTimePast store (chain.block (chain.top - params.averagingWindow.toNat))).bind _ = _
  rw [firstFound]
  exact bits

theorem window_end_bits_exact (params : ChainParameters) (chain : LinearChain) (store : BlockStore)
    (candidate : BlockHeader) (rule : params.retargetRule = .averagingWindowMedianTime)
    (defined : params.WindowDefined) (complete : chain.Complete store)
    (onTip : candidate.previous = chain.tip.hash) :
    (¬ params.averagingWindow.toNat ∣ chain.top + 1 →
      params.expectedNextBits store chain.tip candidate = .ok none) ∧
    (params.averagingWindow.toNat ∣ chain.top + 1 →
      (∀ i, chain.InWindow params.averagingWindow.toNat i → chain.Undecodable i →
        (∀ j, i < j → j ≤ chain.top → ¬ chain.Undecodable j) →
        params.expectedNextBits store chain.tip candidate = .error (.malformedCompactBits (chain.bits i))) ∧
      (∀ targets, chain.DeclaresTargets params.averagingWindow.toNat targets →
        (chain.top < params.averagingWindow.toNat →
          params.expectedNextBits store chain.tip candidate = .ok none) ∧
        (params.averagingWindow.toNat ≤ chain.top →
          ∃ total last first next,
            total.toNat =
              ∑ i ∈ Finset.Ioc (chain.top - params.averagingWindow.toNat) chain.top, (targets i).toNat ∧
            chain.IsMedianTime chain.top last ∧
            chain.IsMedianTime (chain.top - params.averagingWindow.toNat) first ∧
            params.nextTarget total (saturatingSub last first) = .ok next ∧
            params.expectedNextBits store chain.tip candidate = .ok (some (.ofTarget next))))) := by
  have nonempty := defined.nonempty
  have small := params.averagingWindow.toNat_lt
  have height := chain.heights chain.top (Nat.le_refl _)
  refine ⟨fun inside => ?_, fun atEnd => ?_⟩
  · exact params.expected_off_window_end store chain.tip candidate rule nonempty (height.symm ▸ inside)
  have parent : store.requireBlock candidate.previous = .ok chain.tip :=
    onTip ▸ chain.require_at store chain.top (complete chain.top (Nat.le_refl _))
  rw [params.expected_on_window_end store chain.tip candidate chain.tip rule nonempty (height.symm ▸ atEnd) parent]
  refine ⟨?_, ?_⟩
  · intro i member undecodable decodes
    rw [chain.tip_window_undecodable store _ i small complete member undecodable decodes]
    rfl
  · intro targets declares
    refine ⟨fun short => ?_, fun full => ?_⟩
    · rw [chain.tip_window_short store _ targets small complete declares short]
      rfl
    · obtain ⟨total, window, value, bounded⟩ :=
        chain.tip_window_full store _ targets nonempty small complete declares full
      obtain ⟨last, first, next, lastMedian, firstMedian, answer, bits⟩ :=
        params.bits_from_medians_at chain store total nonempty defined.nominal_ne_zero complete bounded
      refine ⟨total, last, first, next, value, lastMedian, firstMedian, answer, ?_⟩
      rw [window]
      exact congrArg (Except.map some) bits

def pairwiseRegtest : ChainParameters := { regtest with averagingWindow := 2 }

theorem pairwise_regtest_defined : pairwiseRegtest.WindowDefined := by
  constructor <;> decide

theorem window_end_bits_exact_steady :
    pairwiseRegtest.WindowDefined ∧ LinearChain.steady.Complete LinearChain.steadyStore ∧
      ∃ total next, total.toNat = 2 * 0x0f0f0f <<< 232 ∧
        pairwiseRegtest.nextTarget total 150 = .ok next ∧
        pairwiseRegtest.expectedNextBits LinearChain.steadyStore LinearChain.steady.tip
          (LinearChain.steadyBlock 4).header = .ok (some (.ofTarget next)) := by
  obtain ⟨_, atEnd⟩ := window_end_bits_exact pairwiseRegtest .steady LinearChain.steadyStore
    (LinearChain.steadyBlock 4).header rfl pairwise_regtest_defined LinearChain.steady_complete (by decide)
  obtain ⟨_, decoded⟩ := atEnd (by decide)
  obtain ⟨_, full⟩ := decoded (fun _ => ⟨0x0f0f0f <<< 232⟩) (by
    intro i _
    exact (by decide +kernel : CompactBits.toTarget ⟨0x200f0f0f⟩ = .ok ⟨0x0f0f0f <<< 232⟩))
  obtain ⟨total, last, first, next, value, lastMedian, firstMedian, answer, expected⟩ := full (by decide)
  have lastValue : last = 150 :=
    lower_median_unique _ _ _ lastMedian ⟨[0, 150, 300, 450], by decide, by decide, rfl⟩
  have firstValue : first = 0 := lower_median_unique _ _ _ firstMedian ⟨[0, 150], by decide, by decide, rfl⟩
  rw [lastValue, firstValue] at answer
  exact ⟨pairwise_regtest_defined, LinearChain.steady_complete, total, next, value.trans (by decide +kernel), answer,
    expected⟩

end ChainRules.ChainParameters
