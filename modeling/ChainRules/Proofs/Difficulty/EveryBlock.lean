import ChainRules.Parameters.Presets
import ChainRules.Proofs.Chain.Walks
import ChainRules.Proofs.Chain.Window
import ChainRules.Proofs.Difficulty.NextTarget
import Mathlib

set_option autoImplicit false

namespace ChainRules.ChainParameters

variable (params : ChainParameters) (chain : LinearChain) (store : BlockStore) (candidate : BlockHeader)

theorem expected_at_tip (rule : params.retargetRule = .everyBlockRawTimespan) (complete : chain.Complete store) :
    params.expectedNextBits store chain.tip candidate =
      (sumWindow store params.averagingWindow.toNat chain.tip 0).bind (params.bitsAtEveryBlock chain.tip) := by
  have tip : store.requireBlock chain.tip.hash = .ok chain.tip :=
    chain.require_at store chain.top (complete chain.top (Nat.le_refl _))
  rw [params.expected_at_every_block_steps store chain.tip candidate rule, tip]
  rfl

theorem expected_undecodable (rule : params.retargetRule = .everyBlockRawTimespan) (complete : chain.Complete store)
    (i : Nat) (member : chain.InWindow params.averagingWindow.toNat i) (undecodable : chain.Undecodable i)
    (decodes : ∀ j, i < j → j ≤ chain.top → ¬ chain.Undecodable j) :
    params.expectedNextBits store chain.tip candidate = .error (.malformedCompactBits (chain.bits i)) := by
  rw [params.expected_at_tip chain store candidate rule complete,
    chain.tip_window_undecodable store _ i params.averagingWindow.toNat_lt complete member undecodable decodes]
  rfl

theorem expected_unchanged (rule : params.retargetRule = .everyBlockRawTimespan) (complete : chain.Complete store)
    (targets : Nat → Target) (declares : chain.DeclaresTargets params.averagingWindow.toNat targets)
    (short : chain.top < params.averagingWindow.toNat) :
    params.expectedNextBits store chain.tip candidate = .ok (some (chain.bits chain.top)) := by
  rw [params.expected_at_tip chain store candidate rule complete,
    chain.tip_window_short store _ targets params.averagingWindow.toNat_lt complete declares short]
  rfl

theorem expected_retargeted (rule : params.retargetRule = .everyBlockRawTimespan)
    (nonempty : 1 ≤ params.averagingWindow.toNat) (nominal : params.averagingWindowTimespan ≠ 0)
    (complete : chain.Complete store) (targets : Nat → Target)
    (declares : chain.DeclaresTargets params.averagingWindow.toNat targets)
    (full : params.averagingWindow.toNat ≤ chain.top) :
    ∃ total next,
      total.toNat = ∑ i ∈ Finset.Ioc (chain.top - params.averagingWindow.toNat) chain.top, (targets i).toNat ∧
      total.toNat < params.averagingWindow.toNat * 2 ^ 256 ∧
      params.nextTarget total
        (saturatingSub (chain.time chain.top) (chain.time (chain.top - params.averagingWindow.toNat))) = .ok next ∧
      params.expectedNextBits store chain.tip candidate = .ok (some (.ofTarget next)) := by
  obtain ⟨total, window, value, bounded⟩ :=
    chain.tip_window_full store _ targets nonempty params.averagingWindow.toNat_lt complete declares full
  obtain ⟨next, answer, _, bits⟩ := params.next_target_answers total
    (saturatingSub (chain.time chain.top) (chain.time (chain.top - params.averagingWindow.toNat))) nonempty nominal
    bounded
  refine ⟨total, next, value, bounded, answer, ?_⟩
  rw [params.expected_at_tip chain store candidate rule complete, window]
  exact congrArg (Except.map some) bits

theorem every_block_bits_exact (rule : params.retargetRule = .everyBlockRawTimespan)
    (defined : params.WindowDefined) (complete : chain.Complete store) :
    (∀ i, chain.InWindow params.averagingWindow.toNat i → chain.Undecodable i →
      (∀ j, i < j → j ≤ chain.top → ¬ chain.Undecodable j) →
      params.expectedNextBits store chain.tip candidate = .error (.malformedCompactBits (chain.bits i))) ∧
    (∀ targets, chain.DeclaresTargets params.averagingWindow.toNat targets →
      (chain.top < params.averagingWindow.toNat →
        params.expectedNextBits store chain.tip candidate = .ok (some (chain.bits chain.top))) ∧
      (params.averagingWindow.toNat ≤ chain.top →
        ∃ total next,
          total.toNat =
            ∑ i ∈ Finset.Ioc (chain.top - params.averagingWindow.toNat) chain.top, (targets i).toNat ∧
          params.nextTarget total
            (saturatingSub (chain.time chain.top) (chain.time (chain.top - params.averagingWindow.toNat))) =
              .ok next ∧
          params.expectedNextBits store chain.tip candidate = .ok (some (.ofTarget next)))) ∧
    params.expectedNextBits store chain.tip candidate ≠ .ok none := by
  have full := params.expected_retargeted chain store candidate rule defined.nonempty defined.nominal_ne_zero complete
  refine ⟨?_, ?_, ?_⟩
  · exact params.expected_undecodable chain store candidate rule complete
  · intro targets declares
    refine ⟨params.expected_unchanged chain store candidate rule complete targets declares, ?_⟩
    intro long
    obtain ⟨total, next, value, _, answer, bits⟩ := full targets declares long
    exact ⟨total, next, value, answer, bits⟩
  · rcases chain.window_decodes_or_not params.averagingWindow.toNat with
      ⟨i, member, undecodable, decodes⟩ | ⟨targets, declares⟩
    · rw [params.expected_undecodable chain store candidate rule complete i member undecodable decodes]
      simp
    · by_cases short : chain.top < params.averagingWindow.toNat
      · rw [params.expected_unchanged chain store candidate rule complete targets declares short]
        simp
      · obtain ⟨_, _, _, _, _, bits⟩ := full targets declares (Nat.le_of_not_lt short)
        rw [bits]
        simp

def pairwiseTestnet : ChainParameters := { testnet with averagingWindow := 2 }

theorem pairwise_testnet_defined : pairwiseTestnet.WindowDefined := by
  constructor <;> decide

theorem every_block_bits_exact_steady :
    pairwiseTestnet.retargetRule = .everyBlockRawTimespan ∧ pairwiseTestnet.WindowDefined ∧
      LinearChain.steady.Complete LinearChain.steadyStore ∧
      ∃ total next, total.toNat = 2 * 0x0f0f0f <<< 232 ∧
        pairwiseTestnet.nextTarget total 300 = .ok next ∧
        pairwiseTestnet.expectedNextBits LinearChain.steadyStore LinearChain.steady.tip
          (LinearChain.steadyBlock 4).header = .ok (some (.ofTarget next)) := by
  obtain ⟨_, decoded, _⟩ := every_block_bits_exact pairwiseTestnet .steady LinearChain.steadyStore
    (LinearChain.steadyBlock 4).header rfl pairwise_testnet_defined LinearChain.steady_complete
  obtain ⟨_, full⟩ := decoded (fun _ => ⟨0x0f0f0f <<< 232⟩) (by
    intro i _
    exact (by decide +kernel : CompactBits.toTarget ⟨0x200f0f0f⟩ = .ok ⟨0x0f0f0f <<< 232⟩))
  obtain ⟨total, next, value, answer, bits⟩ := full (by decide)
  exact ⟨rfl, pairwise_testnet_defined, LinearChain.steady_complete, total, next, value.trans (by decide +kernel),
    answer, bits⟩

end ChainRules.ChainParameters
