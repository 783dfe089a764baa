import ChainRules.Proofs.Chain.HonestMining
import ChainRules.Proofs.Difficulty.EveryBlock
import ChainRules.Proofs.Difficulty.Untimed
import ChainRules.Proofs.Work.Rounding
import Mathlib

set_option autoImplicit false

namespace ChainRules

section WindowTotal

def windowTotal (targets : Nat → Target) (count i : Nat) : Nat :=
  ∑ k ∈ Finset.Ioc (i - count) i, (targets k).toNat

variable (targets : Nat → Target) (count i : Nat)

theorem window_total_le (bound : Target) (full : count ≤ i)
    (below : ∀ k, i - count < k → k ≤ i → targets k ≤ bound) :
    windowTotal targets count i ≤ count * bound.toNat := by
  have total := Finset.sum_le_card_nsmul (Finset.Ioc (i - count) i) (fun k => (targets k).toNat) bound.toNat (by
    intro k member
    exact below k (Finset.mem_Ioc.mp member).1 (Finset.mem_Ioc.mp member).2)
  rwa [Nat.card_Ioc, Nat.sub_sub_self full, smul_eq_mul] at total

theorem le_window_total (floor : Target) (full : count ≤ i)
    (above : ∀ k, i - count < k → k ≤ i → floor ≤ targets k) :
    count * floor.toNat ≤ windowTotal targets count i := by
  have total := Finset.card_nsmul_le_sum (Finset.Ioc (i - count) i) (fun k => (targets k).toNat) floor.toNat (by
    intro k member
    exact above k (Finset.mem_Ioc.mp member).1 (Finset.mem_Ioc.mp member).2)
  rwa [Nat.card_Ioc, Nat.sub_sub_self full, smul_eq_mul] at total

theorem window_total_falls (full : count ≤ i) (falls : ∀ k ≤ i, targets (k + 1) ≤ targets k) :
    windowTotal targets count (i + 1) ≤ windowTotal targets count i := by
  unfold windowTotal
  rw [Nat.sub_add_comm full, ← Finset.map_add_right_Ioc (i - count) i 1, Finset.sum_map]
  apply Finset.sum_le_sum
  intro k member
  exact falls k (Finset.mem_Ioc.mp member).2

end WindowTotal

structure AcceptedChain (params : ChainParameters) (chain : LinearChain) (store : BlockStore) : Prop where
  genesis : chain.bits 0 = params.genesis.bits
  complete : chain.Complete store
  accepted : ∀ i < chain.top,
    params.checkDifficultyTransitions store (chain.block i) (chain.block (i + 1)).header = .ok ()

-- How the bits follow from one another: the parameters and the earlier targets determine them.
structure Ratchet (params : ChainParameters) (chain : LinearChain) (targets : Nat → Target) : Prop where
  genesis : chain.bits 0 = params.genesis.bits
  declares : ∀ i ≤ chain.top, (chain.bits i).toTarget = .ok (targets i)
  kept : ∀ i < chain.top, i < params.averagingWindow.toNat → chain.bits (i + 1) = chain.bits i
  scaled : ∀ i < chain.top, params.averagingWindow.toNat ≤ i →
    chain.bits (i + 1) = .ofTarget (params.untimedTarget (windowTotal targets params.averagingWindow.toNat i))

namespace AcceptedChain

variable {params : ChainParameters} {chain : LinearChain} {store : BlockStore}

theorem next_bits (accepted : AcceptedChain params chain store) (untimed : params.Untimed) (targets : Nat → Target)
    (i : Nat) (within : i < chain.top) (declares : ∀ j ≤ i, (chain.bits j).toTarget = .ok (targets j)) :
    (i < params.averagingWindow.toNat → chain.bits (i + 1) = chain.bits i) ∧
    (params.averagingWindow.toNat ≤ i → chain.bits (i + 1) =
      .ofTarget (params.untimedTarget (windowTotal targets params.averagingWindow.toNat i))) := by
  have complete := chain.up_to_complete store i (Nat.le_of_lt within) accepted.complete
  have declaresWindow : (chain.upTo i (Nat.le_of_lt within)).DeclaresTargets params.averagingWindow.toNat targets :=
    fun j member => declares j member.2
  have agrees : ∀ bits, params.expectedNextBits store (chain.block i) (chain.block (i + 1)).header =
      .ok (some bits) → chain.bits (i + 1) = bits := fun bits expected =>
    (params.check_required_iff store _ _ bits expected).mp (accepted.accepted i within)
  refine ⟨fun short => ?_, fun full => ?_⟩
  · exact agrees _ (params.expected_unchanged _ store _ untimed.rule complete targets declaresWindow short)
  · obtain ⟨total, next, value, bounded, answer, expected⟩ := params.expected_retargeted _ store
      (chain.block (i + 1)).header untimed.rule untimed.nonempty untimed.neutral.nominal_ne_zero complete targets
      declaresWindow full
    rw [untimed.neutral.next_target total _ bounded, value] at answer
    rw [agrees _ expected, ← Except.ok.inj answer]
    rfl

theorem decodable (accepted : AcceptedChain params chain store) (untimed : params.Untimed) (first : Target)
    (start : params.genesis.bits.toTarget = .ok first) (i : Nat) (within : i ≤ chain.top) :
    ∀ j ≤ i, ¬ chain.Undecodable j := by
  induction i with
  | zero =>
      intro j least undecodable
      obtain rfl := Nat.le_zero.mp least
      exact undecodable first (accepted.genesis ▸ start)
  | succ i ih =>
      have earlier := ih (Nat.le_of_succ_le within)
      obtain ⟨targets, declares⟩ := chain.targets_of_decodable (· ≤ i) earlier
      obtain ⟨kept, scaled⟩ := accepted.next_bits untimed targets i within declares
      intro j below undecodable
      rcases Nat.le_succ_iff.mp below with old | rfl
      · exact earlier j old undecodable
      · by_cases short : i < params.averagingWindow.toNat
        · exact undecodable (targets i) ((kept short).symm ▸ declares i (Nat.le_refl _))
        · exact undecodable _ ((scaled (Nat.le_of_not_lt short)).symm ▸ CompactBits.to_target_of_target _)

theorem ratchet (accepted : AcceptedChain params chain store) (untimed : params.Untimed) (first : Target)
    (start : params.genesis.bits.toTarget = .ok first) : ∃ targets, Ratchet params chain targets := by
  obtain ⟨targets, declares⟩ := chain.targets_of_decodable (· ≤ chain.top)
    (accepted.decodable untimed first start chain.top (Nat.le_refl _))
  have next : ∀ i < chain.top, _ := fun i within => accepted.next_bits untimed targets i within
    (fun j below => declares j (Nat.le_trans below (Nat.le_of_lt within)))
  exact ⟨targets, accepted.genesis, declares, fun i within => (next i within).1, fun i within => (next i within).2⟩

end AcceptedChain

namespace Ratchet

variable {params : ChainParameters} {chain other : LinearChain} {targets others : Nat → Target}

theorem kept_target (ratchet : Ratchet params chain targets) (i : Nat) (within : i < chain.top)
    (short : i < params.averagingWindow.toNat) : targets (i + 1) = targets i := by
  have next := ratchet.declares (i + 1) within
  rw [ratchet.kept i within short, ratchet.declares i (Nat.le_of_lt within)] at next
  exact (Except.ok.inj next).symm

theorem scaled_target (ratchet : Ratchet params chain targets) (i : Nat) (within : i < chain.top)
    (full : params.averagingWindow.toNat ≤ i) :
    targets (i + 1) =
      CompactBits.rounded (params.untimedTarget (windowTotal targets params.averagingWindow.toNat i)) := by
  have next := ratchet.declares (i + 1) within
  rw [ratchet.scaled i within full, CompactBits.to_target_of_target] at next
  exact (Except.ok.inj next).symm

theorem first_target (ratchet : Ratchet params chain targets) (first : Target)
    (start : params.genesis.bits.toTarget = .ok first) : targets 0 = first := by
  have genesis := ratchet.declares 0 (Nat.zero_le _)
  rw [ratchet.genesis, start] at genesis
  exact (Except.ok.inj genesis).symm

theorem first_window (ratchet : Ratchet params chain targets) (i : Nat) (within : i ≤ chain.top)
    (short : i ≤ params.averagingWindow.toNat) : targets i = targets 0 := by
  induction i with
  | zero => rfl
  | succ i ih =>
      rw [ratchet.kept_target i within short]
      exact ih (Nat.le_of_succ_le within) (Nat.le_of_succ_le short)

theorem never_rises (ratchet : Ratchet params chain targets) (i : Nat) (within : i < chain.top) :
    targets (i + 1) ≤ targets i := by
  induction i using Nat.strong_induction_on with
  | h i ih =>
      rcases Nat.lt_trichotomy i params.averagingWindow.toNat with short | exact | long
      · exact Nat.le_of_eq (congrArg Target.toNat (ratchet.kept_target i within short))
      -- The first full window holds nothing but copies of the genesis target.
      · rw [ratchet.scaled_target i within (Nat.le_of_eq exact.symm)]
        apply Nat.le_trans (CompactBits.rounded_le _)
        apply params.untimed_target_le
        apply window_total_le targets _ i (targets i) (Nat.le_of_eq exact.symm)
        intro k _ below
        have reached := Nat.le_of_lt within
        rw [ratchet.first_window k (Nat.le_trans below reached) (exact ▸ below),
          ratchet.first_window i reached (Nat.le_of_eq exact)]
        exact Nat.le_refl _
      -- Later windows have moved on by one block, to targets that are no greater.
      · obtain ⟨i, rfl⟩ := Nat.exists_eq_succ_of_ne_zero (Nat.ne_of_gt (Nat.zero_lt_of_lt long))
        have full := Nat.le_of_lt_succ long
        rw [ratchet.scaled_target (i + 1) within (Nat.le_of_lt long),
          ratchet.scaled_target i (Nat.lt_of_succ_lt within) full]
        apply CompactBits.rounded_mono
        apply params.untimed_target_mono
        apply window_total_falls targets _ i full
        intro k below
        exact ih k (Nat.lt_succ_of_le below) (by omega)

theorem stays_above (ratchet : Ratchet params chain targets) (bits : CompactBits) (floor : Target)
    (nonempty : 1 ≤ params.averagingWindow.toNat) (declared : bits.toTarget = .ok floor)
    (multiple : params.nominalSeconds ∣ floor.toNat) (within : floor ≤ params.powLimit) (start : floor ≤ targets 0)
    (i : Nat) (below : i ≤ chain.top) : floor ≤ targets i := by
  induction i using Nat.strong_induction_on with
  | h i ih =>
      cases i with
      | zero => exact start
      | succ i =>
          by_cases short : i < params.averagingWindow.toNat
          · rw [ratchet.kept_target i below short]
            exact ih i (Nat.lt_succ_self i) (Nat.le_of_succ_le below)
          · have full := Nat.le_of_not_lt short
            rw [ratchet.scaled_target i below full]
            apply CompactBits.declared_le_rounded bits floor _ declared
            apply params.le_untimed_target _ floor nonempty multiple within
            apply le_window_total targets _ i floor full
            intro k _ last
            exact ih k (Nat.lt_succ_of_le last) (by omega)

theorem same_bits (left : Ratchet params chain targets) (right : Ratchet params other others) (i : Nat)
    (leftWithin : i ≤ chain.top) (rightWithin : i ≤ other.top) : chain.bits i = other.bits i := by
  induction i using Nat.strong_induction_on with
  | h i ih =>
      cases i with
      | zero => rw [left.genesis, right.genesis]
      | succ i =>
          by_cases short : i < params.averagingWindow.toNat
          · rw [left.kept i leftWithin short, right.kept i rightWithin short]
            exact ih i (Nat.lt_succ_self i) (Nat.le_of_succ_le leftWithin) (Nat.le_of_succ_le rightWithin)
          · have full := Nat.le_of_not_lt short
            have totals : windowTotal targets params.averagingWindow.toNat i =
                windowTotal others params.averagingWindow.toNat i := by
              apply Finset.sum_congr rfl
              intro k member
              have last := (Finset.mem_Ioc.mp member).2
              have bits := ih k (Nat.lt_succ_of_le last) (by omega) (by omega)
              have declared := left.declares k (by omega)
              rw [bits, right.declares k (by omega)] at declared
              rw [Except.ok.inj declared]
            rw [left.scaled i leftWithin full, right.scaled i rightWithin full, totals]

end Ratchet

namespace ChainParameters

theorem untimed_targets_never_rise (params : ChainParameters) (first : Target) (chain : LinearChain)
    (store : BlockStore) (untimed : params.Untimed) (start : params.genesis.bits.toTarget = .ok first)
    (within : first ≤ params.powLimit) (accepted : AcceptedChain params chain store) :
    (∃ targets : Nat → Target, targets 0 = first ∧
      (∀ i ≤ chain.top, (chain.bits i).toTarget = .ok (targets i)) ∧
      (∀ i < chain.top, targets (i + 1) ≤ targets i) ∧
      (∀ (bits : CompactBits) (floor : Target), bits.toTarget = .ok floor →
        (params.averagingWindow.toNat : Int) * params.targetSpacing.toInt ∣ floor.toNat → floor ≤ first →
        ∀ i ≤ chain.top, floor ≤ targets i)) ∧
    (∀ (other : LinearChain) (otherStore : BlockStore), AcceptedChain params other otherStore →
      ∀ i ≤ chain.top, i ≤ other.top → chain.bits i = other.bits i) := by
  obtain ⟨targets, ratchet⟩ := accepted.ratchet untimed first start
  have genesis := ratchet.first_target first start
  refine ⟨⟨targets, genesis, ratchet.declares, ratchet.never_rises, ?_⟩, ?_⟩
  · intro bits floor declared multiple below
    rw [← untimed.nominal_seconds, Int.natCast_dvd_natCast] at multiple
    exact ratchet.stays_above bits floor untimed.nonempty declared multiple (Nat.le_trans below within)
      (genesis ▸ below)
  · intro other otherStore otherAccepted
    obtain ⟨others, otherRatchet⟩ := otherAccepted.ratchet untimed first start
    exact fun i => ratchet.same_bits otherRatchet i

example : testnet.Untimed := by
  constructor <;> decide

-- Targets of 1000 until the first window is full, and of 900 from then on: windows count as 300 seconds.
def fallingBlock (i : Nat) : StoredBlock :=
  ⟨{ (LinearChain.steadyBlock i).header with bits := if i ≤ 2 then ⟨0x0203e800⟩ else ⟨0x02038400⟩ }, UInt32.ofNat i⟩

def falling : LinearChain where
  block := fallingBlock
  top := 4
  heights := by decide
  linked := by decide
  distinct := by decide +kernel

def untimedPairs : ChainParameters :=
  { testnet with
    averagingWindow := 2
    minActualTimespan := 300
    maxActualTimespan := 300
    genesis := { testGenesis with bits := ⟨0x0203e800⟩ } }

theorem untimed_targets_never_rise_falling :
    untimedPairs.Untimed ∧ untimedPairs.genesis.bits.toTarget = .ok ⟨1000⟩ ∧
      AcceptedChain untimedPairs falling falling.recorded ∧
      ∃ targets : Nat → Target, targets 0 = ⟨1000⟩ ∧ targets 4 = ⟨900⟩ ∧
        (∀ i < 4, targets (i + 1) ≤ targets i) ∧ ∀ i ≤ 4, (⟨900⟩ : Target) ≤ targets i := by
  have untimed : untimedPairs.Untimed := by
    constructor <;> decide
  have start : untimedPairs.genesis.bits.toTarget = .ok ⟨1000⟩ := by decide +kernel
  have accepted : AcceptedChain untimedPairs falling falling.recorded :=
    ⟨rfl, falling.recorded_complete, by decide +kernel⟩
  have floor : CompactBits.toTarget ⟨0x02038400⟩ = .ok ⟨900⟩ := by decide +kernel
  obtain ⟨⟨targets, genesis, declares, falls, above⟩, _⟩ := untimed_targets_never_rise untimedPairs ⟨1000⟩ falling
    falling.recorded untimed start (by decide +kernel) accepted
  have last : targets 4 = ⟨900⟩ := Except.ok.inj ((declares 4 (by decide)).symm.trans floor)
  exact ⟨untimed, start, accepted, targets, genesis, last, falls,
    above ⟨0x02038400⟩ ⟨900⟩ floor (by decide +kernel) (by decide +kernel)⟩

end ChainParameters

end ChainRules
