import ChainRules.Proofs.Difficulty.EveryBlock
import ChainRules.Proofs.Difficulty.WindowEnds
import Mathlib

set_option autoImplicit false

namespace ChainRules

namespace LinearChain

variable (chain : LinearChain)

def Took (count : Nat) (actual : Int64) : RetargetRule → Prop
  | .averagingWindowMedianTime =>
      ∃ last first, chain.IsMedianTime chain.top last ∧ chain.IsMedianTime (chain.top - count) first ∧
        actual = saturatingSub last first
  | .everyBlockRawTimespan => actual = saturatingSub (chain.time chain.top) (chain.time (chain.top - count))

theorem took_mono (early late : LinearChain) (count : Nat) (rule : RetargetRule) (short long : Int64)
    (sameHeight : early.top = late.top)
    (same : ∀ i ≤ early.top - count, early.time i = late.time i)
    (before : ∀ i, early.top - count < i → i ≤ early.top → early.time i ≤ late.time i)
    (tookShort : early.Took count short rule) (tookLong : late.Took count long rule) : short ≤ long := by
  have neverLater : ∀ i ≤ early.top, early.time i ≤ late.time i := by
    intro i within
    by_cases old : i ≤ early.top - count
    · exact Int64.le_of_eq (same i old)
    · exact before i (Nat.lt_of_not_le old) within
  cases rule with
  | averagingWindowMedianTime =>
      obtain ⟨earlyLast, earlyFirst, earlyTop, earlyStart, rfl⟩ := tookShort
      obtain ⟨lateLast, lateFirst, lateTop, lateStart, rfl⟩ := tookLong
      rw [← sameHeight] at lateTop lateStart
      have lasts : earlyLast ≤ lateLast := early.median_time_mono late _ _ _
        (fun i member => neverLater i (Finset.mem_Icc.mp member).2) earlyTop lateTop
      -- The median before the window is of times that both chains have.
      have sameStart : ∀ i ∈ medianHeights (early.top - count), early.time i = late.time i :=
        fun i member => same i (Finset.mem_Icc.mp member).2
      have firsts : earlyFirst = lateFirst := Int64.le_antisymm
        (early.median_time_mono late _ _ _ (fun i member => Int64.le_of_eq (sameStart i member)) earlyStart lateStart)
        (late.median_time_mono early _ _ _ (fun i member => Int64.le_of_eq (sameStart i member).symm) lateStart
          earlyStart)
      rw [firsts]
      exact saturating_sub_mono earlyLast lateLast lateFirst lasts
  | everyBlockRawTimespan =>
      obtain rfl : short = _ := tookShort
      obtain rfl : long = _ := tookLong
      rw [same _ (Nat.le_refl _), sameHeight]
      exact saturating_sub_mono _ _ _ (sameHeight ▸ neverLater early.top (Nat.le_refl _))

end LinearChain

namespace ChainParameters

structure Retargets (params : ChainParameters) (chain : LinearChain) (store : BlockStore) (candidate : BlockHeader)
    (targets : Nat → Target) : Prop where
  complete : chain.Complete store
  full : params.averagingWindow.toNat ≤ chain.top
  declares : chain.DeclaresTargets params.averagingWindow.toNat targets
  atWindowEnd : params.retargetRule = .averagingWindowMedianTime →
    params.averagingWindow.toNat ∣ chain.top + 1 ∧ candidate.previous = chain.tip.hash

theorem Retargets.expected {params : ChainParameters} {chain : LinearChain} {store : BlockStore}
    {candidate : BlockHeader} {targets : Nat → Target} (retargets : params.Retargets chain store candidate targets)
    (nonempty : 1 ≤ params.averagingWindow.toNat) (nominal : params.averagingWindowTimespan ≠ 0) :
    ∃ total actual next,
      total.toNat = ∑ i ∈ Finset.Ioc (chain.top - params.averagingWindow.toNat) chain.top, (targets i).toNat ∧
      total.toNat < params.averagingWindow.toNat * 2 ^ 256 ∧
      chain.Took params.averagingWindow.toNat actual params.retargetRule ∧
      params.nextTarget total actual = .ok next ∧
      params.expectedNextBits store chain.tip candidate = .ok (some (.ofTarget next)) := by
  obtain ⟨complete, full, declares, atWindowEnd⟩ := retargets
  cases rule : params.retargetRule with
  | averagingWindowMedianTime =>
      obtain ⟨atEnd, onTip⟩ := atWindowEnd rule
      obtain ⟨total, window, value, bounded⟩ := chain.tip_window_full store _ targets nonempty
        params.averagingWindow.toNat_lt complete declares full
      obtain ⟨last, first, next, lastMedian, firstMedian, answer, bits⟩ :=
        params.bits_from_medians_at chain store total nonempty nominal complete bounded
      have height := chain.heights chain.top (Nat.le_refl _)
      have parent : store.requireBlock candidate.previous = .ok chain.tip :=
        onTip ▸ chain.require_at store chain.top (complete chain.top (Nat.le_refl _))
      refine ⟨total, _, next, value, bounded, ⟨last, first, lastMedian, firstMedian, rfl⟩, answer, ?_⟩
      rw [params.expected_on_window_end store chain.tip candidate chain.tip rule nonempty (height.symm ▸ atEnd) parent,
        window]
      exact congrArg (Except.map some) bits
  | everyBlockRawTimespan =>
      obtain ⟨total, next, value, bounded, answer, bits⟩ :=
        params.expected_retargeted chain store candidate rule nonempty nominal complete targets declares full
      exact ⟨total, _, next, value, bounded, rfl, answer, bits⟩

end ChainParameters

end ChainRules
