import ChainRules.Proofs.Chain.Obstacles
import ChainRules.Proofs.Chain.Outages
import Mathlib

set_option autoImplicit false

namespace ChainRules

theorem LinearChain.Faithful.of_below {chain : LinearChain} {store fuller : BlockStore}
    (faithful : chain.Faithful fuller) (below : store.Below fuller) : chain.Faithful store :=
  fun i within found answer => faithful i within found (below _ found answer)

theorem LinearChain.Complete.faithful {chain : LinearChain} {store : BlockStore} (complete : chain.Complete store) :
    chain.Faithful store := by
  intro i within found answer
  rw [complete i within] at answer
  cases answer
  rfl

namespace ChainParameters

variable (params : ChainParameters) (chain : LinearChain) (store : BlockStore)

-- The lowest height of a block that a retarget after height `top` reads: the one before the window, and where the
-- rule takes a median there, the earliest block of that median.
def oldestNeeded (top : Nat) : Nat :=
  match params.retargetRule with
  | .averagingWindowMedianTime => top - (params.averagingWindow.toNat + (Constants.medianTimeSpan - 1))
  | .everyBlockRawTimespan => top - params.averagingWindow.toNat

def oldestDecoded (top : Nat) : Nat := max 1 (top + 1 - params.averagingWindow.toNat)

section Walks

variable (faithful : chain.Faithful store)

include faithful

theorem after_window_survey {β : Type} {good : β → Prop} {next : Option WindowSum → Except ConsensusError β}
    {needed : Nat} (nonempty : 1 ≤ params.averagingWindow.toNat)
    (neededLe : needed ≤ chain.top - params.averagingWindow.toNat)
    (short : chain.top < params.averagingWindow.toNat →
      chain.AvailableFrom store (chain.top - params.averagingWindow.toNat) →
      chain.DecodesFrom (params.oldestDecoded chain.top) →
      chain.Surveyed store good needed (params.oldestDecoded chain.top) (next none))
    (full : ∀ window : WindowSum, window.before = chain.block (chain.top - params.averagingWindow.toNat) →
      window.total.toNat < params.averagingWindow.toNat * 2 ^ 256 →
      chain.AvailableFrom store (chain.top - params.averagingWindow.toNat) →
      chain.DecodesFrom (params.oldestDecoded chain.top) →
      chain.Surveyed store good needed (params.oldestDecoded chain.top) (next (some window))) :
    chain.Surveyed store good needed (params.oldestDecoded chain.top)
      ((store.requireBlock chain.tip.hash).bind fun tip =>
        (sumWindow store params.averagingWindow.toNat tip 0).bind next) := by
  have small := params.averagingWindow.toNat_lt
  have below : params.oldestDecoded chain.top ≤ chain.top + 1 := by
    unfold oldestDecoded
    omega
  refine (chain.require_tip_survey store faithful).bind (by omega) below (by omega)
    (fun tip same available decodes => ?_)
  subst same
  have walk := chain.sum_window_survey store faithful params.averagingWindow.toNat chain.top 0 (Nat.le_refl _)
    available decodes (by
      rw [BitVec.ofNat_eq_ofNat, BitVec.toNat_zero]
      omega)
  have measured := walk.with_answers (params.window_answers store chain.tip nonempty)
    (fun _ located bounded => And.intro located bounded.1)
  refine measured.bind neededLe (Nat.le_refl _) (by omega) (fun found holds available decodes => ?_)
  cases found with
  | none => exact short (holds.1.1 rfl) available decodes
  | some window => exact full window (holds.1.2 window rfl) (holds.2 window rfl) available decodes

theorem bits_from_medians_survey (window : WindowSum) (checked : Nat) (nonempty : 1 ≤ params.averagingWindow.toNat)
    (nominal : params.averagingWindowTimespan ≠ 0)
    (before : window.before = chain.block (chain.top - params.averagingWindow.toNat))
    (bounded : window.total.toNat < params.averagingWindow.toNat * 2 ^ 256)
    (available : chain.AvailableFrom store (chain.top - params.averagingWindow.toNat))
    (decodes : chain.DecodesFrom checked) :
    chain.Surveyed store (fun _ => True)
      (chain.top - (params.averagingWindow.toNat + (Constants.medianTimeSpan - 1))) checked
      (params.bitsFromMedians store chain.tip window) := by
  have tipAvailable : chain.AvailableFrom store chain.top := available.above (Nat.sub_le _ _)
  rw [bits_from_medians_steps, before, ← Nat.sub_sub]
  refine (chain.median_time_past_survey store faithful chain.top checked (Nat.le_refl _) tipAvailable decodes).bind
    (by omega) (Nat.le_refl _) (by omega) (fun last _ _ _ => ?_)
  refine (chain.median_time_past_survey store faithful (chain.top - params.averagingWindow.toNat) checked
    (Nat.sub_le _ _) available decodes).bind (Nat.le_refl _) (Nat.le_refl _) (by omega)
    (fun first _ allAvailable _ => ?_)
  obtain ⟨target, _, _, bits⟩ :=
    params.next_target_answers window.total (saturatingSub last first) nonempty nominal bounded
  rw [bits]
  exact .value _ trivial allAvailable decodes

theorem expected_next_bits_survey (candidate : BlockHeader) (nonempty : 1 ≤ params.averagingWindow.toNat)
    (nominal : params.averagingWindowTimespan ≠ 0)
    (applies : params.retargetRule = .averagingWindowMedianTime →
      params.averagingWindow.toNat ∣ chain.top + 1 ∧ candidate.previous = chain.tip.hash) :
    chain.Surveyed store (fun _ => True) (params.oldestNeeded chain.top) (params.oldestDecoded chain.top)
      (params.expectedNextBits store chain.tip candidate) := by
  cases rule : params.retargetRule with
  | averagingWindowMedianTime =>
      obtain ⟨atEnd, onTip⟩ := applies rule
      have needed : params.oldestNeeded chain.top =
          chain.top - (params.averagingWindow.toNat + (Constants.medianTimeSpan - 1)) := by
        rw [oldestNeeded, rule]
      have height : chain.tip.height.toNat = chain.top := chain.heights chain.top (Nat.le_refl _)
      rw [params.expected_at_window_ends_steps store chain.tip candidate rule nonempty, height, if_pos atEnd, onTip,
        needed]
      refine params.after_window_survey chain store faithful nonempty (by omega) (fun short available decodes => ?_)
        (fun window before bounded available decodes => ?_)
      · exact .value none trivial (available.above (by omega)) decodes
      · exact (params.bits_from_medians_survey chain store faithful window _ nonempty nominal before bounded available
          decodes).map some (fun _ _ => trivial)
  | everyBlockRawTimespan =>
      have needed : params.oldestNeeded chain.top = chain.top - params.averagingWindow.toNat := by
        rw [oldestNeeded, rule]
      rw [params.expected_at_every_block_steps store chain.tip candidate rule, needed]
      refine params.after_window_survey chain store faithful nonempty (Nat.le_refl _)
        (fun _ available decodes => ?_) (fun window _ bounded available decodes => ?_)
      · exact .value _ trivial available decodes
      · obtain ⟨target, _, _, bits⟩ := params.next_target_answers window.total
          (saturatingSub chain.tip.header.timestamp window.before.header.timestamp) nonempty nominal bounded
        rw [bitsAtEveryBlock, bits]
        exact .value _ trivial available decodes

end Walks

theorem expected_next_bits_local (other : BlockStore) (candidate : BlockHeader) (defined : params.WindowDefined)
    (faithful : chain.Faithful store) (otherFaithful : chain.Faithful other)
    (applies : params.retargetRule = .averagingWindowMedianTime →
      params.averagingWindow.toNat ∣ chain.top + 1 ∧ candidate.previous = chain.tip.hash)
    (agree : ∀ i, params.oldestNeeded chain.top ≤ i → i ≤ chain.top →
      store.get (chain.block i).hash = other.get (chain.block i).hash) :
    params.expectedNextBits other chain.tip candidate = params.expectedNextBits store chain.tip candidate := by
  have survey := fun (reads : BlockStore) (readsFaithful : chain.Faithful reads) =>
    params.expected_next_bits_survey chain reads readsFaithful candidate defined.nonempty defined.nominal_ne_zero applies
  have answer := survey store faithful
  rcases answer.same_failure (survey other otherFaithful) agree with succeeds | same
  · -- Both stores have all that they agree on, which is enough for an answer.
    obtain ⟨belowStore, belowOther⟩ := store.common_below other
    obtain ⟨available, decodes⟩ := answer.ok_iff.mp succeeds
    have common : chain.AvailableFrom (store.common other) (params.oldestNeeded chain.top) := by
      intro i low high
      rw [LinearChain.Available, store.common_of_agree other _ (agree i low high)]
      exact available i low high
    obtain ⟨required, answered⟩ :=
      (survey (store.common other) (faithful.of_below belowStore)).ok_iff.mpr ⟨common, decodes⟩
    have kept : ∀ fuller : BlockStore, (store.common other).Below fuller →
        params.expectedNextBits fuller chain.tip candidate = .ok required := by
      intro fuller below
      rcases params.expected_next_bits_agrees below chain.tip candidate defined.nonempty with same | ⟨failure, lost⟩
      · rw [← same, answered]
      · rw [lost] at answered
        cases answered
    rw [kept store belowStore, kept other belowOther]
  · exact same

theorem latest_obstacle_reported (candidate : BlockHeader) (defined : params.WindowDefined)
    (faithful : chain.Faithful store)
    (applies : params.retargetRule = .averagingWindowMedianTime →
      params.averagingWindow.toNat ∣ chain.top + 1 ∧ candidate.previous = chain.tip.hash) :
    ((∃ required, params.expectedNextBits store chain.tip candidate = .ok required) ↔
      chain.AvailableFrom store (params.oldestNeeded chain.top) ∧
        chain.DecodesFrom (params.oldestDecoded chain.top)) ∧
    (∀ bits, params.expectedNextBits store chain.tip candidate = .error (.malformedCompactBits bits) ↔
      ∃ m, bits = chain.bits m ∧ LatestIn chain.Undecodable (params.oldestDecoded chain.top) chain.top m ∧
        ∀ j, params.oldestNeeded chain.top ≤ j → j ≤ chain.top → ¬ chain.Available store j → j < m) ∧
    (∀ j, LatestIn (fun i => ¬ chain.Available store i) (params.oldestNeeded chain.top) chain.top j →
      (∀ m, params.oldestDecoded chain.top ≤ m → m ≤ chain.top → chain.Undecodable m → m ≤ j) →
      ∃ failure,
        params.expectedNextBits store chain.tip candidate = .error (.ancestorLookupFailed failure) ∧
        chain.Lost store j failure ∧
        ((∃ error, store.get (chain.block j).hash = .error error ∧ failure.message = error.message) ∨
          store.get (chain.block j).hash = .ok none ∧
            ∃ before after, failure.message = before ++ (chain.block j).hash.display ++ after)) ∧
    ∀ other, chain.Faithful other →
      (∀ i, params.oldestNeeded chain.top ≤ i → i ≤ chain.top →
        store.get (chain.block i).hash = other.get (chain.block i).hash) →
      params.expectedNextBits other chain.tip candidate = params.expectedNextBits store chain.tip candidate := by
  have survey := params.expected_next_bits_survey chain store faithful candidate defined.nonempty
    defined.nominal_ne_zero applies
  refine ⟨survey.ok_iff, survey.malformed_iff, ?_, ?_⟩
  · intro j latest before
    obtain ⟨failure, lost, reported⟩ := survey.lost_of_latest j latest before
    exact ⟨failure, reported, lost, lost.message⟩
  · intro other otherFaithful agree
    exact params.expected_next_bits_local chain store other candidate defined faithful otherFaithful applies agree

def garbledBlock (i : Nat) : StoredBlock :=
  { LinearChain.steadyBlock i with
    header := { (LinearChain.steadyBlock i).header with bits := if i = 2 then ⟨0x04923456⟩ else ⟨0x200f0f0f⟩ } }

def garbled : LinearChain where
  block := garbledBlock
  top := 3
  heights := by decide
  linked := by decide
  distinct := by decide +kernel

def garbledWithout (i : Nat) : BlockStore :=
  (⟨false, [(garbledBlock i).hash], "unreadable"⟩ : Outage).applied garbled.recorded

theorem garbled_without_faithful (i : Nat) : garbled.Faithful (garbledWithout i) :=
  garbled.recorded_complete.faithful.of_below (Outage.applied_below _ _)

theorem latest_obstacle_reported_garbled :
    pairwiseRegtest.WindowDefined ∧ garbled.Faithful (garbledWithout 1) ∧ garbled.Faithful (garbledWithout 2) ∧
      2 ∣ garbled.top + 1 ∧ (LinearChain.steadyBlock 4).header.previous = garbled.tip.hash ∧
      pairwiseRegtest.expectedNextBits (garbledWithout 1) garbled.tip (LinearChain.steadyBlock 4).header =
        .error (.malformedCompactBits ⟨0x04923456⟩) ∧
      pairwiseRegtest.expectedNextBits (garbledWithout 2) garbled.tip (LinearChain.steadyBlock 4).header =
        .error (.ancestorLookupFailed (.unreadable (.backend "unreadable"))) := by
  have atEnd : 2 ∣ garbled.top + 1 := by decide
  have onTip : (LinearChain.steadyBlock 4).header.previous = garbled.tip.hash := by decide +kernel
  have undecodable : garbled.Undecodable 2 := by
    intro target declared
    have malformed : CompactBits.toTarget ⟨0x04923456⟩ = .error (.malformedCompactBits ⟨0x04923456⟩) := by
      decide +kernel
    have decoded : CompactBits.toTarget ⟨0x04923456⟩ = .ok target := declared
    rw [malformed] at decoded
    cases decoded
  have decodes : garbled.DecodesFrom 3 := by
    intro i low high
    obtain rfl : i = 3 := Nat.le_antisymm high low
    exact fun undecodable => undecodable ⟨0x0f0f0f <<< 232⟩ (by decide +kernel)
  obtain ⟨_, malformed, _, _⟩ := latest_obstacle_reported pairwiseRegtest garbled (garbledWithout 1)
    (LinearChain.steadyBlock 4).header pairwise_regtest_defined (garbled_without_faithful 1) (fun _ => ⟨atEnd, onTip⟩)
  obtain ⟨_, _, lost, _⟩ := latest_obstacle_reported pairwiseRegtest garbled (garbledWithout 2)
    (LinearChain.steadyBlock 4).header pairwise_regtest_defined (garbled_without_faithful 2) (fun _ => ⟨atEnd, onTip⟩)
  refine ⟨pairwise_regtest_defined, garbled_without_faithful 1, garbled_without_faithful 2, atEnd, onTip, ?_, ?_⟩
  · refine (malformed ⟨0x04923456⟩).mpr ⟨2, rfl, ⟨by decide, by decide, undecodable, decodes⟩, ?_⟩
    intro j _ high unavailable
    by_contra later
    have available : ∀ i ≤ 3, 2 ≤ i → garbled.Available (garbledWithout 1) i := by
      unfold LinearChain.Available
      decide +kernel
    exact unavailable (available j high (Nat.le_of_not_lt later))
  · have unread : (garbledWithout 2).get (garbled.block 2).hash = .error (.backend "unreadable") := by decide +kernel
    have latest : LatestIn (fun i => ¬ garbled.Available (garbledWithout 2) i) 0 3 2 := by
      unfold LinearChain.Available
      refine ⟨by decide, by decide, by decide +kernel, fun k later high => ?_⟩
      obtain rfl : k = 3 := Nat.le_antisymm high later
      exact not_not.mpr (by decide +kernel)
    obtain ⟨failure, reported, why, _⟩ := lost 2 latest (fun m _ high undecodable => by
      by_contra later
      exact decodes m (Nat.lt_of_not_le later) high undecodable)
    rw [reported, why.unique rfl (.unreadable _ unread)]

end ChainParameters

end ChainRules
