import ChainRules.Proofs.Difficulty.Answers
import ChainRules.Proofs.Difficulty.WindowEnds
import ChainRules.Simulation.Outage
import ChainRules.SoftFork.VersionTally
import Mathlib

set_option autoImplicit false

namespace ChainRules

-- The fuller store has every block of the other under the same hash. Nothing is said of the other answers.
def BlockStore.Below (store fuller : BlockStore) : Prop :=
  ∀ hash block, store.get hash = .ok (some block) → fuller.get hash = .ok (some block)

theorem Outage.applied_below (outage : Outage) (store : BlockStore) : (outage.applied store).Below store := by
  intro hash block found
  simp only [Outage.applied] at found
  split at found
  · cases found
  · exact found

def BlockStore.common (store other : BlockStore) : BlockStore :=
  ⟨fun hash => if store.get hash = other.get hash then store.get hash else .ok none⟩

theorem BlockStore.common_of_agree (store other : BlockStore) (hash : BlockHash)
    (agree : store.get hash = other.get hash) : (store.common other).get hash = store.get hash :=
  if_pos agree

theorem BlockStore.common_below (store other : BlockStore) :
    (store.common other).Below store ∧ (store.common other).Below other := by
  have found : ∀ hash block, (store.common other).get hash = .ok (some block) →
      store.get hash = other.get hash ∧ store.get hash = .ok (some block) := by
    intro hash block answer
    by_cases agree : store.get hash = other.get hash
    · exact ⟨agree, store.common_of_agree other hash agree ▸ answer⟩
    · have nothing : (store.common other).get hash = .ok none := if_neg agree
      rw [nothing] at answer
      cases answer
  refine ⟨fun hash block answer => (found hash block answer).2, fun hash block answer => ?_⟩
  obtain ⟨agree, held⟩ := found hash block answer
  exact agree ▸ held

def AgreesOrFails {α : Type} (answer fuller : Except ConsensusError α) : Prop :=
  answer = fuller ∨ ∃ failure, answer = .error (.ancestorLookupFailed failure)

theorem AgreesOrFails.map {α β : Type} {answer fuller : Except ConsensusError α}
    (agrees : AgreesOrFails answer fuller) (f : α → β) : AgreesOrFails (answer.map f) (fuller.map f) := by
  rcases agrees with same | ⟨failure, lost⟩
  · exact .inl (congrArg (Except.map f) same)
  · exact .inr ⟨failure, by rw [lost]; rfl⟩

theorem AgreesOrFails.bind {α β : Type} {answer fuller : Except ConsensusError α}
    {next fullerNext : α → Except ConsensusError β} (agrees : AgreesOrFails answer fuller)
    (later : ∀ result, AgreesOrFails (next result) (fullerNext result)) :
    AgreesOrFails (answer.bind next) (fuller.bind fullerNext) := by
  rcases agrees with rfl | ⟨failure, rfl⟩
  · cases answer with
    | error error => exact .inl rfl
    | ok result => exact later result
  · exact .inr ⟨failure, rfl⟩

section Walks

variable {store fuller : BlockStore} (below : store.Below fuller)

include below

theorem require_agrees (hash : BlockHash) (absent : LookupFailure) :
    AgreesOrFails (BlockStore.require (store.get hash) absent) (BlockStore.require (fuller.get hash) absent) := by
  cases found : store.get hash with
  | error error => exact .inr ⟨.unreadable error, rfl⟩
  | ok answer =>
      cases answer with
      | none => exact .inr ⟨absent, rfl⟩
      | some block => exact .inl (by rw [below hash block found])

theorem require_block_agrees (hash : BlockHash) :
    AgreesOrFails (store.requireBlock hash) (fuller.requireBlock hash) :=
  require_agrees below hash (.missingBlock hash)

theorem require_previous_agrees (block : StoredBlock) :
    AgreesOrFails (store.requirePrevious block) (fuller.requirePrevious block) :=
  require_agrees below block.header.previous
    (.missingPredecessor block.header.previous block.hash block.height)

theorem sum_window_agrees (count : Nat) (cursor : StoredBlock) (total : Wide) :
    AgreesOrFails (sumWindow store count cursor total) (sumWindow fuller count cursor total) := by
  induction count generalizing cursor total with
  | zero => exact .inl rfl
  | succ count ih =>
      rw [sum_window_succ, sum_window_succ]
      cases cursor.isGenesis with
      | true => exact .inl rfl
      | false =>
          refine AgreesOrFails.bind (.inl rfl) (fun target => ?_)
          refine AgreesOrFails.bind (.inl rfl) (fun sum => ?_)
          exact (require_previous_agrees below cursor).bind (fun previous => ih previous sum)

theorem ancestry_agrees (count : Nat) (block : StoredBlock) :
    AgreesOrFails (ancestry store count block) (ancestry fuller count block) := by
  induction count generalizing block with
  | zero => exact .inl rfl
  | succ count ih =>
      rw [ancestry, ancestry]
      cases block.isGenesis with
      | true => exact .inl rfl
      | false => exact (require_previous_agrees below block).bind (fun previous => (ih previous).map _)

theorem recent_timestamps_agrees (count : Nat) (block : StoredBlock) :
    AgreesOrFails (recentTimestamps store count block) (recentTimestamps fuller count block) := by
  rw [recent_timestamps_ancestry, recent_timestamps_ancestry]
  exact (ancestry_agrees below count block).map _

theorem recent_versions_agrees (count : Nat) (block : StoredBlock) :
    AgreesOrFails (VersionTally.recentVersions store count block)
      (VersionTally.recentVersions fuller count block) := by
  cases count with
  | zero => exact .inl rfl
  | succ count =>
      rw [recent_versions_ancestry, recent_versions_ancestry]
      exact (ancestry_agrees below count block).map _

theorem median_time_past_agrees (block : StoredBlock) :
    AgreesOrFails (medianTimePast store block) (medianTimePast fuller block) := by
  rw [median_time_past_steps, median_time_past_steps]
  exact (recent_timestamps_agrees below (Constants.medianTimeSpan - 1) block).bind (fun _ => .inl rfl)

theorem ChainParameters.bits_from_medians_agrees (params : ChainParameters) (previous : StoredBlock)
    (window : WindowSum) :
    AgreesOrFails (params.bitsFromMedians store previous window) (params.bitsFromMedians fuller previous window) := by
  rw [bits_from_medians_steps, bits_from_medians_steps]
  refine (median_time_past_agrees below previous).bind (fun last => ?_)
  exact (median_time_past_agrees below window.before).bind (fun first => .inl rfl)

theorem ChainParameters.expected_next_bits_agrees (params : ChainParameters) (previous : StoredBlock)
    (candidate : BlockHeader) (nonempty : 1 ≤ params.averagingWindow.toNat) :
    AgreesOrFails (params.expectedNextBits store previous candidate)
      (params.expectedNextBits fuller previous candidate) := by
  cases rule : params.retargetRule with
  | averagingWindowMedianTime =>
      rw [params.expected_at_window_ends_steps store previous candidate rule nonempty,
        params.expected_at_window_ends_steps fuller previous candidate rule nonempty]
      by_cases atEnd : params.averagingWindow.toNat ∣ previous.height.toNat + 1
      · rw [if_pos atEnd, if_pos atEnd]
        refine (require_block_agrees below candidate.previous).bind (fun parent => ?_)
        refine (sum_window_agrees below params.averagingWindow.toNat parent 0).bind (fun found => ?_)
        cases found with
        | none => exact .inl rfl
        | some window => exact (params.bits_from_medians_agrees below previous window).map some
      · rw [if_neg atEnd, if_neg atEnd]
        exact .inl rfl
  | everyBlockRawTimespan =>
      rw [params.expected_at_every_block_steps store previous candidate rule,
        params.expected_at_every_block_steps fuller previous candidate rule]
      refine (require_block_agrees below previous.hash).bind (fun tip => ?_)
      exact (sum_window_agrees below params.averagingWindow.toNat tip 0).bind (fun found => .inl rfl)

theorem ChainParameters.accepted_over_fuller (params : ChainParameters) (previous : StoredBlock)
    (candidate : BlockHeader) (nonempty : 1 ≤ params.averagingWindow.toNat)
    (accepted : params.checkDifficultyTransitions store previous candidate = .ok ()) :
    params.checkDifficultyTransitions fuller previous candidate = .ok () := by
  rw [checkDifficultyTransitions] at accepted ⊢
  rcases params.expected_next_bits_agrees below previous candidate nonempty with same | ⟨failure, lost⟩
  · rwa [← same]
  · rw [lost] at accepted
    cases accepted

end Walks

-- The four ways in which a rule ends over a store, beside what it gives over a fuller one. No fifth way is left: in
-- particular a failed lookup is no answer, and the arithmetic of a rule always has one.
inductive Unaltered {α : Type} : Except ConsensusError α → Except ConsensusError α → Prop where
  | value (result : α) : Unaltered (.ok result) (.ok result)
  | malformed (bits : CompactBits) :
      Unaltered (.error (.malformedCompactBits bits)) (.error (.malformedCompactBits bits))
  | mismatch (expected actual : CompactBits) :
      Unaltered (.error (.difficultyMismatch expected actual)) (.error (.difficultyMismatch expected actual))
  | unavailable (failure : LookupFailure) (fuller : Except ConsensusError α) :
      Unaltered (.error (.ancestorLookupFailed failure)) fuller

theorem AgreesOrFails.unaltered {α : Type} {good : α → Prop} {answer fuller : Except ConsensusError α}
    (agrees : AgreesOrFails answer fuller) (answers : Answers good answer) : Unaltered answer fuller := by
  rcases agrees with rfl | ⟨failure, rfl⟩
  · cases answers with
    | value result _ => exact .value result
    | unavailable failure => exact .unavailable failure _
    | malformed bits => exact .malformed bits
  · exact .unavailable failure fuller

theorem BlockStore.require_previous_cases (store : BlockStore) (block : StoredBlock) :
    (∃ previous, store.requirePrevious block = .ok previous) ∨
      ∃ failure, store.requirePrevious block = .error (.ancestorLookupFailed failure) := by
  unfold requirePrevious require
  cases store.getPrevious block with
  | error error => exact .inr ⟨.unreadable error, rfl⟩
  | ok found =>
      cases found with
      | none => exact .inr ⟨_, rfl⟩
      | some previous => exact .inl ⟨previous, rfl⟩

theorem ancestry_answers (store : BlockStore) (count : Nat) (block : StoredBlock) :
    (∃ blocks, ancestry store count block = .ok blocks) ∨
      ∃ failure, ancestry store count block = .error (.ancestorLookupFailed failure) := by
  induction count generalizing block with
  | zero => exact .inl ⟨_, rfl⟩
  | succ count ih =>
      rw [ancestry]
      cases block.isGenesis with
      | true => exact .inl ⟨_, rfl⟩
      | false =>
          rcases store.require_previous_cases block with ⟨previous, found⟩ | ⟨failure, lost⟩
          · rw [found]
            rcases ih previous with ⟨blocks, rest⟩ | ⟨failure, rest⟩
            · exact .inl ⟨block :: blocks, congrArg (Except.map _) rest⟩
            · exact .inr ⟨failure, congrArg (Except.map _) rest⟩
          · rw [lost]
            exact .inr ⟨failure, rfl⟩

theorem recent_versions_answers (store : BlockStore) (count : Nat) (block : StoredBlock) :
    (∃ versions, VersionTally.recentVersions store count block = .ok versions) ∨
      ∃ failure, VersionTally.recentVersions store count block = .error (.ancestorLookupFailed failure) := by
  cases count with
  | zero => exact .inl ⟨_, rfl⟩
  | succ count =>
      rw [recent_versions_ancestry]
      rcases ancestry_answers store count block with ⟨blocks, found⟩ | ⟨failure, lost⟩
      · exact .inl ⟨_, congrArg (Except.map _) found⟩
      · exact .inr ⟨failure, congrArg (Except.map _) lost⟩

theorem VersionTally.refill_unaltered (tally : VersionTally) {store fuller : BlockStore}
    (below : store.Below fuller) (head : StoredBlock) :
    (∃ after, tally.refill store head = (.ok (), after) ∧ tally.refill fuller head = (.ok (), after)) ∨
      ∃ failure, tally.refill store head = (.error (.ancestorLookupFailed failure), tally) := by
  rcases recent_versions_answers store tally.window head with ⟨versions, found⟩ | ⟨failure, lost⟩
  · have kept : recentVersions fuller tally.window head = .ok versions := by
      rcases recent_versions_agrees below tally.window head with same | ⟨failure, lost⟩
      · rw [← same, found]
      · rw [lost] at found
        cases found
    refine .inl ⟨(new tally.window).addAll versions.reverse, ?_, ?_⟩
    · simp only [refill, found]
    · simp only [refill, kept]
  · exact .inr ⟨failure, by simp only [refill, lost]⟩

namespace ChainParameters

theorem check_transitions_unaltered (params : ChainParameters) {store fuller : BlockStore} (previous : StoredBlock)
    (candidate : BlockHeader)
    (expected : Unaltered (params.expectedNextBits store previous candidate)
      (params.expectedNextBits fuller previous candidate)) :
    Unaltered (params.checkDifficultyTransitions store previous candidate)
      (params.checkDifficultyTransitions fuller previous candidate) := by
  rw [checkDifficultyTransitions, checkDifficultyTransitions]
  generalize params.expectedNextBits store previous candidate = answer at expected ⊢
  generalize params.expectedNextBits fuller previous candidate = fullerAnswer at expected ⊢
  cases expected with
  | malformed bits => exact .malformed bits
  | mismatch required actual => exact .mismatch required actual
  | unavailable failure => exact .unavailable failure _
  | value required =>
      cases required with
      | none => exact .value ()
      | some bits =>
          by_cases same : bits = candidate.bits
          · simp only [if_pos same]
            exact .value ()
          · simp only [if_neg same]
            exact .mismatch bits candidate.bits

theorem lost_blocks_alter_nothing (params : ChainParameters) (store fuller : BlockStore)
    (previous block head : StoredBlock) (candidate : BlockHeader) (tally : VersionTally)
    (below : store.Below fuller) (nonempty : 1 ≤ params.averagingWindow.toNat)
    (nominal : params.averagingWindowTimespan ≠ 0) :
    Unaltered (params.expectedNextBits store previous candidate) (params.expectedNextBits fuller previous candidate) ∧
    Unaltered (params.checkDifficultyTransitions store previous candidate)
      (params.checkDifficultyTransitions fuller previous candidate) ∧
    Unaltered (medianTimePast store block) (medianTimePast fuller block) ∧
    ((∃ after, tally.refill store head = (.ok (), after) ∧ tally.refill fuller head = (.ok (), after)) ∨
      ∃ failure, tally.refill store head = (.error (.ancestorLookupFailed failure), tally)) := by
  have expected := (params.expected_next_bits_agrees below previous candidate nonempty).unaltered
    (params.expected_next_bits_answers store previous candidate nonempty nominal)
  refine ⟨expected, params.check_transitions_unaltered previous candidate expected, ?_, ?_⟩
  · exact (median_time_past_agrees below block).unaltered (median_time_past_answers store block)
  · exact tally.refill_unaltered below head

def windowOutage : Outage := ⟨false, [(LinearChain.steadyBlock 2).hash], "unreadable"⟩

theorem lost_blocks_alter_nothing_window_outage :
    (windowOutage.applied LinearChain.steadyStore).Below LinearChain.steadyStore ∧
      1 ≤ pairwiseRegtest.averagingWindow.toNat ∧ pairwiseRegtest.averagingWindowTimespan ≠ 0 ∧
      Unaltered
        (pairwiseRegtest.checkDifficultyTransitions (windowOutage.applied LinearChain.steadyStore)
          LinearChain.steady.tip (LinearChain.steadyBlock 4).header)
        (pairwiseRegtest.checkDifficultyTransitions LinearChain.steadyStore LinearChain.steady.tip
          (LinearChain.steadyBlock 4).header) := by
  have below := windowOutage.applied_below LinearChain.steadyStore
  have nominal := pairwise_regtest_defined.nominal_ne_zero
  obtain ⟨_, checked, _⟩ := lost_blocks_alter_nothing pairwiseRegtest (windowOutage.applied LinearChain.steadyStore)
    LinearChain.steadyStore LinearChain.steady.tip LinearChain.steady.tip LinearChain.steady.tip
    (LinearChain.steadyBlock 4).header (.new 2) below (by decide) nominal
  exact ⟨below, by decide, nominal, checked⟩

end ChainParameters

end ChainRules
