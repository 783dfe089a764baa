import ChainRules.Proofs.Chain.Walks
import ChainRules.Proofs.Difficulty.Limit
import Mathlib

set_option autoImplicit false

namespace ChainRules

-- For each store there are this many hashes at most that decide the result: it is the same over every store that
-- answers alike on them.
def ReadsAtMost {α : Type} (count : Nat) (rule : BlockStore → α) : Prop :=
  ∀ store, ∃ hashes : Finset BlockHash, hashes.card ≤ count ∧
    ∀ other : BlockStore, (∀ hash ∈ hashes, other.get hash = store.get hash) → rule other = rule store

namespace ReadsAtMost

variable {α β : Type} {count more : Nat}

theorem of_constant (rule : BlockStore → α) (answer : α) (same : ∀ store, rule store = answer) :
    ReadsAtMost 0 rule :=
  fun store => ⟨∅, Nat.le_refl 0, fun other _ => (same other).trans (same store).symm⟩

theorem mono {rule : BlockStore → α} (reads : ReadsAtMost count rule) (le : count ≤ more) : ReadsAtMost more rule := by
  intro store
  obtain ⟨hashes, few, decides⟩ := reads store
  exact ⟨hashes, Nat.le_trans few le, decides⟩

theorem determines {rule : BlockStore → α} {derived : BlockStore → β} (reads : ReadsAtMost count rule)
    (determined : ∀ store other, rule other = rule store → derived other = derived store) :
    ReadsAtMost count derived := by
  intro store
  obtain ⟨hashes, few, decides⟩ := reads store
  exact ⟨hashes, few, fun other agree => determined store other (decides other agree)⟩

theorem bind {first : BlockStore → Except ConsensusError α} {next : α → BlockStore → Except ConsensusError β}
    (reads : ReadsAtMost count first) (later : ∀ found, ReadsAtMost more (next found)) :
    ReadsAtMost (count + more) (fun store => (first store).bind (fun found => next found store)) := by
  intro store
  obtain ⟨hashes, few, decides⟩ := reads store
  cases answered : first store with
  | error error =>
      refine ⟨hashes, Nat.le_add_right_of_le few, fun other agree => ?_⟩
      change (first other).bind _ = (first store).bind _
      rw [decides other agree, answered]
      rfl
  | ok found =>
      obtain ⟨others, fewLater, decidesLater⟩ := later found store
      refine ⟨hashes ∪ others, Nat.le_trans (Finset.card_union_le _ _) (Nat.add_le_add few fewLater),
        fun other agree => ?_⟩
      change (first other).bind _ = (first store).bind _
      rw [decides other (fun hash member => agree hash (Finset.mem_union_left _ member)), answered]
      exact decidesLater other (fun hash member => agree hash (Finset.mem_union_right _ member))

end ReadsAtMost

theorem require_reads (hash : BlockHash) (absent : LookupFailure) :
    ReadsAtMost 1 (fun store => BlockStore.require (store.get hash) absent) := by
  intro store
  refine ⟨{hash}, Nat.le_of_eq (Finset.card_singleton hash), fun other agree => ?_⟩
  exact congrArg (BlockStore.require · absent) (agree hash (Finset.mem_singleton_self hash))

theorem require_previous_reads (block : StoredBlock) : ReadsAtMost 1 (fun store => store.requirePrevious block) :=
  require_reads block.header.previous (.missingPredecessor block.header.previous block.hash block.height)

theorem sum_window_reads (count : Nat) (cursor : StoredBlock) (total : Wide) :
    ReadsAtMost count (fun store => sumWindow store count cursor total) := by
  induction count generalizing cursor total with
  | zero => exact .of_constant _ _ (fun _ => rfl)
  | succ count ih =>
      simp only [sum_window_succ]
      cases cursor.isGenesis with
      | true => exact (ReadsAtMost.of_constant _ _ (fun _ => rfl)).mono (Nat.zero_le _)
      | false =>
          have rest : ∀ sum, ReadsAtMost (1 + count) (fun store =>
              (store.requirePrevious cursor).bind fun previous => sumWindow store count previous sum) :=
            fun sum => (require_previous_reads cursor).bind (fun previous => ih previous sum)
          have summed : ∀ target : Target, ReadsAtMost (0 + (1 + count)) (fun store =>
              ((Wide.add total target.widen).mapError .arithmetic).bind fun sum =>
                (store.requirePrevious cursor).bind fun previous => sumWindow store count previous sum) :=
            fun target => (ReadsAtMost.of_constant _ _ (fun _ => rfl)).bind rest
          exact ((ReadsAtMost.of_constant _ _ (fun _ => rfl)).bind summed).mono (by omega)

theorem ancestry_reads (count : Nat) (block : StoredBlock) :
    ReadsAtMost count (fun store => ancestry store count block) := by
  induction count generalizing block with
  | zero => exact .of_constant _ _ (fun _ => rfl)
  | succ count ih =>
      simp only [ancestry]
      cases block.isGenesis with
      | true => exact (ReadsAtMost.of_constant _ _ (fun _ => rfl)).mono (Nat.zero_le _)
      | false =>
          have rest : ∀ previous, ReadsAtMost count (fun store => (ancestry store count previous).map (block :: ·)) :=
            fun previous => (ih previous).determines (fun _ _ same => congrArg (Except.map (block :: ·)) same)
          exact ((require_previous_reads block).bind rest).mono (by omega)

theorem median_time_past_reads (block : StoredBlock) : ReadsAtMost 10 (fun store => medianTimePast store block) := by
  refine (ancestry_reads 10 block).determines (fun store other same => ?_)
  have sameTimes : recentTimestamps other 10 block = recentTimestamps store 10 block := by
    rw [recent_timestamps_ancestry, recent_timestamps_ancestry, same]
  rw [median_time_past_steps, median_time_past_steps]
  exact congrArg (Except.bind · _) sameTimes

theorem VersionTally.refill_reads (tally : VersionTally) (head : StoredBlock) :
    ReadsAtMost (tally.window - 1) (fun store => tally.refill store head) := by
  have walk : ReadsAtMost (tally.window - 1) (fun store => recentVersions store tally.window head) := by
    cases tally.window with
    | zero => exact .of_constant _ _ (fun _ => rfl)
    | succ ancestors =>
        simp only [recent_versions_ancestry]
        exact (ancestry_reads ancestors head).determines (fun _ _ same => congrArg (Except.map _) same)
  exact walk.determines (fun _ _ same => by rw [refill, refill, same])

namespace ChainParameters

variable (params : ChainParameters) (previous : StoredBlock) (candidate : BlockHeader)

theorem bits_from_medians_reads (window : WindowSum) :
    ReadsAtMost 20 (fun store => params.bitsFromMedians store previous window) := by
  simp only [bits_from_medians_steps]
  have second : ∀ last, ReadsAtMost 10 (fun store =>
      (medianTimePast store window.before).bind fun first => params.nextBits window.total (saturatingSub last first)) :=
    fun last => (median_time_past_reads window.before).determines (fun _ _ same => congrArg (Except.bind · _) same)
  exact (median_time_past_reads previous).bind second

theorem expected_at_window_ends_reads (rule : params.retargetRule = .averagingWindowMedianTime)
    (atEnd : params.averagingWindow.toNat ∣ previous.height.toNat + 1) :
    ReadsAtMost (params.averagingWindow.toNat + 21) (fun store => params.expectedNextBits store previous candidate) := by
  have nonempty : 1 ≤ params.averagingWindow.toNat := Nat.pos_of_dvd_of_pos atEnd (Nat.succ_pos _)
  have after : ∀ found, ReadsAtMost 20 (fun store => params.bitsAtWindowEnd store previous found) := by
    intro found
    cases found with
    | none => exact (ReadsAtMost.of_constant _ _ (fun _ => rfl)).mono (Nat.zero_le _)
    | some window =>
        exact (params.bits_from_medians_reads previous window).determines (fun _ _ same => congrArg (Except.map some) same)
  simp only [fun store => params.expected_at_window_ends_steps store previous candidate rule nonempty, if_pos atEnd]
  have walk : ∀ parent, ReadsAtMost (params.averagingWindow.toNat + 20) (fun store =>
      (sumWindow store params.averagingWindow.toNat parent 0).bind (params.bitsAtWindowEnd store previous)) :=
    fun parent => (sum_window_reads params.averagingWindow.toNat parent 0).bind after
  exact ((require_reads candidate.previous (.missingBlock candidate.previous)).bind walk).mono (by omega)

theorem expected_off_window_ends_reads (rule : params.retargetRule = .averagingWindowMedianTime)
    (off : ¬ params.averagingWindow.toNat ∣ previous.height.toNat + 1) :
    ReadsAtMost 0 (fun store => params.expectedNextBits store previous candidate) := by
  simp only [expectedNextBits, rule, expectedAtWindowEnds, if_pos (mt Nat.dvd_of_mod_eq_zero off)]
  exact .of_constant _ _ (fun _ => rfl)

theorem expected_at_every_block_reads (rule : params.retargetRule = .everyBlockRawTimespan) :
    ReadsAtMost (params.averagingWindow.toNat + 1) (fun store => params.expectedNextBits store previous candidate) := by
  simp only [fun store => params.expected_at_every_block_steps store previous candidate rule]
  have walk : ∀ tip, ReadsAtMost params.averagingWindow.toNat (fun store =>
      (sumWindow store params.averagingWindow.toNat tip 0).bind (params.bitsAtEveryBlock previous)) :=
    fun tip => (sum_window_reads params.averagingWindow.toNat tip 0).determines
      (fun _ _ same => congrArg (Except.bind · _) same)
  exact ((require_reads previous.hash (.missingBlock previous.hash)).bind walk).mono (by omega)

theorem check_reads (count : Nat)
    (reads : ReadsAtMost count (fun store => params.expectedNextBits store previous candidate)) :
    ReadsAtMost count (fun store =>
      (params.expectedNextBits store previous candidate, params.checkDifficultyTransitions store previous candidate)) :=
  reads.determines (fun _ _ same => by rw [checkDifficultyTransitions, checkDifficultyTransitions, same])

theorem read_footprint_bounded :
    (params.retargetRule = .averagingWindowMedianTime →
      ReadsAtMost (if params.averagingWindow.toNat ∣ previous.height.toNat + 1 then params.averagingWindow.toNat + 21 else 0)
        (fun store => (params.expectedNextBits store previous candidate,
          params.checkDifficultyTransitions store previous candidate))) ∧
    (params.retargetRule = .everyBlockRawTimespan →
      ReadsAtMost (params.averagingWindow.toNat + 1)
        (fun store => (params.expectedNextBits store previous candidate,
          params.checkDifficultyTransitions store previous candidate))) ∧
    (∀ block : StoredBlock, ReadsAtMost 10 (fun store => medianTimePast store block)) ∧
    ∀ (tally : VersionTally) (head : StoredBlock),
      ReadsAtMost (tally.size - 1) (fun store => tally.refill store head) := by
  refine ⟨fun rule => params.check_reads previous candidate _ ?_, fun rule => params.check_reads previous candidate _
    (params.expected_at_every_block_reads previous candidate rule), median_time_past_reads, VersionTally.refill_reads⟩
  by_cases atEnd : params.averagingWindow.toNat ∣ previous.height.toNat + 1
  · rw [if_pos atEnd]
    exact params.expected_at_window_ends_reads previous candidate rule atEnd
  · rw [if_neg atEnd]
    exact params.expected_off_window_ends_reads previous candidate rule atEnd

-- The walks over the loop never come to a genesis block, and still the answer rests on few hashes.
theorem read_footprint_bounded_loop :
    invertedRegtest.retargetRule = .averagingWindowMedianTime ∧
      ∃ hashes : Finset BlockHash, hashes.card ≤ 23 ∧
        ∀ other : BlockStore, (∀ hash ∈ hashes, other.get hash = loopStore.get hash) →
          invertedRegtest.expectedNextBits other loopBlock loopBlock.header = .ok (some ⟨0x200f0f0f⟩) := by
  have answered : invertedRegtest.expectedNextBits loopStore loopBlock loopBlock.header = .ok (some ⟨0x200f0f0f⟩) := by
    decide +kernel
  obtain ⟨bounded, _⟩ := read_footprint_bounded invertedRegtest loopBlock loopBlock.header
  obtain ⟨hashes, few, decides⟩ := bounded rfl loopStore
  exact ⟨rfl, hashes, few, fun other agree => (congrArg Prod.fst (decides other agree)).trans answered⟩

end ChainParameters

end ChainRules
