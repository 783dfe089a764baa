import ChainRules.Difficulty.Retarget
import ChainRules.SoftFork.VersionTally
import Mathlib

set_option autoImplicit false

/-!
The walks over a store and the rules that use them, written as sequences of steps that may fail. What a walk shares
with its first step and with the rest of it then follows from what binding keeps.
-/

namespace ChainRules

theorem sum_window_succ (store : BlockStore) (count : Nat) (cursor : StoredBlock) (total : Wide) :
    sumWindow store (count + 1) cursor total =
      if cursor.isGenesis then .ok none
      else
        cursor.header.target.bind fun target =>
          ((Wide.add total target.widen).mapError .arithmetic).bind fun sum =>
            (store.requirePrevious cursor).bind fun previous => sumWindow store count previous sum := by
  rw [sumWindow]
  cases cursor.isGenesis with
  | true => rfl
  | false =>
      cases cursor.header.target with
      | error error => rfl
      | ok target =>
          cases added : Wide.add total target.widen with
          | error fault => simp only [added, Except.mapError, Except.bind]
          | ok sum =>
              simp only [added, Except.mapError, Except.bind]
              cases store.requirePrevious cursor with
              | error error => rfl
              | ok previous => rfl

theorem recent_timestamps_succ (store : BlockStore) (count : Nat) (block : StoredBlock) :
    recentTimestamps store (count + 1) block =
      if block.isGenesis then .ok [block.header.timestamp]
      else
        (store.requirePrevious block).bind fun previous =>
          (recentTimestamps store count previous).map (block.header.timestamp :: ·) := by
  rw [recentTimestamps]
  cases store.requirePrevious block with
  | error error => rfl
  | ok previous => rfl

theorem recent_versions_succ (store : BlockStore) (count : Nat) (block : StoredBlock) :
    VersionTally.recentVersions store (count + 2) block =
      if block.isGenesis then .ok [block.header.version]
      else
        (store.requirePrevious block).bind fun previous =>
          (VersionTally.recentVersions store (count + 1) previous).map (block.header.version :: ·) := by
  rw [VersionTally.recentVersions]
  cases store.requirePrevious block with
  | error error => rfl
  | ok previous => rfl

-- The walks for times and for versions are this one, and keep a part of each block.
def ancestry (store : BlockStore) : Nat → StoredBlock → Except ConsensusError (List StoredBlock)
  | 0, block => .ok [block]
  | count + 1, block =>
      if block.isGenesis then .ok [block]
      else (store.requirePrevious block).bind fun previous => (ancestry store count previous).map (block :: ·)

theorem kept_of_ancestry {α : Type} (store : BlockStore) (part : StoredBlock → α)
    (walk : Nat → StoredBlock → Except ConsensusError (List α)) (start : ∀ block, walk 0 block = .ok [part block])
    (step : ∀ count block, walk (count + 1) block =
      if block.isGenesis then .ok [part block]
      else (store.requirePrevious block).bind fun previous => (walk count previous).map (part block :: ·))
    (count : Nat) (block : StoredBlock) :
    walk count block = (ancestry store count block).map (List.map part) := by
  induction count generalizing block with
  | zero => exact start block
  | succ count ih =>
      rw [step, ancestry]
      cases block.isGenesis with
      | true => rfl
      | false =>
          cases store.requirePrevious block with
          | error error => rfl
          | ok previous =>
              simp only [Bool.false_eq_true, if_false, Except.bind, ih]
              cases ancestry store count previous with
              | error error => rfl
              | ok earlier => rfl

theorem recent_timestamps_ancestry (store : BlockStore) (count : Nat) (block : StoredBlock) :
    recentTimestamps store count block = (ancestry store count block).map (List.map (·.header.timestamp)) :=
  kept_of_ancestry store _ (recentTimestamps store) (fun _ => rfl) (recent_timestamps_succ store) count block

theorem recent_versions_ancestry (store : BlockStore) (count : Nat) (block : StoredBlock) :
    VersionTally.recentVersions store (count + 1) block =
      (ancestry store count block).map (List.map (·.header.version)) :=
  kept_of_ancestry store _ (fun count => VersionTally.recentVersions store (count + 1)) (fun _ => rfl)
    (recent_versions_succ store) count block

theorem median_time_past_steps (store : BlockStore) (block : StoredBlock) :
    medianTimePast store block =
      (recentTimestamps store (Constants.medianTimeSpan - 1) block).bind fun times =>
        (lowerMedian times).mapError .arithmetic := by
  rw [medianTimePast]
  cases recentTimestamps store (Constants.medianTimeSpan - 1) block with
  | error error => rfl
  | ok times => rfl

inductive BlockStore.MeetsGenesis (store : BlockStore) : Nat → StoredBlock → Prop where
  | here (count : Nat) (block : StoredBlock) (genesis : block.isGenesis) : MeetsGenesis store (count + 1) block
  | back (count : Nat) (block previous : StoredBlock) (found : store.getPrevious block = .ok (some previous))
      (earlier : MeetsGenesis store count previous) : MeetsGenesis store (count + 1) block

namespace ChainParameters

variable (params : ChainParameters) (store : BlockStore)

theorem bits_from_medians_steps (previous : StoredBlock) (window : WindowSum) :
    params.bitsFromMedians store previous window =
      (medianTimePast store previous).bind fun last =>
        (medianTimePast store window.before).bind fun first =>
          params.nextBits window.total (saturatingSub last first) := by
  rw [bitsFromMedians]
  cases medianTimePast store previous with
  | error error => rfl
  | ok last =>
      cases medianTimePast store window.before with
      | error error => rfl
      | ok first => rfl

def bitsAtWindowEnd (previous : StoredBlock) : Option WindowSum → Except ConsensusError (Option CompactBits)
  | none => .ok none
  | some window => (params.bitsFromMedians store previous window).map some

def bitsAtEveryBlock (previous : StoredBlock) : Option WindowSum → Except ConsensusError (Option CompactBits)
  | none => .ok (some previous.header.bits)
  | some window =>
      (params.nextBits window.total
        (saturatingSub previous.header.timestamp window.before.header.timestamp)).map some

theorem expected_at_window_ends_steps (previous : StoredBlock) (candidate : BlockHeader)
    (rule : params.retargetRule = .averagingWindowMedianTime) (nonempty : 1 ≤ params.averagingWindow.toNat) :
    params.expectedNextBits store previous candidate =
      if params.averagingWindow.toNat ∣ previous.height.toNat + 1 then
        (store.requireBlock candidate.previous).bind fun parent =>
          (sumWindow store params.averagingWindow.toNat parent 0).bind
            (params.bitsAtWindowEnd store previous)
      else .ok none := by
  simp only [expectedNextBits, rule, expectedAtWindowEnds]
  rw [if_neg (by omega)]
  by_cases atEnd : params.averagingWindow.toNat ∣ previous.height.toNat + 1
  · rw [if_pos atEnd, if_neg (not_not.mpr (Nat.mod_eq_zero_of_dvd atEnd))]
    cases store.requireBlock candidate.previous with
    | error error => rfl
    | ok parent =>
        simp only [Except.bind]
        cases sumWindow store params.averagingWindow.toNat parent 0 with
        | error error => rfl
        | ok found =>
            cases found with
            | none => rfl
            | some window => rfl
  · rw [if_neg atEnd, if_pos (fun zero => atEnd (Nat.dvd_of_mod_eq_zero zero))]

theorem expected_at_every_block_steps (previous : StoredBlock) (candidate : BlockHeader)
    (rule : params.retargetRule = .everyBlockRawTimespan) :
    params.expectedNextBits store previous candidate =
      (store.requireBlock previous.hash).bind fun tip =>
        (sumWindow store params.averagingWindow.toNat tip 0).bind (params.bitsAtEveryBlock previous) := by
  simp only [expectedNextBits, rule, expectedAtEveryBlock]
  cases store.requireBlock previous.hash with
  | error error => rfl
  | ok tip =>
      simp only [Except.bind]
      cases sumWindow store params.averagingWindow.toNat tip 0 with
      | error error => rfl
      | ok found =>
          cases found with
          | none => rfl
          | some window => rfl

end ChainParameters

end ChainRules
