import ChainRules.Proofs.Difficulty.Ancestors
import ChainRules.Proofs.SoftFork.Tally
import Mathlib

set_option autoImplicit false

namespace ChainRules

namespace VersionTally

inductive Call where
  | add (version : Int32)
  | refill (store : BlockStore) (head : StoredBlock)

-- A refill that fails is a call too: what counts is the tally that it leaves.
def after (tally : VersionTally) : Call → VersionTally
  | .add version => tally.add version
  | .refill store head => (tally.refill store head).2

def afterAll (tally : VersionTally) (calls : List Call) : VersionTally := calls.foldl after tally

structure Bounded (window : Nat) (tally : VersionTally) : Prop where
  size : tally.size = window
  length : tally.length ≤ window

theorem bounded_add_all_new (window : Nat) (versions : List Int32) : ((new window).addAll versions).Bounded window := by
  rw [add_all_new]
  exact ⟨rfl, List.length_take_le window versions.reverse⟩

theorem Bounded.after {window : Nat} {tally : VersionTally} (bounded : tally.Bounded window) (call : Call) :
    (tally.after call).Bounded window := by
  obtain ⟨rfl, short⟩ := bounded
  cases call with
  | add version => exact ⟨rfl, List.length_take_le tally.window (version :: tally.latest)⟩
  | refill store head =>
      rw [VersionTally.after, refill]
      cases recentVersions store tally.window head with
      | error error => exact ⟨rfl, short⟩
      | ok versions => exact bounded_add_all_new tally.window versions.reverse

theorem Bounded.after_all {window : Nat} {tally : VersionTally} (bounded : tally.Bounded window) (calls : List Call) :
    (tally.afterAll calls).Bounded window := by
  induction calls generalizing tally with
  | nil => exact bounded
  | cons call calls ih => exact ih (bounded.after call)

end VersionTally

namespace LinearChain

variable (chain : LinearChain) (store : BlockStore)

def WindowAvailable (window : Nat) : Prop := ∀ i, chain.top + 1 - window ≤ i → i < chain.top → chain.Available store i

def windowVersions (window : Nat) : List Int32 :=
  chain.versions (chain.top + 1 - window) (min window (chain.top + 1))

theorem window_available_small (window : Nat) (small : window ≤ 1) : chain.WindowAvailable store window := by
  intro i low high
  omega

theorem versions_rtake (window : Nat) :
    (chain.versions 0 (chain.top + 1)).rtake window = chain.windowVersions window := by
  have room : chain.top + 1 - (chain.top + 1 - window) = min window (chain.top + 1) := by omega
  rw [List.rtake, versions, List.length_map, List.length_range', ← List.map_drop, List.drop_range', room]
  simp [windowVersions, versions]

theorem refill_available (tally : VersionTally) (available : chain.WindowAvailable store tally.window) :
    tally.refill store chain.tip =
      (.ok (), (VersionTally.new tally.window).addAll (chain.versions 0 (chain.top + 1))) := by
  have walked : VersionTally.recentVersions store tally.window chain.tip = _ :=
    chain.recent_versions_at store tally.window chain.top (Nat.le_refl _) available
  simp only [VersionTally.refill, walked, VersionTally.add_all_latest]

theorem window_available_or_lost (faithful : chain.AncestorsFaithful store) (window : Nat) :
    chain.WindowAvailable store window ∨
      ∃ i failure, chain.top + 1 - window ≤ i ∧ i < chain.top ∧ chain.Lost store i failure ∧
        VersionTally.recentVersions store window chain.tip = .error (.ancestorLookupFailed failure) := by
  cases window with
  | zero => exact .inl (chain.window_available_small store 0 (Nat.zero_le 1))
  | succ ancestors =>
      rw [recent_versions_ancestry, WindowAvailable, Nat.add_sub_add_right]
      rcases chain.ancestry_or_lost store faithful ancestors chain.top (Nat.le_refl _) with
        available | ⟨i, failure, low, high, lost, failed⟩
      · exact .inl available
      · have walked : ancestry store ancestors chain.tip = _ := failed
        exact .inr ⟨i, failure, low, high, lost, by rw [walked]; rfl⟩

theorem refill_all_or_nothing (faithful : chain.AncestorsFaithful store) (window : Nat) :
    (window ≤ 1 → chain.WindowAvailable store window) ∧
    ∃ refilled : VersionTally, refilled.size = window ∧ refilled.recorded = chain.windowVersions window ∧
      ∀ (calls : List VersionTally.Call) (tally : VersionTally), tally = (VersionTally.new window).afterAll calls →
        tally.size = window ∧ tally.length ≤ tally.size ∧
        ((tally.refill store chain.tip).1 = .ok () ↔ chain.WindowAvailable store window) ∧
        (chain.WindowAvailable store window → tally.refill store chain.tip = (.ok (), refilled)) ∧
        (¬ chain.WindowAvailable store window →
          ∃ i failure, chain.top + 1 - window ≤ i ∧ i < chain.top ∧ chain.Lost store i failure ∧
            tally.refill store chain.tip = (.error (.ancestorLookupFailed failure), tally)) := by
  refine ⟨chain.window_available_small store window, (VersionTally.new window).addAll (chain.versions 0 (chain.top + 1)),
    (VersionTally.bounded_add_all_new window _).size, ?_, fun calls tally called => ?_⟩
  · rw [VersionTally.recorded_add_all_new, versions_rtake]
  · have bounded := (VersionTally.bounded_add_all_new window []).after_all calls
    change ((VersionTally.new window).afterAll calls).Bounded window at bounded
    rw [← called] at bounded
    obtain ⟨rfl, short⟩ := bounded
    refine ⟨rfl, short, ?_⟩
    rcases chain.window_available_or_lost store faithful tally.size with available | ⟨i, failure, low, high, lost, failed⟩
    · have refilled := chain.refill_available store tally available
      exact ⟨iff_of_true (congrArg Prod.fst refilled) available, fun _ => refilled, fun missing => absurd available missing⟩
    · have missing : ¬ chain.WindowAvailable store tally.size := fun available => lost.unavailable (available i low high)
      have kept : tally.refill store chain.tip = (.error (.ancestorLookupFailed failure), tally) := by
        rw [VersionTally.size] at failed
        simp only [VersionTally.refill, failed]
      refine ⟨iff_of_false (by simp [kept]) missing, fun available => absurd available missing, fun _ => ?_⟩
      exact ⟨i, failure, low, high, lost, kept⟩

def upgradingWithout (i : Nat) : BlockStore :=
  (⟨false, [(upgradingBlock i).hash], "unreadable"⟩ : Outage).applied upgrading.recorded

theorem upgrading_without_faithful (i : Nat) : upgrading.AncestorsFaithful (upgradingWithout i) :=
  (upgrading.recorded_complete.faithful.of_below (Outage.applied_below _ _)).ancestors

-- A window of three reaches back from height 3 to height 1, so the genesis block may be lost.
theorem refill_all_or_nothing_upgrading :
    upgrading.AncestorsFaithful (upgradingWithout 0) ∧ upgrading.AncestorsFaithful (upgradingWithout 1) ∧
      ∃ tally refilled : VersionTally,
        tally = (VersionTally.new 3).afterAll [.add 9, .refill (upgradingWithout 1) upgrading.tip, .add 8] ∧
        tally.recorded = [9, 8] ∧ refilled.recorded = [2, 3, 4] ∧
        tally.refill (upgradingWithout 0) upgrading.tip = (.ok (), refilled) ∧
        (∃ failure, tally.refill (upgradingWithout 1) upgrading.tip = (.error (.ancestorLookupFailed failure), tally)) := by
  have available : upgrading.WindowAvailable (upgradingWithout 0) 3 := by
    unfold WindowAvailable Available
    decide +kernel
  have lost : ¬ upgrading.Available (upgradingWithout 1) 1 := by
    unfold Available
    decide +kernel
  obtain ⟨_, refilled, _, recorded, after⟩ :=
    refill_all_or_nothing upgrading (upgradingWithout 0) (upgrading_without_faithful 0) 3
  obtain ⟨_, _, _, _, afterLoss⟩ :=
    refill_all_or_nothing upgrading (upgradingWithout 1) (upgrading_without_faithful 1) 3
  obtain ⟨_, _, _, success, _⟩ := after [.add 9, .refill (upgradingWithout 1) upgrading.tip, .add 8] _ rfl
  obtain ⟨_, _, _, _, failure⟩ := afterLoss [.add 9, .refill (upgradingWithout 1) upgrading.tip, .add 8] _ rfl
  obtain ⟨_, reason, _, _, _, kept⟩ := failure (fun all => lost (all 1 (by decide) (by decide)))
  exact ⟨upgrading_without_faithful 0, upgrading_without_faithful 1, _, refilled, rfl, by decide +kernel,
    recorded.trans (by decide), success available, reason, kept⟩

end LinearChain

end ChainRules
