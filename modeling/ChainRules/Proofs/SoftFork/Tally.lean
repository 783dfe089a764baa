import ChainRules.Proofs.Chain.Linear
import ChainRules.Proofs.Chain.Walks
import ChainRules.SoftFork.Activation
import Mathlib

set_option autoImplicit false

namespace ChainRules

namespace VersionTally

variable (tally : VersionTally)

theorem add_all_append (earlier later : List Int32) :
    tally.addAll (earlier ++ later) = (tally.addAll earlier).addAll later :=
  List.foldl_append

theorem add_all_new (window : Nat) (versions : List Int32) :
    (new window).addAll versions = ⟨window, versions.reverse.take window⟩ := by
  induction versions using List.reverseRecOn with
  | nil => simp [addAll, new]
  | append_singleton versions version ih =>
      rw [add_all_append, ih, List.reverse_append]
      show VersionTally.mk window ((version :: versions.reverse.take window).take window) = _
      cases window with
      | zero => rfl
      | succ room => simp [List.take_take]

theorem recorded_add_all_new (window : Nat) (versions : List Int32) :
    ((new window).addAll versions).recorded = versions.rtake window := by
  rw [add_all_new, List.rtake_eq_reverse_take_reverse]
  rfl

theorem add_all_latest (window : Nat) (versions : List Int32) :
    (new window).addAll (versions.reverse.take window).reverse = (new window).addAll versions := by
  rw [add_all_new, add_all_new, List.reverse_reverse, List.take_take, Nat.min_self]

end VersionTally

namespace LinearChain

variable (chain : LinearChain) (store : BlockStore)

def version (i : Nat) : Int32 := (chain.block i).header.version

def versions (first count : Nat) : List Int32 := (List.range' first count).map chain.version

theorem versions_append (first earlier later : Nat) :
    chain.versions first (earlier + later) = chain.versions first earlier ++ chain.versions (first + earlier) later := by
  rw [versions, versions, versions, ← List.map_append, List.range'_append_1]

theorem versions_reverse_succ (j : Nat) :
    (chain.versions 0 (j + 1)).reverse = chain.version j :: (chain.versions 0 j).reverse := by
  rw [versions_append, List.reverse_append, Nat.zero_add]
  rfl

theorem recent_versions_at (count j : Nat) (within : j ≤ chain.top)
    (available : ∀ i, j + 1 - count ≤ i → i < j → chain.Available store i) :
    VersionTally.recentVersions store count (chain.block j) =
      .ok ((chain.versions 0 (j + 1)).reverse.take count) := by
  induction count generalizing j with
  | zero => rfl
  | succ count ih =>
      rw [versions_reverse_succ, List.take_succ_cons]
      cases count with
      | zero => rfl
      | succ count =>
          rw [recent_versions_succ, chain.genesis_at j within]
          cases j with
          | zero => rfl
          | succ j =>
              have before := chain.require_before store j within (available j (by omega) (by omega))
              have rest := ih j (by omega) (fun i low high => available i (by omega) (by omega))
              rw [if_neg (by simp), before, Except.bind, rest]
              rfl

theorem refill_at (tally : VersionTally) (j : Nat) (within : j ≤ chain.top) (complete : chain.Complete store) :
    tally.refill store (chain.block j) =
      (.ok (), (VersionTally.new tally.window).addAll (chain.versions 0 (j + 1))) := by
  have walked := chain.recent_versions_at store tally.window j within
    (fun i _ below => complete i (Nat.le_of_lt (Nat.lt_of_lt_of_le below within)))
  simp only [VersionTally.refill, walked, VersionTally.add_all_latest]

theorem restarted_tally_continues (tally other : VersionTally) (k : Nat) (within : k ≤ chain.top)
    (complete : chain.Complete store) (sameWindow : other.window = tally.window) :
    ∃ restarted continued uninterrupted,
      tally.refill store (chain.block k) = (.ok (), restarted) ∧
      continued = restarted.addAll (chain.versions (k + 1) (chain.top - k)) ∧
      uninterrupted = (VersionTally.new tally.window).addAll (chain.versions 0 (chain.top + 1)) ∧
      continued = uninterrupted ∧
      other.refill store chain.tip = (.ok (), continued) ∧
      continued.size = tally.window ∧
      continued.recorded = (chain.versions 0 (chain.top + 1)).rtake tally.window ∧
      (∀ version, continued.countAtOrAbove version = uninterrupted.countAtOrAbove version) ∧
      ∀ (params : ChainParameters) (block : BlockHeader) (transaction : Transaction) (height : Option UInt32),
        params.blockVerificationFlags block continued height =
          params.blockVerificationFlags block uninterrupted height ∧
        params.transactionVerificationFlags block transaction continued height =
          params.transactionVerificationFlags block transaction uninterrupted height := by
  have history : chain.versions 0 (chain.top + 1) =
      chain.versions 0 (k + 1) ++ chain.versions (k + 1) (chain.top - k) := by
    rw [show chain.top + 1 = k + 1 + (chain.top - k) by omega, versions_append, Nat.zero_add]
  have same : ((VersionTally.new tally.window).addAll (chain.versions 0 (k + 1))).addAll
      (chain.versions (k + 1) (chain.top - k)) =
        (VersionTally.new tally.window).addAll (chain.versions 0 (chain.top + 1)) := by
    rw [history, VersionTally.add_all_append]
  refine ⟨_, _, _, chain.refill_at store tally k within complete, rfl, rfl, same, ?_, ?_, ?_, ?_, ?_⟩
  · rw [same, ← sameWindow]
    exact chain.refill_at store other chain.top (Nat.le_refl _) complete
  · rw [same, VersionTally.add_all_new]
    rfl
  · rw [same, VersionTally.recorded_add_all_new]
  · rw [same]
    exact fun _ => rfl
  · rw [same]
    exact fun _ _ _ _ => ⟨rfl, rfl⟩

def upgradingBlock (i : Nat) : StoredBlock :=
  ⟨{ (steadyBlock i).header with version := Int32.ofNat (i + 1) }, UInt32.ofNat i⟩

def upgrading : LinearChain where
  block := upgradingBlock
  top := 3
  heights := by decide
  linked := by decide
  distinct := by decide +kernel

theorem restarted_tally_continues_upgrading :
    1 ≤ upgrading.top ∧ upgrading.Complete upgrading.recorded ∧
      ∃ restarted, VersionTally.refill ⟨3, [9, 9, 9]⟩ upgrading.recorded (upgradingBlock 1) = (.ok (), restarted) ∧
        VersionTally.refill (.new 3) upgrading.recorded (upgradingBlock 3) = (.ok (), restarted.addAll [3, 4]) ∧
        (restarted.addAll [3, 4]).recorded = [2, 3, 4] ∧
        (restarted.addAll [3, 4]).countAtOrAbove 3 = some 2 := by
  obtain ⟨restarted, continued, uninterrupted, refilled, rfl, rfl, _, other, _, recorded, counts, _⟩ :=
    restarted_tally_continues upgrading upgrading.recorded ⟨3, [9, 9, 9]⟩ (.new 3) 1 (by decide)
      upgrading.recorded_complete rfl
  exact ⟨by decide, upgrading.recorded_complete, restarted, refilled, other, recorded.trans (by decide),
    (counts 3).trans (by decide)⟩

end LinearChain

end ChainRules
