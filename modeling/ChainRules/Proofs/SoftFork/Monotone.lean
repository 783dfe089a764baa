import ChainRules.Proofs.SoftFork.Activation
import ChainRules.Proofs.SoftFork.Refill
import Mathlib

set_option autoImplicit false

namespace ChainRules

namespace VersionTally

theorem count_at_lower (tally : VersionTally) (low high : Int32) (le : low ≤ high) :
    tally.countAtOrAbove low = none ∧ tally.countAtOrAbove high = none ∨
      ∃ more count, tally.countAtOrAbove low = some more ∧ tally.countAtOrAbove high = some count ∧ count ≤ more := by
  unfold countAtOrAbove
  by_cases short : tally.latest.length < tally.window
  · rw [if_pos short, if_pos short]
    exact .inl ⟨rfl, rfl⟩
  · rw [if_neg short, if_neg short]
    refine .inr ⟨_, _, rfl, rfl, List.countP_mono_left (fun version _ reached => ?_)⟩
    exact decide_eq_true (Int32.le_trans le (of_decide_eq_true reached))

theorem count_pointwise (versions higher : List Int32) (rises : List.Forall₂ (· ≤ ·) versions higher)
    (threshold : Int32) :
    versions.countP (fun version => decide (threshold ≤ version)) ≤
      higher.countP (fun version => decide (threshold ≤ version)) := by
  induction rises with
  | nil => exact Nat.le_refl _
  | @cons version above _ _ first _ ih =>
      rw [List.countP_cons, List.countP_cons]
      refine Nat.add_le_add ih ?_
      by_cases reached : threshold ≤ version
      · rw [if_pos (decide_eq_true reached), if_pos (decide_eq_true (Int32.le_trans reached first))]
      · rw [if_neg (by simpa using reached)]
        exact Nat.zero_le _

theorem signalling_mono (window : Nat) (versions higher : List Int32)
    (rises : List.Forall₂ (· ≤ ·) versions higher) (threshold : Int32) :
    signalling window versions threshold ≤ signalling window higher threshold := by
  rw [signalling, signalling, List.rtake, List.rtake, ← rises.length_eq]
  exact count_pointwise _ _ (List.forall₂_drop _ rises) threshold

theorem count_eq_some_iff (tally : VersionTally) (threshold : Int32) (count : Nat) :
    tally.countAtOrAbove threshold = some count ↔
      tally.window ≤ tally.length ∧ tally.recorded.countP (fun version => decide (threshold ≤ version)) = count := by
  rw [countAtOrAbove, recorded, List.countP_reverse, length]
  by_cases full : tally.window ≤ tally.latest.length
  · rw [if_neg (Nat.not_lt.mpr full), Option.some_inj, and_iff_right full]
  · simp [Nat.lt_of_not_le full, full]

theorem full_add (tally : VersionTally) (full : tally.window ≤ tally.length) (version : Int32) :
    (tally.add version).window ≤ (tally.add version).length := by
  change tally.window ≤ ((version :: tally.latest).take tally.window).length
  rw [List.length_take, List.length_cons]
  exact Nat.le_min.mpr ⟨Nat.le_refl _, Nat.le_succ_of_le full⟩

-- One version comes in and at most one goes.
theorem count_add (tally : VersionTally) (bounded : tally.length ≤ tally.window) (version threshold : Int32)
    (count : Nat) (given : tally.countAtOrAbove threshold = some count) :
    ∃ next, (tally.add version).countAtOrAbove threshold = some next ∧ next ≤ count + 1 ∧ count ≤ next + 1 := by
  obtain ⟨full, rfl⟩ := (tally.count_eq_some_iff threshold count).mp given
  refine ⟨_, (count_eq_some_iff _ threshold _).mpr ⟨tally.full_add full version, rfl⟩, ?_⟩
  rw [tally.recorded_add version bounded]
  by_cases empty : tally.window = 0
  · rw [if_pos empty]
    exact ⟨Nat.le_succ _, Nat.le_succ _⟩
  · rw [if_neg empty, if_pos (Nat.le_antisymm bounded full), List.countP_append, List.countP_singleton]
    cases tally.recorded with
    | nil => split <;> simp
    | cons evicted rest =>
        rw [List.tail_cons, List.countP_cons]
        split <;> split <;> omega

end VersionTally

namespace ChainParameters

variable (params : ChainParameters)

theorem enforces_height_in_coinbase_counted (tally : VersionTally) :
    params.enforcesHeightInCoinbase tally = true ↔
      ∃ count, tally.countAtOrAbove 2 = some count ∧ params.majorityEnforceBlockUpgrade.toNat ≤ count := by
  have signals : Constants.blockVersionBip34 = 2 := rfl
  rw [enforcesHeightInCoinbase, signals]
  cases tally.countAtOrAbove 2 with
  | none => simp
  | some count => simp

theorem enforces_lock_time_verify_counted (tally : VersionTally) :
    params.enforcesLockTimeVerify tally = true ↔
      ∃ count, tally.countAtOrAbove 4 = some count ∧ params.majorityEnforceBlockUpgrade.toNat < count := by
  have signals : Constants.blockVersionBip65 = 4 := rfl
  rw [enforcesLockTimeVerify, signals]
  cases tally.countAtOrAbove 4 with
  | none => simp
  | some count => simp

theorem enforces_height_of_lock_time (tally : VersionTally) (enforced : params.enforcesLockTimeVerify tally = true) :
    params.enforcesHeightInCoinbase tally = true := by
  obtain ⟨count, counted, majority⟩ := (params.enforces_lock_time_verify_counted tally).mp enforced
  rw [enforces_height_in_coinbase_counted]
  rcases tally.count_at_lower 2 4 (by decide) with ⟨_, uncounted⟩ | ⟨more, fewer, countedMore, countedFewer, le⟩
  · rw [uncounted] at counted
    cases counted
  · rw [counted] at countedFewer
    cases countedFewer
    exact ⟨more, countedMore, Nat.le_of_lt (Nat.lt_of_lt_of_le majority le)⟩

variable (window : Nat) (transaction : Transaction) (height : Option UInt32)

theorem height_flag_of_lock_time_flag (block : BlockHeader) (tally : VersionTally)
    (flagged : .checkLockTimeVerify ∈ params.transactionVerificationFlags block transaction tally height) :
    .heightInCoinbase ∈ params.blockVerificationFlags block tally height := by
  rw [mem_transaction_flags] at flagged
  rcases flagged with ⟨timed, _⟩ | ⟨_, signals, enforced⟩
  · cases timed
  · rw [mem_block_flags]
    exact ⟨rfl, Int32.le_trans (by decide) signals, params.enforces_height_of_lock_time tally enforced⟩

theorem flags_rise_with_history (block : BlockHeader) (versions higher : List Int32)
    (rises : List.Forall₂ (· ≤ ·) versions higher) :
    params.blockVerificationFlags block ((VersionTally.new window).addAll versions) height ⊆
      params.blockVerificationFlags block ((VersionTally.new window).addAll higher) height ∧
    params.transactionVerificationFlags block transaction ((VersionTally.new window).addAll versions) height ⊆
      params.transactionVerificationFlags block transaction ((VersionTally.new window).addAll higher) height := by
  have same := rises.length_eq
  constructor
  · intro flag flagged
    rw [mem_block_flags, enforces_height_in_coinbase_iff] at flagged ⊢
    obtain ⟨gated, signals, full, majority⟩ := flagged
    exact ⟨gated, signals, same ▸ full,
      Nat.le_trans majority (VersionTally.signalling_mono window versions higher rises 2)⟩
  · intro flag flagged
    rw [mem_transaction_flags, enforces_lock_time_verify_iff] at flagged ⊢
    rcases flagged with timed | ⟨gated, signals, full, majority⟩
    · exact .inl timed
    · exact .inr ⟨gated, signals, same ▸ full,
        Nat.lt_of_lt_of_le majority (VersionTally.signalling_mono window versions higher rises 4)⟩

theorem flags_rise_with_block (block later : BlockHeader) (tally : VersionTally)
    (version : block.version ≤ later.version) (time : block.timestamp ≤ later.timestamp) :
    params.blockVerificationFlags block tally height ⊆ params.blockVerificationFlags later tally height ∧
    params.transactionVerificationFlags block transaction tally height ⊆
      params.transactionVerificationFlags later transaction tally height := by
  constructor
  · intro flag flagged
    rw [mem_block_flags] at flagged ⊢
    exact ⟨flagged.1, Int32.le_trans flagged.2.1 version, flagged.2.2⟩
  · intro flag flagged
    rw [mem_transaction_flags] at flagged ⊢
    rcases flagged with ⟨timed, late⟩ | ⟨gated, signals, enforced⟩
    · exact .inl ⟨timed, Int64.le_trans late time⟩
    · exact .inr ⟨gated, Int32.le_trans signals version, enforced⟩

theorem activation_monotone :
    (∀ (block : BlockHeader) (tally : VersionTally),
      .checkLockTimeVerify ∈ params.transactionVerificationFlags block transaction tally height →
        .heightInCoinbase ∈ params.blockVerificationFlags block tally height) ∧
    (∀ (block : BlockHeader) (versions higher : List Int32), List.Forall₂ (· ≤ ·) versions higher →
      params.blockVerificationFlags block ((VersionTally.new window).addAll versions) height ⊆
        params.blockVerificationFlags block ((VersionTally.new window).addAll higher) height ∧
      params.transactionVerificationFlags block transaction ((VersionTally.new window).addAll versions) height ⊆
        params.transactionVerificationFlags block transaction ((VersionTally.new window).addAll higher) height) ∧
    (∀ (block later : BlockHeader) (tally : VersionTally), block.version ≤ later.version →
      block.timestamp ≤ later.timestamp →
      params.blockVerificationFlags block tally height ⊆ params.blockVerificationFlags later tally height ∧
      params.transactionVerificationFlags block transaction tally height ⊆
        params.transactionVerificationFlags later transaction tally height) ∧
    (∀ (tally : VersionTally) (low high : Int32), low ≤ high →
      tally.countAtOrAbove low = none ∧ tally.countAtOrAbove high = none ∨
        ∃ more count, tally.countAtOrAbove low = some more ∧ tally.countAtOrAbove high = some count ∧ count ≤ more) ∧
    ∀ (calls : List VersionTally.Call) (tally : VersionTally), tally = (VersionTally.new window).afterAll calls →
      ∀ (version threshold : Int32) (count : Nat), tally.countAtOrAbove threshold = some count →
        ∃ next, (tally.add version).countAtOrAbove threshold = some next ∧ next ≤ count + 1 ∧ count ≤ next + 1 := by
  refine ⟨params.height_flag_of_lock_time_flag transaction height,
    params.flags_rise_with_history window transaction height, params.flags_rise_with_block transaction height,
    VersionTally.count_at_lower, fun calls tally reached version threshold count full => ?_⟩
  have bounded := (VersionTally.bounded_add_all_new window []).after_all calls
  change ((VersionTally.new window).afterAll calls).Bounded window at bounded
  rw [← reached] at bounded
  exact tally.count_add (Nat.le_trans bounded.length (Nat.le_of_eq bounded.size.symm)) version threshold count full

-- Two signals in a window of three are enough for the height in the coinbase and one too few for the lock time.
def twoOfThree : ChainParameters := { regtest with majorityEnforceBlockUpgrade := 2 }

theorem activation_monotone_two_of_three :
    List.Forall₂ (· ≤ ·) [1, 4, 4, 3] [1, 4, 4, (4 : Int32)] ∧
      .checkLockTimeVerify ∉ twoOfThree.transactionVerificationFlags (LinearChain.upgradingBlock 3).header .empty
        ((VersionTally.new 3).addAll [1, 4, 4, 3]) none ∧
      .checkLockTimeVerify ∈ twoOfThree.transactionVerificationFlags (LinearChain.upgradingBlock 3).header .empty
        ((VersionTally.new 3).addAll [1, 4, 4, 4]) none ∧
      .heightInCoinbase ∈ twoOfThree.blockVerificationFlags (LinearChain.upgradingBlock 3).header
        ((VersionTally.new 3).addAll [1, 4, 4, 4]) none ∧
      twoOfThree.blockVerificationFlags (LinearChain.upgradingBlock 3).header
          ((VersionTally.new 3).addAll [1, 4, 4, 3]) none ⊆
        twoOfThree.blockVerificationFlags (LinearChain.upgradingBlock 3).header
          ((VersionTally.new 3).addAll [1, 4, 4, 4]) none ∧
      ∃ next, (((VersionTally.new 3).addAll [1, 4, 4, 4]).add 1).countAtOrAbove 4 = some next ∧ next ≤ 4 ∧ 3 ≤ next + 1 := by
  have rises : List.Forall₂ (· ≤ ·) [1, 4, 4, 3] [1, 4, 4, (4 : Int32)] := by decide
  have flagged : .checkLockTimeVerify ∈ twoOfThree.transactionVerificationFlags (LinearChain.upgradingBlock 3).header
      .empty ((VersionTally.new 3).addAll [1, 4, 4, 4]) none := by
    decide
  obtain ⟨nested, history, _, _, added⟩ := activation_monotone twoOfThree 3 .empty none
  exact ⟨rises, by decide, flagged, nested _ _ flagged, (history _ _ _ rises).1,
    added [.add 1, .add 4, .add 4, .add 4] _ rfl 1 4 3 (by decide)⟩

end ChainParameters

end ChainRules
