import ChainRules.Proofs.SoftFork.Tally
import Mathlib

set_option autoImplicit false

namespace ChainRules

namespace VersionTally

def signalling (window : Nat) (versions : List Int32) (threshold : Int32) : Nat :=
  (versions.rtake window).countP (fun version => decide (threshold ≤ version))

theorem recorded_add (tally : VersionTally) (version : Int32) (bounded : tally.length ≤ tally.window) :
    (tally.add version).recorded =
      if tally.window = 0 then tally.recorded
      else if tally.length = tally.window then tally.recorded.tail ++ [version]
      else tally.recorded ++ [version] := by
  obtain ⟨window, latest⟩ := tally
  have short : latest.length ≤ window := bounded
  change ((version :: latest).take window).reverse =
    if window = 0 then latest.reverse
    else if latest.length = window then latest.reverse.tail ++ [version] else latest.reverse ++ [version]
  cases window with
  | zero => rw [if_pos rfl, List.eq_nil_of_length_eq_zero (Nat.le_zero.mp short), List.take_zero]
  | succ room =>
      rw [if_neg (Nat.succ_ne_zero room), List.take_succ_cons, List.reverse_cons]
      by_cases full : latest.length = room + 1
      · rw [if_pos full, List.tail_reverse, List.dropLast_eq_take, full, Nat.add_sub_cancel]
      · have spare : latest.length ≤ room := Nat.le_of_lt_succ (Nat.lt_of_le_of_ne short full)
        rw [if_neg full, List.take_of_length_le spare]

theorem count_add_all_new (window : Nat) (versions : List Int32) (threshold : Int32) :
    ((new window).addAll versions).countAtOrAbove threshold =
      if versions.length < window then none else some (signalling window versions threshold) := by
  have held : (versions.reverse.take window).length = min window versions.length := by
    rw [List.length_take, List.length_reverse]
  rw [add_all_new, signalling, List.rtake_eq_reverse_take_reverse, List.countP_reverse]
  change (if (versions.reverse.take window).length < window then none else some _) = _
  by_cases full : window ≤ versions.length
  · rw [if_neg (by omega), if_neg (by omega)]
  · rw [if_pos (by omega), if_pos (by omega)]

-- Both gated rules have this form; they differ in the versions that they count and in how many are enough.
theorem enough_add_all_new (window : Nat) (versions : List Int32) (threshold : Int32) (enough : Nat → Bool) :
    (match ((new window).addAll versions).countAtOrAbove threshold with
      | none => false
      | some count => enough count) = true ↔
      window ≤ versions.length ∧ enough (signalling window versions threshold) = true := by
  rw [count_add_all_new]
  by_cases full : window ≤ versions.length
  · rw [if_neg (Nat.not_lt.mpr full)]
    exact (and_iff_right full).symm
  · rw [if_pos (Nat.lt_of_not_le full)]
    simp [full]

end VersionTally

namespace ChainParameters

variable (params : ChainParameters) (window : Nat) (versions : List Int32)

theorem enforces_height_in_coinbase_iff :
    params.enforcesHeightInCoinbase ((VersionTally.new window).addAll versions) = true ↔
      window ≤ versions.length ∧
        params.majorityEnforceBlockUpgrade.toNat ≤ VersionTally.signalling window versions 2 := by
  rw [← decide_eq_true_iff (p := _ ≤ VersionTally.signalling _ _ _)]
  exact VersionTally.enough_add_all_new window versions Constants.blockVersionBip34 _

theorem enforces_lock_time_verify_iff :
    params.enforcesLockTimeVerify ((VersionTally.new window).addAll versions) = true ↔
      window ≤ versions.length ∧
        params.majorityEnforceBlockUpgrade.toNat < VersionTally.signalling window versions 4 := by
  rw [← decide_eq_true_iff (p := _ < VersionTally.signalling _ _ _)]
  exact VersionTally.enough_add_all_new window versions Constants.blockVersionBip65 _

variable (block : BlockHeader) (transaction : Transaction) (tally : VersionTally) (height : Option UInt32)

theorem mem_block_flags (flag : BlockVerifyFlag) :
    flag ∈ params.blockVerificationFlags block tally height ↔
      flag = .heightInCoinbase ∧ 2 ≤ block.version ∧ params.enforcesHeightInCoinbase tally = true := by
  have signals : block.signalsHeightInCoinbase = true ↔ 2 ≤ block.version := decide_eq_true_iff
  unfold blockVerificationFlags
  rw [← signals, ← Bool.and_eq_true]
  by_cases applies : (block.signalsHeightInCoinbase && params.enforcesHeightInCoinbase tally) = true <;>
    simp [applies]

theorem mem_transaction_flags (flag : ScriptVerifyFlag) :
    flag ∈ params.transactionVerificationFlags block transaction tally height ↔
      flag = .p2sh ∧ params.bip16EnforceTime ≤ block.timestamp ∨
      flag = .checkLockTimeVerify ∧ 4 ≤ block.version ∧ params.enforcesLockTimeVerify tally = true := by
  have signals : block.signalsLockTimeVerify = true ↔ 4 ≤ block.version := decide_eq_true_iff
  unfold transactionVerificationFlags
  rw [← signals, ← Bool.and_eq_true, List.mem_append]
  apply or_congr
  · by_cases late : params.bip16EnforceTime ≤ block.timestamp <;> simp [late]
  · by_cases applies : (block.signalsLockTimeVerify && params.enforcesLockTimeVerify tally) = true <;>
      simp [applies]

theorem activation_exact :
    ((VersionTally.new window).addAll versions).recorded = versions.rtake window ∧
    ((VersionTally.new window).addAll versions).length = min window versions.length ∧
    (∀ flag, flag ∈ params.blockVerificationFlags block ((VersionTally.new window).addAll versions) height ↔
      flag = .heightInCoinbase ∧ 2 ≤ block.version ∧ window ≤ versions.length ∧
        params.majorityEnforceBlockUpgrade.toNat ≤
          (versions.rtake window).countP (fun version => decide (2 ≤ version))) ∧
    (∀ flag, flag ∈ params.transactionVerificationFlags block transaction
        ((VersionTally.new window).addAll versions) height ↔
      flag = .p2sh ∧ params.bip16EnforceTime ≤ block.timestamp ∨
      flag = .checkLockTimeVerify ∧ 4 ≤ block.version ∧ window ≤ versions.length ∧
        params.majorityEnforceBlockUpgrade.toNat <
          (versions.rtake window).countP (fun version => decide (4 ≤ version))) := by
  refine ⟨VersionTally.recorded_add_all_new window versions, ?_, fun flag => ?_, fun flag => ?_⟩
  · rw [VersionTally.length, VersionTally.add_all_new, List.length_take, List.length_reverse]
  · rw [mem_block_flags, enforces_height_in_coinbase_iff]
    rfl
  · rw [mem_transaction_flags, enforces_lock_time_verify_iff]
    rfl

end ChainParameters

end ChainRules
