import ChainRules.Difficulty.Window
import ChainRules.Proofs.Chain.Linear
import ChainRules.Proofs.Work.Canonical
import ChainRules.Proofs.Work.Wide
import Mathlib

set_option autoImplicit false

namespace ChainRules.LinearChain

variable (chain : LinearChain) (store : BlockStore)

def InWindow (count i : Nat) : Prop := max 1 (chain.top + 1 - count) ≤ i ∧ i ≤ chain.top

def Undecodable (i : Nat) : Prop := ∀ target, (chain.bits i).toTarget ≠ .ok target

def DeclaresTargets (count : Nat) (targets : Nat → Target) : Prop :=
  ∀ i, chain.InWindow count i → (chain.bits i).toTarget = .ok (targets i)

theorem targets_of_decodable (inside : Nat → Prop) (decodes : ∀ i, inside i → ¬ chain.Undecodable i) :
    ∃ targets : Nat → Target, ∀ i, inside i → (chain.bits i).toTarget = .ok (targets i) := by
  have someTarget : ∀ i, ∃ target, inside i → (chain.bits i).toTarget = .ok target := by
    intro i
    by_cases member : inside i
    · obtain ⟨target, declared⟩ := not_forall_not.mp (decodes i member)
      exact ⟨target, fun _ => declared⟩
    · exact ⟨.zero, fun within => absurd within member⟩
  choose targets declared using someTarget
  exact ⟨targets, declared⟩

theorem window_decodes_or_not (count : Nat) :
    (∃ i, chain.InWindow count i ∧ chain.Undecodable i ∧
      ∀ j, i < j → j ≤ chain.top → ¬ chain.Undecodable j) ∨
    ∃ targets, chain.DeclaresTargets count targets := by
  classical
  by_cases found : ∃ i, chain.InWindow count i ∧ chain.Undecodable i
  · left
    obtain ⟨i, member, undecodable⟩ := found
    refine ⟨Nat.findGreatest chain.Undecodable chain.top, ⟨?_, Nat.findGreatest_le _⟩, ?_, ?_⟩
    · exact Nat.le_trans member.1 (Nat.le_findGreatest member.2 undecodable)
    · exact Nat.findGreatest_spec member.2 undecodable
    · intro j above within
      exact Nat.findGreatest_is_greatest above within
  · right
    exact chain.targets_of_decodable (chain.InWindow count)
      (fun i member undecodable => found ⟨i, member, undecodable⟩)

theorem sum_window_step (count i : Nat) (total : Wide) (target : Target) (within : i < chain.top)
    (declared : (chain.bits (i + 1)).toTarget = .ok target) (available : chain.Available store i)
    (fits : total.toNat + (count + 1) * 2 ^ 256 ≤ 2 ^ 256 * 2 ^ 256) :
    ∃ sum, sumWindow store (count + 1) (chain.block (i + 1)) total = sumWindow store count (chain.block i) sum ∧
      sum.toNat = total.toNat + target.toNat := by
  obtain ⟨sum, added, value⟩ := target.add_widened_value total (by omega)
  have notGenesis := chain.genesis_at (i + 1) within
  have before := chain.require_before store i within available
  have decoded : (chain.block (i + 1)).header.target = .ok target := declared
  refine ⟨sum, ?_, value⟩
  rw [sumWindow, notGenesis, if_neg (by simp), decoded]
  simp only [added, before]

theorem sum_window_undecodable (count i j : Nat) (total : Wide) (within : i ≤ chain.top) (below : j ≤ i)
    (reached : i < j + count) (aboveGenesis : 1 ≤ j)
    (undecodable : ∀ target, (chain.bits j).toTarget ≠ .ok target)
    (decodes : ∀ k, j < k → k ≤ i → ∃ target, (chain.bits k).toTarget = .ok target)
    (available : ∀ k, j ≤ k → k < i → chain.Available store k)
    (fits : total.toNat + count * 2 ^ 256 ≤ 2 ^ 256 * 2 ^ 256) :
    sumWindow store count (chain.block i) total = .error (.malformedCompactBits (chain.bits j)) := by
  induction count generalizing i total with
  | zero => omega
  | succ count ih =>
      by_cases here : i = j
      · subst i
        have malformed : (chain.block j).header.target = .error (.malformedCompactBits (chain.bits j)) :=
          (chain.bits j).to_target_cases.resolve_left (fun ⟨target, declared⟩ => undecodable target declared)
        have notGenesis := chain.genesis_at j within
        rw [sumWindow, notGenesis, if_neg (by simp; omega), malformed]
      · obtain ⟨i, rfl⟩ := Nat.exists_eq_succ_of_ne_zero (show i ≠ 0 by omega)
        obtain ⟨target, declared⟩ := decodes (i + 1) (by omega) (Nat.le_refl _)
        have small := target.to_nat_lt
        obtain ⟨sum, step, value⟩ :=
          chain.sum_window_step store count i total target within declared (available i (by omega) (by omega)) fits
        rw [step]
        exact ih i sum (by omega) (by omega) (by omega) (fun k low high => decodes k low (by omega))
          (fun k low high => available k low (by omega)) (by omega)

theorem sum_window_short (count i : Nat) (total : Wide) (targets : Nat → Target) (within : i ≤ chain.top)
    (short : i < count) (decodes : ∀ k, 1 ≤ k → k ≤ i → (chain.bits k).toTarget = .ok (targets k))
    (available : ∀ k < i, chain.Available store k) (fits : total.toNat + count * 2 ^ 256 ≤ 2 ^ 256 * 2 ^ 256) :
    sumWindow store count (chain.block i) total = .ok none := by
  induction i generalizing count total with
  | zero =>
      obtain ⟨count, rfl⟩ := Nat.exists_eq_succ_of_ne_zero (show count ≠ 0 by omega)
      have genesis := chain.genesis_at 0 within
      rw [sumWindow, genesis, if_pos (by simp)]
  | succ i ih =>
      obtain ⟨count, rfl⟩ := Nat.exists_eq_succ_of_ne_zero (show count ≠ 0 by omega)
      have small := (targets (i + 1)).to_nat_lt
      obtain ⟨sum, step, value⟩ := chain.sum_window_step store count i total (targets (i + 1)) within
        (decodes (i + 1) (by omega) (Nat.le_refl _)) (available i (Nat.lt_succ_self i)) fits
      rw [Nat.succ_eq_add_one, step]
      exact ih count sum (by omega) (by omega) (fun k low high => decodes k low (by omega))
        (fun k high => available k (by omega)) (by omega)

theorem sum_window_full (count i : Nat) (total : Wide) (targets : Nat → Target) (within : i ≤ chain.top)
    (full : count ≤ i) (decodes : ∀ k, i - count < k → k ≤ i → (chain.bits k).toTarget = .ok (targets k))
    (available : ∀ k, i - count ≤ k → k < i → chain.Available store k)
    (fits : total.toNat + count * 2 ^ 256 ≤ 2 ^ 256 * 2 ^ 256) :
    ∃ sum, sumWindow store count (chain.block i) total = .ok (some ⟨sum, chain.block (i - count)⟩) ∧
      sum.toNat = total.toNat + ∑ k ∈ Finset.Ioc (i - count) i, (targets k).toNat := by
  induction count generalizing i total with
  | zero => exact ⟨total, rfl, by simp⟩
  | succ count ih =>
      obtain ⟨i, rfl⟩ := Nat.exists_eq_succ_of_ne_zero (show i ≠ 0 by omega)
      have small := (targets (i + 1)).to_nat_lt
      obtain ⟨sum, step, value⟩ := chain.sum_window_step store count i total (targets (i + 1)) within
        (decodes (i + 1) (by omega) (Nat.le_refl _)) (available i (by omega) (by omega)) fits
      obtain ⟨last, rest, lastValue⟩ := ih i sum (by omega) (by omega) (fun k low high => decodes k (by omega) (by omega))
        (fun k low high => available k (by omega) (by omega)) (by omega)
      have lowest : i + 1 - (count + 1) = i - count := by omega
      refine ⟨last, ?_, ?_⟩
      · rw [Nat.succ_eq_add_one, step, rest, lowest]
      · rw [lastValue, value, lowest, Finset.sum_Ioc_succ_top (Nat.sub_le i count)]
        omega

theorem tip_window_undecodable (count i : Nat) (small : count < 2 ^ 32) (complete : chain.Complete store)
    (member : chain.InWindow count i) (undecodable : chain.Undecodable i)
    (decodes : ∀ j, i < j → j ≤ chain.top → ¬ chain.Undecodable j) :
    sumWindow store count chain.tip 0 = .error (.malformedCompactBits (chain.bits i)) := by
  obtain ⟨low, high⟩ := member
  apply chain.sum_window_undecodable store count chain.top i 0 (Nat.le_refl _) high (by omega) (by omega) undecodable
  · intro k above within
    have decodable := decodes k above within
    simpa only [Undecodable, not_forall, not_not] using decodable
  · intro k _ within
    exact complete k (by omega)
  · rw [BitVec.ofNat_eq_ofNat, BitVec.toNat_zero]
    omega

theorem tip_window_short (count : Nat) (targets : Nat → Target) (small : count < 2 ^ 32)
    (complete : chain.Complete store) (declares : chain.DeclaresTargets count targets)
    (short : chain.top < count) : sumWindow store count chain.tip 0 = .ok none := by
  apply chain.sum_window_short store count chain.top 0 targets (Nat.le_refl _) short
  · intro k low high
    exact declares k ⟨by omega, high⟩
  · intro k within
    exact complete k (by omega)
  · rw [BitVec.ofNat_eq_ofNat, BitVec.toNat_zero]
    omega

theorem tip_window_full (count : Nat) (targets : Nat → Target) (nonempty : 1 ≤ count) (small : count < 2 ^ 32)
    (complete : chain.Complete store) (declares : chain.DeclaresTargets count targets)
    (full : count ≤ chain.top) :
    ∃ total, sumWindow store count chain.tip 0 = .ok (some ⟨total, chain.block (chain.top - count)⟩) ∧
      total.toNat = ∑ i ∈ Finset.Ioc (chain.top - count) chain.top, (targets i).toNat ∧
      total.toNat < count * 2 ^ 256 := by
  obtain ⟨total, found, value⟩ := chain.sum_window_full store count chain.top 0 targets (Nat.le_refl _) full
    (fun k low high => declares k ⟨by omega, high⟩) (fun k _ within => complete k (by omega))
    (by rw [BitVec.ofNat_eq_ofNat, BitVec.toNat_zero]; omega)
  rw [BitVec.ofNat_eq_ofNat, BitVec.toNat_zero, Nat.zero_add] at value
  refine ⟨total, found, value, ?_⟩
  have bound : ∑ i ∈ Finset.Ioc (chain.top - count) chain.top, (targets i).toNat ≤
      (Finset.Ioc (chain.top - count) chain.top).card • (2 ^ 256 - 1) :=
    Finset.sum_le_card_nsmul _ _ _ (fun i _ => Nat.le_pred_of_lt (targets i).to_nat_lt)
  have size : chain.top - (chain.top - count) = count := by omega
  rw [Nat.card_Ioc, size, smul_eq_mul] at bound
  omega

end ChainRules.LinearChain
