import ChainRules.Proofs.Difficulty.MedianTime
import Mathlib

set_option autoImplicit false

namespace ChainRules.LinearChain

section Agreement

variable {chain other : LinearChain} {j : Nat} {value : Int64}

def WithinAgreed (chain other : LinearChain) (j : Nat) (value : Int64) : Prop :=
  ∃ low ∈ medianHeights j, ∃ high ∈ medianHeights j,
    chain.time low = other.time low ∧ chain.time high = other.time high ∧
      chain.time low ≤ value ∧ value ≤ chain.time high

def alteredHeights (chain other : LinearChain) (j : Nat) : Finset Nat :=
  (medianHeights j).filter (fun i => chain.time i ≠ other.time i)

theorem altered_heights_symm (chain other : LinearChain) (j : Nat) :
    alteredHeights chain other j = alteredHeights other chain j :=
  Finset.filter_congr (fun _ _ => ne_comm)

theorem unaltered_among (chain other : LinearChain) (heights : Finset Nat) (inside : heights ⊆ medianHeights j)
    (more : (alteredHeights chain other j).card < heights.card) : ∃ i ∈ heights, chain.time i = other.time i := by
  obtain ⟨i, member, unaltered⟩ := Finset.exists_mem_notMem_of_card_lt_card more
  refine ⟨i, member, ?_⟩
  by_contra differs
  exact unaltered (Finset.mem_filter.mpr ⟨inside member, differs⟩)

theorem IsMiddleTime.within_agreed (middle : chain.IsMiddleTime j value)
    (few : (alteredHeights chain other j).card ≤ (medianCount j - 1) / 2) : WithinAgreed chain other j value := by
  have positive : 1 ≤ medianCount j := le_min (by decide) (Nat.succ_pos j)
  have enough := middle.notLater
  have many := middle.notEarlier
  obtain ⟨low, below, sameLow⟩ := unaltered_among chain other _
    (Finset.filter_subset (fun i => chain.time i ≤ value) (medianHeights j)) (by omega)
  obtain ⟨high, above, sameHigh⟩ := unaltered_among chain other _
    (Finset.filter_subset (fun i => value ≤ chain.time i) (medianHeights j)) (by omega)
  obtain ⟨lowMember, early⟩ := Finset.mem_filter.mp below
  obtain ⟨highMember, late⟩ := Finset.mem_filter.mp above
  exact ⟨low, lowMember, high, highMember, sameLow, sameHigh, early, late⟩

end Agreement

theorem IsMedianTime.of_perm {chain other : LinearChain} {j : Nat} {value : Int64} (median : chain.IsMedianTime j value)
    (rearranged : (other.latestTimes j (medianCount j)).Perm (chain.latestTimes j (medianCount j))) :
    other.IsMedianTime j value := by
  obtain ⟨sorted, arranged, ascending, ranked⟩ := median
  refine ⟨sorted, arranged.trans rearranged.symm, ascending, ?_⟩
  rw [latest_times_length] at ranked ⊢
  exact ranked

theorem median_time_past_robust (left right : LinearChain) (leftStore rightStore : BlockStore)
    (sameHeight : left.top = right.top) (leftComplete : left.Complete leftStore)
    (rightComplete : right.Complete rightStore) :
    ∃ a b, medianTimePast leftStore left.tip = .ok a ∧ medianTimePast rightStore right.tip = .ok b ∧
      ((alteredHeights left right left.top).card ≤ (medianCount left.top - 1) / 2 →
        WithinAgreed left right left.top a ∧ WithinAgreed right left left.top b) ∧
      ((∀ i ∈ medianHeights left.top, left.time i ≤ right.time i) → a ≤ b) ∧
      ((right.latestTimes left.top (medianCount left.top)).Perm (left.latestTimes left.top (medianCount left.top)) →
        a = b) := by
  obtain ⟨a, leftFound, leftMedian⟩ := left.median_time_past_at leftStore left.top (Nat.le_refl _)
    (fun i _ below => leftComplete i (Nat.le_of_lt below))
  obtain ⟨b, rightFound, rightMedian⟩ := right.median_time_past_at rightStore right.top (Nat.le_refl _)
    (fun i _ below => rightComplete i (Nat.le_of_lt below))
  rw [← sameHeight] at rightMedian
  refine ⟨a, b, leftFound, rightFound, fun few => ⟨?_, ?_⟩, fun before => ?_, fun rearranged => ?_⟩
  · exact leftMedian.middle.within_agreed few
  · exact rightMedian.middle.within_agreed (altered_heights_symm left right left.top ▸ few)
  · exact left.median_time_mono right left.top a b before leftMedian rightMedian
  · exact lower_median_unique _ a b (leftMedian.of_perm rearranged) rightMedian

def forged : LinearChain := steady.retimed (fun i => if i = 1 then Int64.maxValue else steady.time i)

def reversed : LinearChain := steady.retimed (fun i => steady.time (3 - i))

theorem median_time_past_robust_forged :
    steady.Complete steady.recorded ∧ forged.Complete forged.recorded ∧ reversed.Complete reversed.recorded ∧
      (alteredHeights steady forged 3).card ≤ 1 ∧ (∀ i ∈ medianHeights 3, steady.time i ≤ forged.time i) ∧
      ∃ honest moved : Int64, medianTimePast steady.recorded steady.tip = .ok honest ∧
        medianTimePast forged.recorded forged.tip = .ok moved ∧
        WithinAgreed forged steady 3 moved ∧ honest ≤ moved ∧
        medianTimePast reversed.recorded reversed.tip = .ok honest := by
  have few : (alteredHeights steady forged 3).card ≤ 1 := by decide
  have before : ∀ i ∈ medianHeights 3, steady.time i ≤ forged.time i := by decide
  obtain ⟨honest, moved, honestFound, movedFound, agreed, ordered, _⟩ := median_time_past_robust steady forged
    steady.recorded forged.recorded rfl steady.recorded_complete forged.recorded_complete
  obtain ⟨same, other, sameFound, otherFound, _, _, rearranged⟩ := median_time_past_robust steady reversed
    steady.recorded reversed.recorded rfl steady.recorded_complete reversed.recorded_complete
  obtain rfl : honest = same := Except.ok.inj (honestFound.symm.trans sameFound)
  obtain rfl : honest = other := rearranged (by decide)
  exact ⟨steady.recorded_complete, forged.recorded_complete, reversed.recorded_complete, few, before, honest, moved,
    honestFound, movedFound, (agreed few).2, ordered before, otherFound⟩

end ChainRules.LinearChain
