import ChainRules.Proofs.Difficulty.Ancestors
import Mathlib

set_option autoImplicit false

namespace ChainRules.LinearChain

variable (chain : LinearChain) (store : BlockStore)

structure IsMiddleTime (j : Nat) (value : Int64) : Prop where
  timed : ∃ i ∈ medianHeights j, chain.time i = value
  notLater : (medianCount j - 1) / 2 + 1 ≤ ((medianHeights j).filter (fun i => chain.time i ≤ value)).card
  notEarlier : medianCount j - (medianCount j - 1) / 2 ≤
    ((medianHeights j).filter (fun i => value ≤ chain.time i)).card

theorem median_heights_card (j : Nat) : (medianHeights j).card = medianCount j := by
  have within := median_count_le j
  rw [medianHeights, Nat.card_Icc]
  omega

theorem latest_times_length (j count : Nat) : (chain.latestTimes j count).length = count := by
  rw [latestTimes, List.length_map, List.length_range]

theorem mem_latest_times (j count : Nat) (within : count ≤ j + 1) (value : Int64)
    (member : value ∈ chain.latestTimes j count) : ∃ i ∈ Finset.Icc (j + 1 - count) j, chain.time i = value := by
  obtain ⟨back, near, timed⟩ := List.mem_map.mp member
  have below := List.mem_range.mp near
  exact ⟨j - back, Finset.mem_Icc.mpr ⟨by omega, Nat.sub_le j back⟩, timed⟩

theorem latest_times_count (j count : Nat) (within : count ≤ j + 1) (property : Int64 → Prop)
    [DecidablePred property] :
    (chain.latestTimes j count).countP (fun time => property time) =
      ((Finset.Icc (j + 1 - count) j).filter (fun i => property (chain.time i))).card := by
  induction count with
  | zero => simp [latestTimes]
  | succ count ih =>
      have earlier : Finset.Icc (j + 1 - (count + 1)) j = insert (j - count) (Finset.Icc (j + 1 - count) j) := by
        ext i
        simp only [Finset.mem_insert, Finset.mem_Icc]
        omega
      have fresh : j - count ∉ Finset.Icc (j + 1 - count) j := by
        rw [Finset.mem_Icc]
        omega
      have oldest : chain.latestTimes j (count + 1) = chain.latestTimes j count ++ [chain.time (j - count)] := by
        simp only [latestTimes, List.range_succ, List.map_append, List.map_cons, List.map_nil]
      rw [oldest, List.countP_append, ih (by omega), earlier, Finset.filter_insert, List.countP_singleton]
      by_cases holds : property (chain.time (j - count))
      · rw [if_pos holds, if_pos (decide_eq_true holds), Finset.card_insert_of_notMem]
        exact fun member => fresh (Finset.mem_filter.mp member).1
      · rw [if_neg holds, if_neg (by simpa using holds), Nat.add_zero]

theorem IsMedianTime.middle {chain : LinearChain} {j : Nat} {value : Int64} (median : chain.IsMedianTime j value) :
    chain.IsMiddleTime j value := by
  have within := median_count_le j
  have length : (chain.latestTimes j (medianCount j)).length = medianCount j := chain.latest_times_length j _
  have counts : IsLowerMedian (chain.latestTimes j (medianCount j)) value := median
  obtain ⟨below, less⟩ := counts.counts
  obtain ⟨sorted, arranged, _, ranked⟩ := counts
  have split := List.length_eq_countP_add_countP (fun time => decide (time < value))
    (l := chain.latestTimes j (medianCount j))
  rw [length] at below less split
  refine ⟨?_, ?_, ?_⟩
  · exact chain.mem_latest_times j _ within value (arranged.mem_iff.mp (List.mem_of_getElem? ranked))
  · rw [medianHeights, ← chain.latest_times_count j _ within (· ≤ value)]
    exact below
  · rw [medianHeights, ← chain.latest_times_count j _ within (value ≤ ·)]
    simp only [decide_eq_true_eq, Int64.not_lt] at split
    omega

-- Were it greater, the times at or above it and those at or below the other would be more than there are.
theorem IsMiddleTime.le {chain : LinearChain} {j : Nat} {a b : Int64} (left : chain.IsMiddleTime j a)
    (right : chain.IsMiddleTime j b) : a ≤ b := by
  by_contra less
  have apart : Disjoint ((medianHeights j).filter (fun i => chain.time i ≤ b))
      ((medianHeights j).filter (fun i => a ≤ chain.time i)) := by
    rw [Finset.disjoint_filter]
    exact fun i _ small large => less (Int64.le_trans large small)
  have together := Finset.card_le_card (Finset.union_subset
    (Finset.filter_subset (fun i => chain.time i ≤ b) (medianHeights j))
    (Finset.filter_subset (fun i => a ≤ chain.time i) (medianHeights j)))
  rw [Finset.card_union_of_disjoint apart, median_heights_card] at together
  have enough := right.notLater
  have many := left.notEarlier
  omega

theorem IsMiddleTime.unique {chain : LinearChain} {j : Nat} {a b : Int64} (left : chain.IsMiddleTime j a)
    (right : chain.IsMiddleTime j b) : a = b :=
  Int64.le_antisymm (left.le right) (right.le left)

def MedianAvailable : Prop := ∀ i ∈ medianHeights chain.top, i < chain.top → chain.Available store i

section Walk

variable (faithful : chain.AncestorsFaithful store)

include faithful

theorem recent_timestamps_or_lost (count j : Nat) (within : j ≤ chain.top) :
    (∀ i, j - count ≤ i → i < j → chain.Available store i) ∨
      ∃ i failure, j - count ≤ i ∧ i < j ∧ chain.Lost store i failure ∧
        recentTimestamps store count (chain.block j) = .error (.ancestorLookupFailed failure) := by
  rw [recent_timestamps_ancestry]
  rcases chain.ancestry_or_lost store faithful count j within with available | ⟨i, failure, low, high, lost, failed⟩
  · exact .inl available
  · exact .inr ⟨i, failure, low, high, lost, by rw [failed]; rfl⟩

theorem median_time_past_or_lost :
    (chain.MedianAvailable store ∧
      ∃ value, medianTimePast store chain.tip = .ok value ∧ chain.IsMiddleTime chain.top value) ∨
      ∃ i failure, i ∈ medianHeights chain.top ∧ i < chain.top ∧ chain.Lost store i failure ∧
        medianTimePast store chain.tip = .error (.ancestorLookupFailed failure) := by
  have heights : ∀ i, i < chain.top →
      (i ∈ medianHeights chain.top ↔ chain.top - (Constants.medianTimeSpan - 1) ≤ i) := by
    intro i below
    rw [medianHeights, medianCount, Finset.mem_Icc, Constants.medianTimeSpan]
    omega
  rcases chain.recent_timestamps_or_lost store faithful (Constants.medianTimeSpan - 1) chain.top (Nat.le_refl _) with
    available | ⟨i, failure, low, high, lost, failed⟩
  · obtain ⟨value, found, median⟩ := chain.median_time_past_at store chain.top (Nat.le_refl _) available
    exact .inl ⟨fun i member below => available i ((heights i below).mp member) below, value, found, median.middle⟩
  · refine .inr ⟨i, failure, (heights i high).mpr low, high, lost, ?_⟩
    have walked : recentTimestamps store (Constants.medianTimeSpan - 1) chain.tip = _ := failed
    rw [median_time_past_steps, walked]
    rfl

theorem median_time_past_exact :
    ((∃ value, medianTimePast store chain.tip = .ok value) ↔ chain.MedianAvailable store) ∧
    (∀ value, medianTimePast store chain.tip = .ok value ↔
      chain.MedianAvailable store ∧ chain.IsMiddleTime chain.top value) ∧
    (¬ chain.MedianAvailable store →
      ∃ i failure, i ∈ medianHeights chain.top ∧ i < chain.top ∧ chain.Lost store i failure ∧
        medianTimePast store chain.tip = .error (.ancestorLookupFailed failure)) := by
  rcases chain.median_time_past_or_lost store faithful with
    ⟨available, value, found, middle⟩ | ⟨i, failure, member, below, lost, failed⟩
  · rw [found]
    refine ⟨iff_of_true ⟨value, rfl⟩ available, fun other => ?_, fun missing => absurd available missing⟩
    rw [Except.ok.injEq]
    exact ⟨fun same => ⟨available, same ▸ middle⟩, fun also => middle.unique also.2⟩
  · have missing : ¬ chain.MedianAvailable store := fun available => lost.unavailable (available i member below)
    rw [failed]
    exact ⟨by simp [missing], by simp [missing], fun _ => ⟨i, failure, member, below, lost, rfl⟩⟩

end Walk

section Garbled

open ChainParameters

theorem median_time_past_exact_garbled :
    garbled.AncestorsFaithful (garbledWithout 3) ∧ ¬ garbled.Available (garbledWithout 3) 3 ∧
      garbled.IsMiddleTime 3 150 ∧ medianTimePast (garbledWithout 3) garbled.tip = .ok 150 ∧
      garbled.AncestorsFaithful (garbledWithout 1) ∧
      ∃ failure, medianTimePast (garbledWithout 1) garbled.tip = .error (.ancestorLookupFailed failure) := by
  have available : garbled.MedianAvailable (garbledWithout 3) := by
    unfold MedianAvailable Available
    decide +kernel
  have missing : ∀ i ≤ 3, ¬ garbled.Available (garbledWithout i) i := by
    unfold Available
    decide +kernel
  have middle : garbled.IsMiddleTime 3 150 := ⟨⟨1, by decide, by decide⟩, by decide, by decide⟩
  obtain ⟨_, valued, _⟩ := median_time_past_exact garbled (garbledWithout 3) (garbled_without_faithful 3).ancestors
  obtain ⟨_, _, lost⟩ := median_time_past_exact garbled (garbledWithout 1) (garbled_without_faithful 1).ancestors
  obtain ⟨_, failure, _, _, _, failed⟩ := lost (fun all => missing 1 (by decide) (all 1 (by decide) (by decide)))
  exact ⟨(garbled_without_faithful 3).ancestors, missing 3 (by decide), middle, (valued 150).mpr ⟨available, middle⟩,
    (garbled_without_faithful 1).ancestors, failure, failed⟩

end Garbled

end ChainRules.LinearChain
