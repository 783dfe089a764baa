import ChainRules.Difficulty.MedianTime
import Mathlib

set_option autoImplicit false

namespace ChainRules

theorem insert_ascending_eq_ordered_insert (time : Int64) (times : List Int64) :
    insertAscending time times = times.orderedInsert (· ≤ ·) time := by
  induction times with
  | nil => rfl
  | cons first rest ih => rw [insertAscending, List.orderedInsert_cons, ih]

theorem sort_ascending_eq_insertion_sort (times : List Int64) : sortAscending times = times.insertionSort (· ≤ ·) := by
  induction times with
  | nil => rfl
  | cons time rest ih => rw [sortAscending, List.insertionSort_cons, ih, insert_ascending_eq_ordered_insert]

theorem sort_ascending_length (times : List Int64) : (sortAscending times).length = times.length := by
  rw [sort_ascending_eq_insertion_sort, List.length_insertionSort]

def IsLowerMedian (times : List Int64) (value : Int64) : Prop :=
  ∃ sorted : List Int64, sorted.Perm times ∧ sorted.Pairwise (· ≤ ·) ∧
    sorted[(times.length - 1) / 2]? = some value

theorem lower_median_unique (times : List Int64) (a b : Int64) (left : IsLowerMedian times a)
    (right : IsLowerMedian times b) : a = b := by
  obtain ⟨sortedA, permA, orderedA, atA⟩ := left
  obtain ⟨sortedB, permB, orderedB, atB⟩ := right
  have same : sortedA = sortedB :=
    (permA.trans permB.symm).eq_of_pairwise (fun _ _ _ _ => Int64.le_antisymm) orderedA orderedB
  rw [same, atB] at atA
  exact (Option.some.inj atA).symm

theorem lower_median_exists (times : List Int64) (nonempty : times ≠ []) :
    ∃ value, lowerMedian times = .ok value ∧ IsLowerMedian times value := by
  have positive := List.length_pos_iff.mpr nonempty
  have middle : (times.length - 1) / 2 < (sortAscending times).length := by
    rw [sort_ascending_length]
    omega
  have access := List.getElem?_eq_getElem middle
  refine ⟨(sortAscending times)[(times.length - 1) / 2], ?_, sortAscending times, ?_, ?_, access⟩
  · simp only [lowerMedian, access]
  · rw [sort_ascending_eq_insertion_sort]
    exact List.perm_insertionSort _ times
  · rw [sort_ascending_eq_insertion_sort]
    exact List.pairwise_insertionSort _ times

theorem rank_counts (sorted : List Int64) (rank : Nat) (value : Int64) (ascending : sorted.Pairwise (· ≤ ·))
    (ranked : sorted[rank]? = some value) :
    rank < sorted.countP (· ≤ value) ∧ sorted.countP (· < value) ≤ rank := by
  induction sorted generalizing rank with
  | nil => cases ranked
  | cons first rest ih =>
      obtain ⟨least, ordered⟩ := List.pairwise_cons.mp ascending
      cases rank with
      | zero =>
          obtain rfl : first = value := Option.some.inj ranked
          have noneBelow : rest.countP (· < first) = 0 := by
            rw [List.countP_eq_zero]
            intro other member
            simpa using least other member
          simp [noneBelow]
      | succ rank =>
          have later : rest[rank]? = some value := ranked
          have firstLe := least value (List.mem_of_getElem? later)
          obtain ⟨enough, few⟩ := ih rank ordered later
          rw [List.countP_cons, List.countP_cons, if_pos (decide_eq_true firstLe)]
          split <;> omega

theorem IsLowerMedian.counts {times : List Int64} {value : Int64} (median : IsLowerMedian times value) :
    (times.length - 1) / 2 < times.countP (· ≤ value) ∧ times.countP (· < value) ≤ (times.length - 1) / 2 := by
  obtain ⟨sorted, arranged, ascending, ranked⟩ := median
  have counts := rank_counts sorted _ value ascending ranked
  rwa [arranged.countP_eq, arranged.countP_eq] at counts

-- Were the later median smaller, more than half of the earlier times would be below the earlier median.
theorem lower_median_mono {α : Type} (indices : List α) (earlier later : α → Int64) (a b : Int64)
    (before : ∀ i ∈ indices, earlier i ≤ later i) (left : IsLowerMedian (indices.map earlier) a)
    (right : IsLowerMedian (indices.map later) b) : a ≤ b := by
  by_contra less
  have few := left.counts.2
  have many := right.counts.1
  rw [List.countP_map, List.length_map] at few many
  have moved : indices.countP ((· ≤ b) ∘ later) ≤ indices.countP ((· < a) ∘ earlier) := by
    apply List.countP_mono_left
    intro i member small
    simp only [Function.comp_apply, decide_eq_true_eq] at small ⊢
    exact Int64.lt_of_le_of_lt (Int64.le_trans (before i member) small) (Int64.not_le.mp less)
  omega

end ChainRules
