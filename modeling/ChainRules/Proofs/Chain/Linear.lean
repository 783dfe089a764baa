import ChainRules.Proofs.Difficulty.Median
import Mathlib

set_option autoImplicit false

namespace ChainRules

-- The blocks above the top are of no account; a function spares every statement the bounds of an index.
structure LinearChain where
  block : Nat → StoredBlock
  top : Nat
  heights : ∀ i ≤ top, (block i).height.toNat = i
  linked : ∀ i < top, (block (i + 1)).header.previous = (block i).hash
  distinct : ∀ i ≤ top, ∀ j ≤ top, (block i).hash = (block j).hash → i = j

namespace LinearChain

variable (chain : LinearChain) (store : BlockStore)

def tip : StoredBlock := chain.block chain.top

def bits (i : Nat) : CompactBits := (chain.block i).header.bits

def time (i : Nat) : Int64 := (chain.block i).header.timestamp

def Available (i : Nat) : Prop := store.get (chain.block i).hash = .ok (some (chain.block i))

def Complete : Prop := ∀ i ≤ chain.top, chain.Available store i

def latestTimes (j count : Nat) : List Int64 := (List.range count).map (fun back => chain.time (j - back))

def medianCount (j : Nat) : Nat := min Constants.medianTimeSpan (j + 1)

def IsMedianTime (j : Nat) (value : Int64) : Prop := IsLowerMedian (chain.latestTimes j (medianCount j)) value

def medianHeights (j : Nat) : Finset Nat := Finset.Icc (j + 1 - medianCount j) j

theorem median_count_le (j : Nat) : medianCount j ≤ j + 1 := Nat.min_le_right _ _

theorem latest_times_succ (j count : Nat) :
    chain.latestTimes (j + 1) (count + 1) = chain.time (j + 1) :: chain.latestTimes j count := by
  simp only [latestTimes, List.range_succ_eq_map, List.map_cons, List.map_map, Nat.sub_zero]
  congr 1
  apply List.map_congr_left
  intro back _
  simp only [Function.comp_apply, Nat.succ_eq_add_one, Nat.add_sub_add_right]

theorem genesis_at (i : Nat) (within : i ≤ chain.top) : (chain.block i).isGenesis = decide (i = 0) := by
  have height := chain.heights i within
  rw [StoredBlock.isGenesis, decide_eq_decide, ← UInt32.toNat_inj, height]
  rfl

theorem require_at (i : Nat) (available : chain.Available store i) :
    store.requireBlock (chain.block i).hash = .ok (chain.block i) := by
  rw [BlockStore.requireBlock, available]
  rfl

theorem require_before (i : Nat) (within : i < chain.top) (available : chain.Available store i) :
    store.requirePrevious (chain.block (i + 1)) = .ok (chain.block i) := by
  rw [BlockStore.requirePrevious, BlockStore.getPrevious, chain.linked i within, available]
  rfl

theorem recent_timestamps_at (count j : Nat) (within : j ≤ chain.top)
    (available : ∀ i, j - count ≤ i → i < j → chain.Available store i) :
    recentTimestamps store count (chain.block j) = .ok (chain.latestTimes j (min (count + 1) (j + 1))) := by
  induction count generalizing j with
  | zero => simp [recentTimestamps, latestTimes, time]
  | succ count ih =>
      rw [recentTimestamps, chain.genesis_at j within]
      cases j with
      | zero => simp [latestTimes, time]
      | succ j =>
          have before := chain.require_before store j within (available j (by omega) (by omega))
          have rest := ih j (by omega) (fun i low high => available i (by omega) (by omega))
          rw [if_neg (by simp), before, Nat.add_min_add_right, chain.latest_times_succ]
          simp only [rest, Except.map, time]

theorem median_time_past_at (j : Nat) (within : j ≤ chain.top)
    (available : ∀ i, j - (Constants.medianTimeSpan - 1) ≤ i → i < j → chain.Available store i) :
    ∃ median, medianTimePast store (chain.block j) = .ok median ∧ chain.IsMedianTime j median := by
  have times := chain.recent_timestamps_at store (Constants.medianTimeSpan - 1) j within available
  have nonempty : chain.latestTimes j (min Constants.medianTimeSpan (j + 1)) ≠ [] := by
    simp [latestTimes, Constants.medianTimeSpan]
  obtain ⟨median, found, middle⟩ := lower_median_exists _ nonempty
  refine ⟨median, ?_, middle⟩
  have span : Constants.medianTimeSpan - 1 + 1 = Constants.medianTimeSpan := rfl
  rw [span] at times
  simp only [medianTimePast, times, found, Except.mapError]

theorem median_time_mono (early late : LinearChain) (j : Nat) (a b : Int64)
    (before : ∀ i ∈ medianHeights j, early.time i ≤ late.time i) (left : early.IsMedianTime j a)
    (right : late.IsMedianTime j b) : a ≤ b := by
  have within := median_count_le j
  refine lower_median_mono (List.range (medianCount j)) _ _ a b (fun back member => ?_) left right
  have near := List.mem_range.mp member
  exact before (j - back) (Finset.mem_Icc.mpr ⟨by omega, Nat.sub_le j back⟩)

def single (block : StoredBlock) (genesis : block.height = 0) : LinearChain where
  block := fun _ => block
  top := 0
  heights := by
    intro i within
    rw [Nat.le_zero.mp within, genesis]
    rfl
  linked := fun i below => absurd below (Nat.not_lt_zero i)
  distinct := fun i left j right _ => (Nat.le_zero.mp left).trans (Nat.le_zero.mp right).symm

def extend (next : StoredBlock) (height : next.height.toNat = chain.top + 1)
    (link : next.header.previous = chain.tip.hash)
    (fresh : ∀ i ≤ chain.top, (chain.block i).hash ≠ next.hash) : LinearChain where
  block i := if i ≤ chain.top then chain.block i else next
  top := chain.top + 1
  heights := by
    intro i within
    by_cases old : i ≤ chain.top
    · rw [if_pos old, chain.heights i old]
    · rw [if_neg old, height]
      omega
  linked := by
    intro i within
    by_cases last : i = chain.top
    · rw [if_neg (by omega), if_pos (Nat.le_of_eq last), link, last]
      rfl
    · rw [if_pos (by omega), if_pos (by omega), chain.linked i (by omega)]
  distinct := by
    intro i left j right same
    by_cases oldLeft : i ≤ chain.top
    · by_cases oldRight : j ≤ chain.top
      · rw [if_pos oldLeft, if_pos oldRight] at same
        exact chain.distinct i oldLeft j oldRight same
      · rw [if_pos oldLeft, if_neg oldRight] at same
        exact absurd same (fresh i oldLeft)
    · by_cases oldRight : j ≤ chain.top
      · rw [if_neg oldLeft, if_pos oldRight] at same
        exact absurd same.symm (fresh j oldRight)
      · omega

section Extend

variable (next : StoredBlock) (height : next.height.toNat = chain.top + 1)
  (link : next.header.previous = chain.tip.hash) (fresh : ∀ i ≤ chain.top, (chain.block i).hash ≠ next.hash)

theorem extend_top : (chain.extend next height link fresh).top = chain.top + 1 := rfl

theorem extend_old (i : Nat) (old : i ≤ chain.top) :
    (chain.extend next height link fresh).block i = chain.block i := if_pos old

theorem extend_next : (chain.extend next height link fresh).block (chain.top + 1) = next :=
  if_neg (Nat.not_succ_le_self chain.top)

end Extend

def upTo (i : Nat) (within : i ≤ chain.top) : LinearChain where
  block := chain.block
  top := i
  heights := fun j below => chain.heights j (Nat.le_trans below within)
  linked := fun j below => chain.linked j (Nat.lt_of_lt_of_le below within)
  distinct := fun j left k right => chain.distinct j (Nat.le_trans left within) k (Nat.le_trans right within)

theorem up_to_complete (i : Nat) (within : i ≤ chain.top) (complete : chain.Complete store) :
    (chain.upTo i within).Complete store :=
  fun j below => complete j (Nat.le_trans below within)

def retimed (times : Nat → Int64) : LinearChain where
  block i := { chain.block i with header := { (chain.block i).header with timestamp := times i } }
  top := chain.top
  heights := chain.heights
  linked := chain.linked
  distinct := chain.distinct

def recorded : BlockStore :=
  ⟨fun hash => .ok (((List.range (chain.top + 1)).map chain.block).find? (fun block => block.hash = hash))⟩

theorem recorded_complete : chain.Complete chain.recorded := by
  intro i within
  have member : chain.block i ∈ (List.range (chain.top + 1)).map chain.block :=
    List.mem_map_of_mem (List.mem_range.mpr (Nat.lt_succ_of_le within))
  show Except.ok (((List.range (chain.top + 1)).map chain.block).find? _) = _
  cases held : ((List.range (chain.top + 1)).map chain.block).find?
      (fun block => block.hash = (chain.block i).hash) with
  | none =>
      have missed := List.find?_eq_none.mp held _ member
      simp at missed
  | some found =>
      have same : found.hash = (chain.block i).hash := by simpa using List.find?_some held
      obtain ⟨j, below, rfl⟩ := List.mem_map.mp (List.mem_of_find?_eq_some held)
      rw [chain.distinct j (Nat.le_of_lt_succ (List.mem_range.mp below)) i within same]

def steadyBlock (i : Nat) : StoredBlock :=
  ⟨⟨1, .ofNumber i, .zero, Int64.ofNat (150 * i), ⟨0x200f0f0f⟩, .zero, .ofNumber (i + 1)⟩, UInt32.ofNat i⟩

def steady : LinearChain where
  block := steadyBlock
  top := 3
  heights := by decide
  linked := by decide
  distinct := by decide +kernel

def steadyStore : BlockStore :=
  ⟨fun hash => .ok ((List.range 4).map steadyBlock |>.find? (fun block => block.hash = hash))⟩

theorem steady_complete : steady.Complete steadyStore := by
  unfold Complete Available
  decide +kernel

end LinearChain

end ChainRules
