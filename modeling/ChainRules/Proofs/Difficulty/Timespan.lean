import ChainRules.Difficulty.Retarget
import Mathlib

set_option autoImplicit false

namespace ChainRules

theorem of_int_clamp_value (n : Int) : (Int64.ofIntClamp n).toInt = max (-2 ^ 63) (min n (2 ^ 63 - 1)) := by
  have lowest := Int64.toInt_minValue
  have highest := Int64.toInt_maxValue
  unfold Int64.ofIntClamp
  by_cases low : Int64.minValue.toInt ≤ n
  · by_cases high : n ≤ Int64.maxValue.toInt
    · rw [dif_pos low, dif_pos high, Int64.toInt_ofIntLE]
      omega
    · rw [dif_pos low, dif_neg high]
      omega
  · rw [dif_neg low]
    omega

theorem saturating_sub_value (a b : Int64) :
    (saturatingSub a b).toInt = max (-2 ^ 63) (min (a.toInt - b.toInt) (2 ^ 63 - 1)) :=
  of_int_clamp_value _

theorem saturating_sub_mono (short long first : Int64) (le : short ≤ long) :
    saturatingSub short first ≤ saturatingSub long first := by
  rw [Int64.le_iff_toInt_le] at le ⊢
  rw [saturating_sub_value, saturating_sub_value]
  exact max_le_max_left _ (min_le_min_right _ (Int.sub_le_sub_right le _))

-- Saturating twice is exact, or both the exact deviation and the one that saturates are far out on the same side.
theorem saturated_deviation (last first nominal : Int64) (positive : 0 < nominal.toInt)
    (small : nominal.toInt ≤ 2 ^ 60) :
    (saturatingSub (saturatingSub last first) nominal).toInt = last.toInt - first.toInt - nominal.toInt ∨
      (2 ^ 62 ≤ last.toInt - first.toInt - nominal.toInt ∧
        2 ^ 62 ≤ (saturatingSub (saturatingSub last first) nominal).toInt) ∨
      (last.toInt - first.toInt - nominal.toInt ≤ -2 ^ 62 ∧
        (saturatingSub (saturatingSub last first) nominal).toInt ≤ -2 ^ 62) := by
  have elapsed := saturating_sub_value last first
  have deviation := saturating_sub_value (saturatingSub last first) nominal
  rcases Int.lt_or_le (last.toInt - first.toInt) (2 ^ 63) with below | above
  · rcases Int.lt_or_le (last.toInt - first.toInt - nominal.toInt) (-2 ^ 63) with under | within
    · exact .inr (.inr ⟨by omega, by omega⟩)
    · exact .inl (by omega)
  · exact .inr (.inl ⟨by omega, by omega⟩)

theorem max_value (a b : Int64) : (max a b).toInt = max a.toInt b.toInt := by
  change (if a ≤ b then b else a).toInt = _
  by_cases less : a ≤ b
  · rw [if_pos less, max_eq_right (Int64.le_iff_toInt_le.mp less)]
  · rw [if_neg less, max_eq_left]
    exact Int.le_of_not_le (fun le => less (Int64.le_iff_toInt_le.mpr le))

theorem min_value (a b : Int64) : (min a b).toInt = min a.toInt b.toInt := by
  change (if a ≤ b then a else b).toInt = _
  by_cases less : a ≤ b
  · rw [if_pos less, min_eq_left (Int64.le_iff_toInt_le.mp less)]
  · rw [if_neg less, min_eq_right]
    exact Int.le_of_not_le (fun le => less (Int64.le_iff_toInt_le.mpr le))

theorem quarter_value (n : Int64) : (n / 4).toInt = n.toInt.tdiv 4 :=
  Int64.toInt_div_of_ne_right n 4 (by decide)

-- Truncated division stated by floor division, which `omega` understands.
theorem quarter_cases (n : Int) : 0 ≤ n ∧ n.tdiv 4 = n / 4 ∨ n < 0 ∧ n.tdiv 4 = -(-n / 4) := by
  rcases Int.lt_or_le n 0 with negative | nonneg
  · right
    refine ⟨negative, ?_⟩
    rw [← Int.tdiv_eq_ediv_of_nonneg (by omega : 0 ≤ -n), Int.neg_tdiv, Int.neg_neg]
  · exact .inl ⟨nonneg, Int.tdiv_eq_ediv_of_nonneg nonneg⟩

theorem checked_add_value (a b : Int64) (low : -2 ^ 63 ≤ a.toInt + b.toInt) (high : a.toInt + b.toInt < 2 ^ 63) :
    ∃ sum, checkedAdd a b = .ok sum ∧ sum.toInt = a.toInt + b.toInt := by
  refine ⟨Int64.ofInt (a.toInt + b.toInt), if_pos ⟨?_, ?_⟩, Int64.toInt_ofInt_of_le low high⟩
  · rw [Int64.toInt_minValue]
    exact low
  · rw [Int64.toInt_maxValue]
    omega

theorem damped_value (nominal actual : Int64) :
    ∃ damped, checkedAdd nominal (saturatingSub actual nominal / 4) = .ok damped ∧
      damped.toInt = nominal.toInt + (saturatingSub actual nominal).toInt.tdiv 4 := by
  have saturated := saturating_sub_value actual nominal
  have quarter := quarter_cases (saturatingSub actual nominal).toInt
  have damping := quarter_value (saturatingSub actual nominal)
  have lower := actual.le_toInt
  have upper := actual.toInt_lt
  have nominalLower := nominal.le_toInt
  have nominalUpper := nominal.toInt_lt
  obtain ⟨damped, added, value⟩ := checked_add_value nominal (saturatingSub actual nominal / 4) (by omega) (by omega)
  exact ⟨damped, added, damping ▸ value⟩

theorem unsigned_value (n : Int64) (nonneg : 0 ≤ n.toInt) : (n.toUInt64.toNat : Int) = n.toInt := by
  have zero : (0 : Int64) ≤ n := Int64.le_iff_toInt_le.mpr nonneg
  rw [Int64.toNat_toUInt64_of_le zero]
  exact Int.toNat_of_nonneg nonneg

namespace ChainParameters

theorem counted_timespan_value (params : ChainParameters) (actual : Int64) :
    ∃ counted, params.countedTimespan actual = .ok counted ∧
      counted.toInt =
        min (max (params.averagingWindowTimespan.toInt +
          (saturatingSub actual params.averagingWindowTimespan).toInt.tdiv 4) params.minActualTimespan.toInt)
          params.maxActualTimespan.toInt := by
  obtain ⟨damped, added, value⟩ := damped_value params.averagingWindowTimespan actual
  refine ⟨min (max damped params.minActualTimespan) params.maxActualTimespan, ?_, ?_⟩
  · simp only [countedTimespan, added, Except.map]
  · rw [min_value, max_value, value]

theorem counted_timespan_mono (params : ChainParameters) (short long countedShort countedLong : Int64) (le : short ≤ long)
    (shortAnswer : params.countedTimespan short = .ok countedShort)
    (longAnswer : params.countedTimespan long = .ok countedLong) : countedShort.toInt ≤ countedLong.toInt := by
  obtain ⟨_, answer, shortValue⟩ := params.counted_timespan_value short
  obtain rfl := Except.ok.inj (shortAnswer.symm.trans answer)
  obtain ⟨_, answer, longValue⟩ := params.counted_timespan_value long
  obtain rfl := Except.ok.inj (longAnswer.symm.trans answer)
  rw [shortValue, longValue]
  have deviation := Int64.le_iff_toInt_le.mp (saturating_sub_mono short long params.averagingWindowTimespan le)
  exact min_le_min_right _ (max_le_max_right _ (Int.add_le_add_left (Int.tdiv_le_tdiv (by decide) deviation) _))

theorem counted_timespan_nonneg (params : ChainParameters) (actual counted : Int64) (minNonneg : 0 ≤ params.minActualTimespan.toInt)
    (maxNonneg : 0 ≤ params.maxActualTimespan.toInt) (answer : params.countedTimespan actual = .ok counted) :
    0 ≤ counted.toInt := by
  obtain ⟨_, found, value⟩ := params.counted_timespan_value actual
  obtain rfl := Except.ok.inj (answer.symm.trans found)
  rw [value]
  exact le_min (le_max_of_le_right minNonneg) maxNonneg

theorem counted_timespan_within (params : ChainParameters) (actual counted : Int64)
    (ordered : params.minActualTimespan.toInt ≤ params.maxActualTimespan.toInt)
    (answer : params.countedTimespan actual = .ok counted) :
    params.minActualTimespan.toInt ≤ counted.toInt ∧ counted.toInt ≤ params.maxActualTimespan.toInt := by
  obtain ⟨_, found, value⟩ := params.counted_timespan_value actual
  obtain rfl := Except.ok.inj (answer.symm.trans found)
  rw [value]
  exact ⟨le_min (le_max_right _ _) ordered, min_le_right _ _⟩

theorem counted_timespan_exact (params : ChainParameters) (last first : Int64)
    (positive : 0 < params.averagingWindowTimespan.toInt) (small : params.averagingWindowTimespan.toInt ≤ 2 ^ 60)
    (minNonneg : 0 ≤ params.minActualTimespan.toInt)
    (ordered : params.minActualTimespan.toInt ≤ params.maxActualTimespan.toInt)
    (maxSmall : params.maxActualTimespan.toInt ≤ 2 ^ 60) :
    ∃ counted, params.countedTimespan (saturatingSub last first) = .ok counted ∧
      counted.toInt =
        max params.minActualTimespan.toInt (min params.maxActualTimespan.toInt
          (params.averagingWindowTimespan.toInt +
            (last.toInt - first.toInt - params.averagingWindowTimespan.toInt).tdiv 4)) := by
  obtain ⟨counted, answer, value⟩ := params.counted_timespan_value (saturatingSub last first)
  refine ⟨counted, answer, value.trans ?_⟩
  have exactQuarter := quarter_cases (last.toInt - first.toInt - params.averagingWindowTimespan.toInt)
  have wordQuarter := quarter_cases
    (saturatingSub (saturatingSub last first) params.averagingWindowTimespan).toInt
  rcases saturated_deviation last first params.averagingWindowTimespan positive small with
    exact | ⟨exactHigh, wordHigh⟩ | ⟨exactLow, wordLow⟩
  · rw [exact, max_comm, max_min_distrib_left, min_comm, max_eq_right ordered]
  -- Far out on either side, both formulas are at the same bound of the clamp.
  · rw [min_eq_right (by omega), min_eq_left (by omega), max_eq_right ordered]
  · rw [max_eq_right (by omega), min_eq_left ordered, min_eq_right (by omega), max_eq_left (by omega)]

end ChainParameters

end ChainRules
