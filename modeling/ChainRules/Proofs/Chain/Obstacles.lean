import ChainRules.Proofs.Chain.Window
import ChainRules.Proofs.Difficulty.Answers
import Mathlib

set_option autoImplicit false

/-!
Linear chains in a store that does not have all of their blocks. A walk goes back from the tip and stops at the first
block that it cannot have or cannot decode, so what it reports is the latest obstacle among the blocks it needs.
-/

namespace ChainRules

structure LatestIn (property : Nat → Prop) (low high i : Nat) : Prop where
  reached : low ≤ i
  within : i ≤ high
  holds : property i
  noneLater : ∀ k, i < k → k ≤ high → ¬ property k

theorem LatestIn.unique {property : Nat → Prop} {low high i j : Nat} (left : LatestIn property low high i)
    (right : LatestIn property low high j) : i = j := by
  rcases Nat.lt_trichotomy i j with less | same | greater
  · exact absurd right.holds (left.noneLater j less right.within)
  · exact same
  · exact absurd left.holds (right.noneLater i greater left.within)

namespace LinearChain

variable (chain : LinearChain) (store : BlockStore)

-- The store has the blocks of the chain, or else nothing or a failure, in any pattern.
def Faithful : Prop :=
  ∀ i ≤ chain.top, ∀ found, store.get (chain.block i).hash = .ok (some found) → found = chain.block i

def AvailableFrom (low : Nat) : Prop := ∀ i, low ≤ i → i ≤ chain.top → chain.Available store i

def DecodesFrom (low : Nat) : Prop := ∀ i, low ≤ i → i ≤ chain.top → ¬ chain.Undecodable i

theorem AvailableFrom.above {chain : LinearChain} {store : BlockStore} {low high : Nat}
    (available : chain.AvailableFrom store low) (le : low ≤ high) : chain.AvailableFrom store high :=
  fun i above within => available i (Nat.le_trans le above) within

theorem DecodesFrom.above {chain : LinearChain} {low high : Nat} (decodes : chain.DecodesFrom low)
    (le : low ≤ high) : chain.DecodesFrom high :=
  fun i above within => decodes i (Nat.le_trans le above) within

inductive Lost (j : Nat) : LookupFailure → Prop where
  | unreadable (error : StoreError) (failed : store.get (chain.block j).hash = .error error) :
      Lost j (.unreadable error)
  | absentTip (absent : store.get (chain.block j).hash = .ok none) (top : j = chain.top) :
      Lost j (.missingBlock (chain.block j).hash)
  | absentPredecessor (absent : store.get (chain.block j).hash = .ok none) (below : j < chain.top) :
      Lost j (.missingPredecessor (chain.block j).hash (chain.block (j + 1)).hash (chain.block (j + 1)).height)

theorem Lost.unavailable {chain : LinearChain} {store : BlockStore} {j : Nat} {failure : LookupFailure}
    (lost : chain.Lost store j failure) : ¬ chain.Available store j := by
  intro available
  unfold Available at available
  cases lost with
  | unreadable error failed => simp [failed] at available
  | absentTip absent top => simp [absent] at available
  | absentPredecessor absent below => simp [absent] at available

theorem Lost.unique {chain : LinearChain} {store other : BlockStore} {j : Nat} {failure another : LookupFailure}
    (same : store.get (chain.block j).hash = other.get (chain.block j).hash) (left : chain.Lost store j failure)
    (right : chain.Lost other j another) : failure = another := by
  cases left with
  | unreadable error failed =>
      rw [failed] at same
      cases right with
      | unreadable other failed => rw [failed] at same; rw [Except.error.inj same]
      | absentTip absent top => simp [absent] at same
      | absentPredecessor absent below => simp [absent] at same
  | absentTip absent top =>
      rw [absent] at same
      cases right with
      | unreadable error failed => simp [failed] at same
      | absentTip absent top => rfl
      | absentPredecessor absent below => omega
  | absentPredecessor absent below =>
      rw [absent] at same
      cases right with
      | unreadable error failed => simp [failed] at same
      | absentTip absent top => omega
      | absentPredecessor absent below => rfl

theorem Lost.message {chain : LinearChain} {store : BlockStore} {j : Nat} {failure : LookupFailure}
    (lost : chain.Lost store j failure) :
    (∃ error, store.get (chain.block j).hash = .error error ∧ failure.message = error.message) ∨
      store.get (chain.block j).hash = .ok none ∧
        ∃ before after, failure.message = before ++ (chain.block j).hash.display ++ after := by
  cases lost with
  | unreadable error failed => exact .inl ⟨error, failed, rfl⟩
  | absentTip absent top => exact .inr ⟨absent, "block ", " is not stored", rfl⟩
  | absentPredecessor absent below =>
      refine .inr ⟨absent, "predecessor ", " of block " ++ ((chain.block (j + 1)).hash.display ++ (" at height "
        ++ (toString (chain.block (j + 1)).height.toNat ++ " is not stored"))), ?_⟩
      -- Stated for any strings, since literals would be evaluated one letter at a time.
      have regroup (a b c d e f g : String) : a ++ b ++ c ++ d ++ e ++ f ++ g = a ++ b ++ (c ++ (d ++ (e ++ (f ++ g)))) := by
        simp only [String.append_assoc]
      exact regroup _ _ _ _ _ _ _

-- What the store has of the ancestors of the tip are the blocks of the chain. Of the tip it may answer anything.
def AncestorsFaithful : Prop :=
  ∀ i < chain.top, ∀ found, store.get (chain.block i).hash = .ok (some found) → found = chain.block i

theorem Faithful.ancestors {chain : LinearChain} {store : BlockStore} (faithful : chain.Faithful store) :
    chain.AncestorsFaithful store :=
  fun i below => faithful i (Nat.le_of_lt below)

theorem require_before_or_lost (faithful : chain.AncestorsFaithful store) (i : Nat) (within : i < chain.top) :
    chain.Available store i ∨
      ∃ failure, chain.Lost store i failure ∧
        store.requirePrevious (chain.block (i + 1)) = .error (.ancestorLookupFailed failure) := by
  rw [BlockStore.requirePrevious, BlockStore.getPrevious, chain.linked i within]
  cases answer : store.get (chain.block i).hash with
  | error error => exact .inr ⟨.unreadable error, .unreadable error answer, rfl⟩
  | ok found =>
      cases found with
      | none => exact .inr ⟨_, .absentPredecessor answer within, rfl⟩
      | some block => exact .inl (by rw [Available, answer, faithful i within block answer])

theorem ancestry_or_lost (faithful : chain.AncestorsFaithful store) (count j : Nat) (within : j ≤ chain.top) :
    (∀ i, j - count ≤ i → i < j → chain.Available store i) ∨
      ∃ i failure, j - count ≤ i ∧ i < j ∧ chain.Lost store i failure ∧
        ancestry store count (chain.block j) = .error (.ancestorLookupFailed failure) := by
  induction count generalizing j with
  | zero => exact .inl (fun i low high => absurd high (Nat.not_lt.mpr low))
  | succ count ih =>
      cases j with
      | zero => exact .inl (fun i _ high => absurd high (Nat.not_lt_zero i))
      | succ j =>
          rw [ancestry, chain.genesis_at (j + 1) within, if_neg (by simp)]
          rcases chain.require_before_or_lost store faithful j within with available | ⟨failure, lost, failed⟩
          · rw [chain.require_before store j within available]
            rcases ih j (Nat.le_of_succ_le within) with earlier | ⟨i, failure, low, high, lost, failed⟩
            · refine .inl (fun i low high => ?_)
              rcases Nat.lt_succ_iff_lt_or_eq.mp high with less | rfl
              · exact earlier i (by omega) less
              · exact available
            · exact .inr ⟨i, failure, by omega, by omega, lost, by simp only [Except.bind, failed, Except.map]⟩
          · exact .inr ⟨j, failure, by omega, Nat.lt_succ_self j, lost, by rw [failed]; rfl⟩

-- How a walk ends that needs the blocks from height `needed` up and decodes those from height `checked` up.
inductive Surveyed {α : Type} (good : α → Prop) (needed checked : Nat) : Except ConsensusError α → Prop where
  | value (result : α) (holds : good result) (available : chain.AvailableFrom store needed)
      (decodes : chain.DecodesFrom checked) : Surveyed good needed checked (.ok result)
  | lost (j : Nat) (failure : LookupFailure) (reached : needed ≤ j) (within : j ≤ chain.top)
      (why : chain.Lost store j failure) (available : chain.AvailableFrom store (j + 1))
      (decodes : chain.DecodesFrom (max (j + 1) checked)) :
      Surveyed good needed checked (.error (.ancestorLookupFailed failure))
  | malformed (m : Nat) (reached : checked ≤ m) (within : m ≤ chain.top) (undecodable : chain.Undecodable m)
      (available : chain.AvailableFrom store m) (decodes : chain.DecodesFrom (m + 1)) :
      Surveyed good needed checked (.error (.malformedCompactBits (chain.bits m)))

namespace Surveyed

variable {chain : LinearChain} {store : BlockStore} {α β : Type} {good : α → Prop} {better : β → Prop}
  {needed checked : Nat} {answer : Except ConsensusError α}

theorem bind {next : α → Except ConsensusError β} {deeper wider : Nat}
    (surveyed : chain.Surveyed store good needed checked answer) (deeperLe : deeper ≤ needed)
    (widerLe : wider ≤ checked) (joined : checked ≤ max (needed + 1) wider)
    (later : ∀ result, good result → chain.AvailableFrom store needed → chain.DecodesFrom checked →
      chain.Surveyed store better deeper wider (next result)) :
    chain.Surveyed store better deeper wider (answer.bind next) := by
  cases surveyed with
  | value result holds available decodes => exact later result holds available decodes
  | lost j failure reached within why available decodes =>
      exact .lost j failure (Nat.le_trans deeperLe reached) within why available (decodes.above (by omega))
  | malformed m reached within undecodable available decodes =>
      exact .malformed m (Nat.le_trans widerLe reached) within undecodable available decodes

theorem map (surveyed : chain.Surveyed store good needed checked answer) (f : α → β)
    (kept : ∀ result, good result → better (f result)) :
    chain.Surveyed store better needed checked (answer.map f) := by
  cases surveyed with
  | value result holds available decodes => exact .value (f result) (kept result holds) available decodes
  | lost j failure reached within why available decodes =>
      exact .lost j failure reached within why available decodes
  | malformed m reached within undecodable available decodes =>
      exact .malformed m reached within undecodable available decodes

theorem with_answers {also : α → Prop} {both : α → Prop}
    (surveyed : chain.Surveyed store good needed checked answer) (answers : Answers also answer)
    (together : ∀ result, good result → also result → both result) :
    chain.Surveyed store both needed checked answer := by
  cases surveyed with
  | value result holds available decodes =>
      cases answers with
      | value _ alsoHolds => exact .value result (together result holds alsoHolds) available decodes
  | lost j failure reached within why available decodes =>
      exact .lost j failure reached within why available decodes
  | malformed m reached within undecodable available decodes =>
      exact .malformed m reached within undecodable available decodes

theorem ok_iff (surveyed : chain.Surveyed store good needed checked answer) :
    (∃ result, answer = .ok result) ↔ chain.AvailableFrom store needed ∧ chain.DecodesFrom checked := by
  cases surveyed with
  | value result holds available decodes => exact ⟨fun _ => ⟨available, decodes⟩, fun _ => ⟨result, rfl⟩⟩
  | lost j failure reached within why available decodes =>
      refine ⟨by simp, fun clear => ?_⟩
      exact absurd (clear.1 j reached within) why.unavailable
  | malformed m reached within undecodable available decodes =>
      refine ⟨by simp, fun clear => ?_⟩
      exact absurd undecodable (clear.2 m reached within)

theorem malformed_iff (surveyed : chain.Surveyed store good needed checked answer) (bits : CompactBits) :
    answer = .error (.malformedCompactBits bits) ↔
      ∃ m, bits = chain.bits m ∧ LatestIn chain.Undecodable checked chain.top m ∧
        ∀ j, needed ≤ j → j ≤ chain.top → ¬ chain.Available store j → j < m := by
  constructor
  · intro reported
    cases surveyed with
    | value result holds available decodes => cases reported
    | lost j failure reached within why available decodes => cases reported
    | malformed m reached within undecodable available decodes =>
        cases reported
        refine ⟨m, rfl, ⟨reached, within, undecodable, decodes⟩, fun j _ high unavailable => ?_⟩
        exact Nat.lt_of_not_le (fun later => unavailable (available j later high))
  · rintro ⟨m, rfl, latest, before⟩
    cases surveyed with
    | value result holds available decodes => exact absurd latest.holds (decodes m latest.reached latest.within)
    | lost j failure reached within why available decodes =>
        have below := before j reached within why.unavailable
        exact absurd latest.holds (decodes m (Nat.max_le.mpr ⟨below, latest.reached⟩) latest.within)
    | malformed other reached within undecodable available decodes =>
        rw [LatestIn.unique latest ⟨reached, within, undecodable, decodes⟩]

theorem lost_of_latest (surveyed : chain.Surveyed store good needed checked answer) (j : Nat)
    (latest : LatestIn (fun i => ¬ chain.Available store i) needed chain.top j)
    (before : ∀ m, checked ≤ m → m ≤ chain.top → chain.Undecodable m → m ≤ j) :
    ∃ failure, chain.Lost store j failure ∧ answer = .error (.ancestorLookupFailed failure) := by
  cases surveyed with
  | value result holds available decodes => exact absurd (available j latest.reached latest.within) latest.holds
  | lost other failure reached within why available decodes =>
      have same : j = other := latest.unique
        ⟨reached, within, why.unavailable, fun k later high => not_not.mpr (available k later high)⟩
      exact ⟨failure, same ▸ why, rfl⟩
  | malformed m reached within undecodable available decodes =>
      exact absurd (available j (before m reached within undecodable) latest.within) latest.holds

theorem same_failure {other : BlockStore} {another : Except ConsensusError α}
    (left : chain.Surveyed store good needed checked answer)
    (right : chain.Surveyed other good needed checked another)
    (agree : ∀ i, needed ≤ i → i ≤ chain.top → store.get (chain.block i).hash = other.get (chain.block i).hash) :
    (∃ result, answer = .ok result) ∨ another = answer := by
  have sameAvailable : ∀ i, needed ≤ i → i ≤ chain.top → chain.Available store i → chain.Available other i := by
    intro i low high available
    rw [Available, ← agree i low high]
    exact available
  cases left with
  | value result holds available decodes => exact .inl ⟨result, rfl⟩
  | lost j failure reached within why available decodes =>
      have missing : ¬ chain.Available other j := by
        rw [Available, ← agree j reached within]
        exact why.unavailable
      have latest : LatestIn (fun i => ¬ chain.Available other i) needed chain.top j :=
        ⟨reached, within, missing, fun k later high =>
          not_not.mpr (sameAvailable k (by omega) high (available k later high))⟩
      obtain ⟨failed, otherWhy, reported⟩ := right.lost_of_latest j latest (fun m low high undecodable => by
        by_contra later
        exact decodes m (by omega) high undecodable)
      rw [reported, why.unique (agree j reached within) otherWhy]
      exact .inr rfl
  | malformed m reached within undecodable available decodes =>
      refine .inr ((right.malformed_iff (chain.bits m)).mpr ⟨m, rfl, ⟨reached, within, undecodable, decodes⟩, ?_⟩)
      intro j low high missing
      by_contra later
      exact missing (sameAvailable j low high (available j (by omega) high))

end Surveyed

section Walks

variable (faithful : chain.Faithful store)

include faithful

theorem require_survey (i checked : Nat) (absent : LookupFailure) (within : i ≤ chain.top)
    (available : chain.AvailableFrom store (i + 1)) (decodes : chain.DecodesFrom checked)
    (reason : store.get (chain.block i).hash = .ok none → chain.Lost store i absent) :
    chain.Surveyed store (fun block => block = chain.block i) i checked
      (BlockStore.require (store.get (chain.block i).hash) absent) := by
  have rest : chain.DecodesFrom (max (i + 1) checked) := decodes.above (Nat.le_max_right _ _)
  cases answer : store.get (chain.block i).hash with
  | error error =>
      exact .lost i (.unreadable error) (Nat.le_refl i) within (.unreadable error answer) available rest
  | ok found =>
      cases found with
      | none => exact .lost i absent (Nat.le_refl i) within (reason answer) available rest
      | some block =>
          have same := faithful i within block answer
          refine .value block same (fun k low high => ?_) decodes
          by_cases here : k = i
          · rw [here, Available, answer, same]
          · exact available k (by omega) high

theorem require_tip_survey :
    chain.Surveyed store (fun block => block = chain.tip) chain.top (chain.top + 1)
      (store.requireBlock chain.tip.hash) := by
  refine chain.require_survey store faithful chain.top (chain.top + 1) (.missingBlock chain.tip.hash) (Nat.le_refl _)
    (fun i low high => ?_) (fun i low high => ?_) (fun absent => .absentTip absent rfl)
  · omega
  · omega

theorem require_before_survey (i checked : Nat) (within : i < chain.top)
    (available : chain.AvailableFrom store (i + 1)) (decodes : chain.DecodesFrom checked) :
    chain.Surveyed store (fun block => block = chain.block i) i checked
      (store.requirePrevious (chain.block (i + 1))) := by
  rw [BlockStore.requirePrevious, BlockStore.getPrevious, chain.linked i within]
  exact chain.require_survey store faithful i checked _ (Nat.le_of_lt within) available decodes
    (fun absent => .absentPredecessor absent within)

omit faithful in
theorem target_survey (i : Nat) (within : i ≤ chain.top) (available : chain.AvailableFrom store i)
    (decodes : chain.DecodesFrom (i + 1)) :
    chain.Surveyed store (fun _ => True) i i (chain.block i).header.target := by
  rcases (chain.bits i).to_target_cases with ⟨target, declared⟩ | undecodable
  · have decoded : (chain.block i).header.target = .ok target := declared
    rw [decoded]
    refine .value target trivial available (fun k low high => ?_)
    by_cases here : k = i
    · rw [here]
      exact fun undecodable => undecodable target declared
    · exact decodes k (by omega) high
  · have malformed : (chain.block i).header.target = .error (.malformedCompactBits (chain.bits i)) := undecodable
    rw [malformed]
    refine .malformed i (Nat.le_refl i) within (fun target declared => ?_) available decodes
    rw [declared] at undecodable
    cases undecodable

theorem sum_window_survey (count i : Nat) (total : Wide) (within : i ≤ chain.top)
    (available : chain.AvailableFrom store i) (decodes : chain.DecodesFrom (i + 1))
    (fits : total.toNat + count * 2 ^ 256 ≤ 2 ^ 256 * 2 ^ 256) :
    chain.Surveyed store
      (fun found => (found = none → i < count) ∧
        ∀ window, found = some window → window.before = chain.block (i - count))
      (i - count) (max 1 (i + 1 - count)) (sumWindow store count (chain.block i) total) := by
  induction count generalizing i total with
  | zero =>
      refine .value (some (⟨total, chain.block i⟩ : WindowSum)) ⟨by simp, fun window same => ?_⟩ available
        (decodes.above (by omega))
      cases same
      rfl
  | succ count ih =>
      rw [sum_window_succ, chain.genesis_at i within]
      cases i with
      | zero =>
          rw [if_pos (by simp)]
          exact .value none ⟨fun _ => Nat.zero_lt_succ count, by simp⟩ (available.above (Nat.zero_le _))
            (decodes.above (by omega))
      | succ i =>
          rw [if_neg (by simp), Nat.add_lt_add_iff_right, Nat.add_sub_add_right, Nat.add_sub_add_right]
          refine (chain.target_survey store (i + 1) within available decodes).bind (by omega) (by omega) (by omega)
            (fun target _ available decodes => ?_)
          have small := target.to_nat_lt
          obtain ⟨sum, added, value⟩ := target.add_widened_value total (by omega)
          rw [added]
          refine (chain.require_before_survey store faithful i (i + 1) within available decodes).bind (by omega)
            (by omega) (by omega) (fun previous same available decodes => ?_)
          subst same
          exact ih i sum (Nat.le_of_lt within) available decodes (by omega)

theorem recent_timestamps_survey (count j checked : Nat) (within : j ≤ chain.top)
    (available : chain.AvailableFrom store j) (decodes : chain.DecodesFrom checked) :
    chain.Surveyed store (fun times => times ≠ []) (j - count) checked
      (recentTimestamps store count (chain.block j)) := by
  induction count generalizing j with
  | zero => exact .value _ (by simp) available decodes
  | succ count ih =>
      rw [recent_timestamps_succ, chain.genesis_at j within]
      cases j with
      | zero =>
          rw [if_pos (by simp)]
          exact .value _ (by simp) (available.above (Nat.zero_le _)) decodes
      | succ j =>
          rw [if_neg (by simp), Nat.add_sub_add_right]
          refine (chain.require_before_survey store faithful j checked within available decodes).bind (by omega)
            (Nat.le_refl _) (by omega) (fun previous same available decodes => ?_)
          subst same
          exact (ih j (Nat.le_of_lt within) available).map _ (fun times _ => List.cons_ne_nil _ times)

theorem median_time_past_survey (j checked : Nat) (within : j ≤ chain.top)
    (available : chain.AvailableFrom store j) (decodes : chain.DecodesFrom checked) :
    chain.Surveyed store (fun _ => True) (j - (Constants.medianTimeSpan - 1)) checked
      (medianTimePast store (chain.block j)) := by
  rw [median_time_past_steps]
  refine (chain.recent_timestamps_survey store faithful _ j checked within available decodes).bind (Nat.le_refl _)
    (Nat.le_refl _) (by omega) (fun times nonempty available decodes => ?_)
  obtain ⟨median, middle, _⟩ := lower_median_exists times nonempty
  rw [middle]
  exact .value median trivial available decodes

end Walks

end LinearChain

end ChainRules
