import ChainRules.Parameters.Basic
import ChainRules.Proofs.Parameters.Checkpoints
import Mathlib

set_option autoImplicit false

namespace ChainRules

namespace Checkpoints

def Consistent (bindings : List (UInt32 × BlockHash)) : Prop :=
  ∀ height a b, (height, a) ∈ bindings → (height, b) ∈ bindings → a = b

theorem Consistent.of_subset {bindings fewer : List (UInt32 × BlockHash)} (consistent : Consistent bindings)
    (subset : ∀ entry ∈ fewer, entry ∈ bindings) : Consistent fewer :=
  fun height a b left right => consistent height a b (subset _ left) (subset _ right)

variable (checkpoints : Checkpoints)

theorem entries_consistent : Consistent checkpoints.entries := by
  intro height a b left right
  have same := List.inj_on_of_nodup_map checkpoints.distinct_heights left right rfl
  exact congrArg Prod.snd same

theorem get_eq_some_iff (height : UInt32) (hash : BlockHash) :
    checkpoints.get? height = some hash ↔ (height, hash) ∈ checkpoints.entries := by
  constructor
  · intro found
    obtain ⟨⟨bound, value⟩, reached, rfl⟩ := Option.map_eq_some_iff.mp found
    have same : bound = height := by simpa using List.find?_some reached
    exact same ▸ List.mem_of_find?_eq_some reached
  · intro member
    cases reached : checkpoints.entries.find? (fun entry => entry.1 = height) with
    | none => simpa using List.find?_eq_none.mp reached _ member
    | some entry =>
        have same : entry.1 = height := by simpa using List.find?_some reached
        have unique := List.inj_on_of_nodup_map checkpoints.distinct_heights (List.mem_of_find?_eq_some reached) member same
        rw [get?, reached, unique]
        rfl

theorem mem_insert_entries (height : UInt32) (hash : BlockHash)
    (agrees : ∀ bound, checkpoints.get? height = some bound → bound = hash) (entry : UInt32 × BlockHash) :
    entry ∈ (checkpoints.insert height hash).entries ↔ entry ∈ checkpoints.entries ∨ entry = (height, hash) := by
  obtain ⟨queried, value⟩ := entry
  rw [← get_eq_some_iff, ← get_eq_some_iff, get_insert, Prod.mk.injEq]
  by_cases same : height = queried
  · subst same
    rw [if_pos rfl, Option.some.injEq]
    constructor
    · rintro rfl
      exact .inr ⟨rfl, rfl⟩
    · rintro (bound | ⟨_, rfl⟩)
      · exact (agrees value bound).symm
      · rfl
  · rw [if_neg same]
    exact ⟨.inl, fun held => held.resolve_right (fun both => same both.1.symm)⟩

theorem ext_of_mem (other : Checkpoints) (same : ∀ entry, entry ∈ checkpoints.entries ↔ entry ∈ other.entries) :
    checkpoints = other :=
  ext_of_perm checkpoints other ((List.perm_ext_iff_of_nodup checkpoints.distinct_heights.of_map
    other.distinct_heights.of_map).mpr same)

-- What merging ends in. A conflict is with the bindings before it, among which there is none.
inductive Merges (extra : List (UInt32 × BlockHash)) : Except CheckpointConflict Checkpoints → Prop where
  | union (merged : Checkpoints) (consistent : Consistent (checkpoints.entries ++ extra))
      (members : ∀ entry, entry ∈ merged.entries ↔ entry ∈ checkpoints.entries ++ extra) : Merges extra (.ok merged)
  | conflict (before after : List (UInt32 × BlockHash)) (height : UInt32) (bound offered : BlockHash)
      (reached : extra = before ++ (height, offered) :: after)
      (consistent : Consistent (checkpoints.entries ++ before))
      (held : (height, bound) ∈ checkpoints.entries ++ before) (different : bound ≠ offered) :
      Merges extra (.error ⟨height, bound, offered⟩)

theorem Merges.cons {checkpoints inserted : Checkpoints} {entry : UInt32 × BlockHash}
    {rest : List (UInt32 × BlockHash)} {outcome : Except CheckpointConflict Checkpoints}
    (members : ∀ other, other ∈ inserted.entries ↔ other ∈ checkpoints.entries ∨ other = entry)
    (merges : inserted.Merges rest outcome) : checkpoints.Merges (entry :: rest) outcome := by
  have moved : ∀ (bindings : List (UInt32 × BlockHash)) (other : UInt32 × BlockHash),
      other ∈ inserted.entries ++ bindings ↔ other ∈ checkpoints.entries ++ entry :: bindings := by
    intro bindings other
    rw [List.mem_append, List.mem_append, List.mem_cons, members other, or_assoc]
  cases merges with
  | union merged consistent unions =>
      refine .union merged (consistent.of_subset (fun other => (moved rest other).mpr)) (fun other => ?_)
      rw [unions other, moved rest other]
  | conflict before after height bound offered reached consistent held different =>
      refine .conflict (entry :: before) after height bound offered ?_
        (consistent.of_subset (fun other => (moved before other).mpr)) ((moved before _).mp held) different
      rw [reached, List.cons_append]

theorem merge_merges (extra : List (UInt32 × BlockHash)) : checkpoints.Merges extra (checkpoints.merge extra) := by
  induction extra generalizing checkpoints with
  | nil => exact .union checkpoints (by simpa using checkpoints.entries_consistent) (by simp)
  | cons entry rest ih =>
      obtain ⟨height, hash⟩ := entry
      rw [merge]
      cases held : checkpoints.get? height with
      | none => exact (ih _).cons (checkpoints.mem_insert_entries height hash (by simp [held]))
      | some bound =>
          by_cases same : bound = hash
          · simp only [if_pos same]
            exact (ih _).cons (checkpoints.mem_insert_entries height hash (by simp [held, same]))
          · simp only [if_neg same]
            have member := (checkpoints.get_eq_some_iff height bound).mp held
            exact .conflict [] rest height bound hash rfl (by simpa using checkpoints.entries_consistent)
              (List.mem_append_left [] member) same

theorem Merges.not_consistent {checkpoints : Checkpoints} {extra : List (UInt32 × BlockHash)}
    {conflict : CheckpointConflict} (merges : checkpoints.Merges extra (.error conflict)) :
    ¬ Consistent (checkpoints.entries ++ extra) := by
  intro consistent
  cases merges with
  | conflict before after height bound offered reached _ held different =>
      refine different (consistent height bound offered ?_ ?_)
      · rw [reached, ← List.append_assoc]
        exact List.mem_append_left _ held
      · rw [reached]
        simp

theorem merge_eq_ok_iff (extra : List (UInt32 × BlockHash)) (merged : Checkpoints) :
    checkpoints.merge extra = .ok merged ↔
      Consistent (checkpoints.entries ++ extra) ∧
        ∀ entry, entry ∈ merged.entries ↔ entry ∈ checkpoints.entries ++ extra := by
  have merges := checkpoints.merge_merges extra
  cases outcome : checkpoints.merge extra with
  | error conflict =>
      rw [outcome] at merges
      exact iff_of_false (by simp) (fun both => merges.not_consistent both.1)
  | ok found =>
      rw [outcome] at merges
      cases merges with
      | union _ consistent members =>
          constructor
          · rintro ⟨⟩
            exact ⟨consistent, members⟩
          · rintro ⟨_, unions⟩
            rw [ext_of_mem found merged (fun entry => (members entry).trans (unions entry).symm)]

theorem merge_consistent (extra : List (UInt32 × BlockHash)) (consistent : Consistent (checkpoints.entries ++ extra)) :
    ∃ merged, checkpoints.merge extra = .ok merged := by
  have merges := checkpoints.merge_merges extra
  cases outcome : checkpoints.merge extra with
  | ok merged => exact ⟨merged, rfl⟩
  | error conflict =>
      rw [outcome] at merges
      exact absurd consistent merges.not_consistent

theorem merge_inconsistent (extra : List (UInt32 × BlockHash))
    (inconsistent : ¬ Consistent (checkpoints.entries ++ extra)) :
    ∃ before after height bound offered, extra = before ++ (height, offered) :: after ∧
      Consistent (checkpoints.entries ++ before) ∧ (height, bound) ∈ checkpoints.entries ++ before ∧
      bound ≠ offered ∧ checkpoints.merge extra = .error ⟨height, bound, offered⟩ := by
  have merges := checkpoints.merge_merges extra
  cases outcome : checkpoints.merge extra with
  | ok merged => exact absurd ((checkpoints.merge_eq_ok_iff extra merged).mp outcome).1 inconsistent
  | error conflict =>
      rw [outcome] at merges
      cases merges with
      | conflict before after height bound offered reached consistent held different =>
          exact ⟨before, after, height, bound, offered, reached, consistent, held, different, rfl⟩

theorem merge_perm (extra other : List (UInt32 × BlockHash)) (order : extra.Perm other) (merged : Checkpoints) :
    checkpoints.merge extra = .ok merged ↔ checkpoints.merge other = .ok merged := by
  have same : ∀ entry, entry ∈ checkpoints.entries ++ extra ↔ entry ∈ checkpoints.entries ++ other :=
    fun entry => (order.append_left checkpoints.entries).mem_iff
  simp only [merge_eq_ok_iff, Consistent, same]

theorem merge_append (extra later : List (UInt32 × BlockHash)) :
    checkpoints.merge (extra ++ later) = (checkpoints.merge extra).bind (fun merged => merged.merge later) := by
  induction extra generalizing checkpoints with
  | nil => rfl
  | cons entry rest ih =>
      obtain ⟨height, hash⟩ := entry
      rw [List.cons_append, merge, merge]
      cases checkpoints.get? height with
      | none => exact ih _
      | some bound =>
          by_cases same : bound = hash
          · simp only [if_pos same]
            exact ih _
          · simp only [if_neg same, Except.bind]

end Checkpoints

namespace ChainParameters

variable (params : ChainParameters)

open Checkpoints (Consistent)

theorem with_checkpoints_eq_ok_iff (extra : List (UInt32 × BlockHash)) (merged : ChainParameters) :
    params.withCheckpoints extra = .ok merged ↔
      merged = { params with checkpoints := merged.checkpoints } ∧
        params.checkpoints.merge extra = .ok merged.checkpoints := by
  rw [withCheckpoints]
  cases params.checkpoints.merge extra with
  | error conflict => simp
  | ok checkpoints =>
      constructor
      · rintro ⟨⟩
        exact ⟨rfl, rfl⟩
      · rintro ⟨same, found⟩
        rw [same, Except.ok.inj found]

theorem with_checkpoints_append (extra later : List (UInt32 × BlockHash)) :
    params.withCheckpoints (extra ++ later) =
      (params.withCheckpoints extra).bind (fun merged => merged.withCheckpoints later) := by
  rw [withCheckpoints, withCheckpoints, Checkpoints.merge_append]
  cases params.checkpoints.merge extra with
  | error conflict => rfl
  | ok merged => rfl

theorem with_checkpoints_bound (extra : List (UInt32 × BlockHash)) (merged : ChainParameters)
    (members : ∀ entry, entry ∈ merged.checkpoints.entries ↔ entry ∈ params.checkpoints.entries ++ extra) (height : UInt32) :
    (merged.isCheckpoint height = true ↔ ∃ hash, (height, hash) ∈ params.checkpoints.entries ++ extra) ∧
    ∀ hash, merged.passesCheckpoint height hash = true ↔
      ∀ bound, (height, bound) ∈ params.checkpoints.entries ++ extra → bound = hash := by
  have found : ∀ hash, merged.checkpoints.get? height = some hash ↔
      (height, hash) ∈ params.checkpoints.entries ++ extra :=
    fun hash => (merged.checkpoints.get_eq_some_iff height hash).trans (members _)
  simp only [isCheckpoint, passesCheckpoint, ← found]
  cases merged.checkpoints.get? height with
  | none => simp
  | some bound => simp

theorem merged_checkpoints_exact (extra : List (UInt32 × BlockHash)) :
    ((∃ merged, params.withCheckpoints extra = .ok merged) ↔ Consistent (params.checkpoints.entries ++ extra)) ∧
    (∀ merged, params.withCheckpoints extra = .ok merged →
      merged = { params with checkpoints := merged.checkpoints } ∧
      (∀ entry, entry ∈ merged.checkpoints.entries ↔ entry ∈ params.checkpoints.entries ∨ entry ∈ extra) ∧
      ∀ height,
        (merged.isCheckpoint height = true ↔ ∃ hash, (height, hash) ∈ params.checkpoints.entries ++ extra) ∧
        ∀ hash, merged.passesCheckpoint height hash = true ↔
          ∀ bound, (height, bound) ∈ params.checkpoints.entries ++ extra → bound = hash) ∧
    (¬ Consistent (params.checkpoints.entries ++ extra) →
      ∃ before after height bound offered, extra = before ++ (height, offered) :: after ∧
        Consistent (params.checkpoints.entries ++ before) ∧
        (height, bound) ∈ params.checkpoints.entries ++ before ∧ bound ≠ offered ∧
        ∃ error, params.withCheckpoints extra = .error error ∧
          error = .config (.checkpointConflict ⟨height, bound, offered⟩) ∧
          error.message = "Configuration error: " ++ ("checkpoint at height " ++ toString height.toNat ++
            " conflicts: " ++ bound.display ++ " vs " ++ offered.display)) ∧
    (∀ other, extra.Perm other →
      ∀ merged, params.withCheckpoints extra = .ok merged ↔ params.withCheckpoints other = .ok merged) ∧
    ∀ later, params.withCheckpoints (extra ++ later) =
      (params.withCheckpoints extra).bind (fun merged => merged.withCheckpoints later) := by
  refine ⟨⟨?_, fun consistent => ?_⟩, fun merged done => ?_, fun inconsistent => ?_, fun other order merged => ?_,
    params.with_checkpoints_append extra⟩
  · rintro ⟨merged, done⟩
    obtain ⟨_, found⟩ := (params.with_checkpoints_eq_ok_iff extra merged).mp done
    exact ((params.checkpoints.merge_eq_ok_iff extra _).mp found).1
  · obtain ⟨merged, found⟩ := params.checkpoints.merge_consistent extra consistent
    exact ⟨{ params with checkpoints := merged }, (params.with_checkpoints_eq_ok_iff extra _).mpr ⟨rfl, found⟩⟩
  · obtain ⟨same, found⟩ := (params.with_checkpoints_eq_ok_iff extra merged).mp done
    have members := ((params.checkpoints.merge_eq_ok_iff extra _).mp found).2
    exact ⟨same, fun entry => (members entry).trans List.mem_append, params.with_checkpoints_bound extra merged members⟩
  · obtain ⟨before, after, height, bound, offered, reached, consistent, held, different, failed⟩ :=
      params.checkpoints.merge_inconsistent extra inconsistent
    refine ⟨before, after, height, bound, offered, reached, consistent, held, different, _, ?_, rfl, rfl⟩
    rw [withCheckpoints, failed]
  · rw [with_checkpoints_eq_ok_iff, with_checkpoints_eq_ok_iff, params.checkpoints.merge_perm extra other order]

end ChainParameters

end ChainRules
