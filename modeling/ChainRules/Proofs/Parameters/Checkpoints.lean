import ChainRules.Parameters.Checkpoints
import Mathlib

set_option autoImplicit false

namespace ChainRules.Checkpoints

theorem insert_entry_perm (height : UInt32) (hash : BlockHash) (entries : List (UInt32 × BlockHash))
    (fresh : height ∉ entries.map Prod.fst) : (insertEntry height hash entries).Perm ((height, hash) :: entries) := by
  induction entries with
  | nil => exact .refl _
  | cons first rest ih =>
      obtain ⟨apart, freshLater⟩ := not_or.mp (List.mem_cons.not.mp fresh)
      unfold insertEntry
      by_cases less : height < first.1
      · rw [if_pos less]
      · rw [if_neg less, if_neg apart]
        exact ((ih freshLater).cons first).trans (.swap (height, hash) first rest)

theorem distinct_heights (checkpoints : Checkpoints) : (checkpoints.entries.map Prod.fst).Nodup := by
  rw [List.Nodup, List.pairwise_map]
  exact checkpoints.ascending.imp (fun less => UInt32.ne_of_lt less)

theorem inserted_perm (entries : List (UInt32 × BlockHash)) (checkpoints : Checkpoints)
    (distinct : ((checkpoints.entries ++ entries).map Prod.fst).Nodup) :
    (entries.foldl (fun checkpoints entry => checkpoints.insert entry.1 entry.2) checkpoints).entries.Perm
      (checkpoints.entries ++ entries) := by
  induction entries generalizing checkpoints with
  | nil =>
      rw [List.append_nil]
      exact .refl _
  | cons entry entries ih =>
      have forward : (checkpoints.entries ++ entry :: entries).Perm (entry :: (checkpoints.entries ++ entries)) :=
        List.perm_middle
      have apart := (List.nodup_cons.mp ((forward.map Prod.fst).nodup_iff.mp distinct)).1
      have fresh : entry.1 ∉ checkpoints.entries.map Prod.fst := by
        rw [List.map_append, List.mem_append] at apart
        exact fun bound => apart (.inl bound)
      have inserted : ((checkpoints.insert entry.1 entry.2).entries ++ entries).Perm
          (checkpoints.entries ++ entry :: entries) :=
        ((insert_entry_perm entry.1 entry.2 checkpoints.entries fresh).append_right entries).trans forward.symm
      exact (ih _ ((inserted.map Prod.fst).nodup_iff.mpr distinct)).trans inserted

theorem ext_of_perm (checkpoints other : Checkpoints) (order : checkpoints.entries.Perm other.entries) :
    checkpoints = other := by
  have same : checkpoints.entries = other.entries :=
    order.eq_of_pairwise (fun _ _ _ _ less greater => absurd greater (UInt32.lt_asymm less)) checkpoints.ascending
      other.ascending
  cases checkpoints
  cases other
  cases same
  rfl

theorem of_list_perm (checkpoints : Checkpoints) (entries : List (UInt32 × BlockHash))
    (order : entries.Perm checkpoints.entries) : ofList entries = checkpoints :=
  ext_of_perm _ _ ((inserted_perm entries empty ((order.map Prod.fst).nodup_iff.mpr checkpoints.distinct_heights)).trans
    order)

theorem of_list_get_iff (entries : List (UInt32 × BlockHash)) (height : UInt32) (hash : BlockHash) :
    (ofList entries).get? height = some hash ↔
      ∃ earlier later, entries = earlier ++ (height, hash) :: later ∧ ∀ entry ∈ later, entry.1 ≠ height := by
  induction entries using List.reverseRecOn with
  | nil => exact iff_of_false (fun held => nomatch held) (by simp)
  | append_singleton entries last ih =>
      have inserted : ofList (entries ++ [last]) = (ofList entries).insert last.1 last.2 := by
        rw [ofList, List.foldl_append]
        rfl
      rw [inserted, get_insert]
      by_cases same : last.1 = height
      · rw [if_pos same]
        constructor
        · intro held
          refine ⟨entries, [], ?_, fun _ none => nomatch none⟩
          rw [← same, ← Option.some.inj held]
        · rintro ⟨earlier, later, whole, apart⟩
          rcases List.eq_nil_or_concat later with rfl | ⟨between, final, rfl⟩
          · rw [(List.cons.inj (List.append_inj_right' whole rfl)).1]
          · rw [List.concat_eq_append, ← List.cons_append, ← List.append_assoc] at whole
            have ends : last = final := (List.cons.inj (List.append_inj_right' whole rfl)).1
            exact absurd (ends ▸ same) (apart final (by simp))
      · rw [if_neg same, ih]
        constructor
        · rintro ⟨earlier, later, rfl, apart⟩
          refine ⟨earlier, later ++ [last], by simp, fun entry member => ?_⟩
          rcases List.mem_append.mp member with before | atEnd
          · exact apart entry before
          · rw [List.mem_singleton.mp atEnd]
            exact same
        · rintro ⟨earlier, later, whole, apart⟩
          rcases List.eq_nil_or_concat later with rfl | ⟨between, final, rfl⟩
          · exact absurd (congrArg Prod.fst (List.cons.inj (List.append_inj_right' whole rfl)).1) same
          · rw [List.concat_eq_append, ← List.cons_append, ← List.append_assoc] at whole
            exact ⟨earlier, between, List.append_inj_left' whole rfl,
              fun entry member => apart entry (by simp [member])⟩

end ChainRules.Checkpoints
