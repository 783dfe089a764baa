import ChainRules.Error

set_option autoImplicit false

namespace ChainRules

structure Checkpoints where
  entries : List (UInt32 × BlockHash)
  ascending : entries.Pairwise (fun a b => a.1 < b.1)
  deriving DecidableEq

namespace Checkpoints

def empty : Checkpoints := ⟨[], .nil⟩

def insertEntry (height : UInt32) (hash : BlockHash) : List (UInt32 × BlockHash) → List (UInt32 × BlockHash)
  | [] => [(height, hash)]
  | entry :: rest =>
      if height < entry.1 then (height, hash) :: entry :: rest
      else if height = entry.1 then (height, hash) :: rest
      else entry :: insertEntry height hash rest

theorem height_of_mem_insert_entry (height : UInt32) (hash : BlockHash) (entries : List (UInt32 × BlockHash)) :
    ∀ entry ∈ insertEntry height hash entries, entry.1 = height ∨ entry ∈ entries := by
  induction entries with
  | nil => simp [insertEntry]
  | cons first rest ih =>
      intro entry member
      unfold insertEntry at member
      split at member
      · rcases List.mem_cons.mp member with same | later
        · exact Or.inl (by rw [same])
        · exact Or.inr later
      · split at member
        · rcases List.mem_cons.mp member with same | later
          · exact Or.inl (by rw [same])
          · exact Or.inr (List.mem_cons_of_mem _ later)
        · rcases List.mem_cons.mp member with same | later
          · exact Or.inr (by rw [same]; exact List.mem_cons_self)
          · exact (ih entry later).imp id (List.mem_cons_of_mem _)

theorem ascending_insert_entry (height : UInt32) (hash : BlockHash) (entries : List (UInt32 × BlockHash))
    (ascending : entries.Pairwise (fun a b => a.1 < b.1)) :
    (insertEntry height hash entries).Pairwise (fun a b => a.1 < b.1) := by
  induction entries with
  | nil => simp [insertEntry]
  | cons first rest ih =>
      obtain ⟨above, restAscending⟩ := List.pairwise_cons.mp ascending
      unfold insertEntry
      split
      · rename_i less
        refine List.pairwise_cons.mpr ⟨?_, ascending⟩
        intro entry member
        rcases List.mem_cons.mp member with same | later
        · rw [same]; exact less
        · exact UInt32.lt_trans less (above entry later)
      · rename_i notLess
        split
        · rename_i same
          refine List.pairwise_cons.mpr ⟨?_, restAscending⟩
          intro entry member
          show height < entry.1
          rw [same]
          exact above entry member
        · rename_i different
          refine List.pairwise_cons.mpr ⟨?_, ih restAscending⟩
          intro entry member
          rcases height_of_mem_insert_entry height hash rest entry member with same | later
          · rw [same]
            have differentNat : height.toNat ≠ first.1.toNat := fun equal => different (UInt32.toNat_inj.mp equal)
            have notLessNat : ¬ height.toNat < first.1.toNat := notLess
            show first.1.toNat < height.toNat
            omega
          · exact above entry later

def insert (checkpoints : Checkpoints) (height : UInt32) (hash : BlockHash) : Checkpoints :=
  ⟨insertEntry height hash checkpoints.entries, ascending_insert_entry height hash _ checkpoints.ascending⟩

def get? (checkpoints : Checkpoints) (height : UInt32) : Option BlockHash :=
  (checkpoints.entries.find? (fun entry => entry.1 = height)).map Prod.snd

theorem find_insert_entry (height : UInt32) (hash : BlockHash) (entries : List (UInt32 × BlockHash))
    (queried : UInt32) :
    ((insertEntry height hash entries).find? (fun entry => entry.1 = queried)).map Prod.snd =
      if height = queried then some hash
      else (entries.find? (fun entry => entry.1 = queried)).map Prod.snd := by
  induction entries with
  | nil => by_cases same : height = queried <;> simp [insertEntry, same]
  | cons first rest ih =>
      unfold insertEntry
      split
      · by_cases same : height = queried <;> simp [List.find?_cons, same]
      · rename_i notLess
        split
        · rename_i equal
          by_cases same : height = queried
          · simp [same]
          · have apart : ¬ first.1 = queried := fun reached => same (equal.trans reached)
            simp [same, apart]
        · rename_i different
          by_cases reached : first.1 = queried
          · have apart : ¬ height = queried := fun same => different (same.trans reached.symm)
            simp [reached, apart]
          · simp only [List.find?_cons, reached, decide_false]
            exact ih

theorem get_insert (checkpoints : Checkpoints) (height : UInt32) (hash : BlockHash) (queried : UInt32) :
    (checkpoints.insert height hash).get? queried =
      if height = queried then some hash else checkpoints.get? queried :=
  find_insert_entry height hash checkpoints.entries queried

def ofList (entries : List (UInt32 × BlockHash)) : Checkpoints :=
  entries.foldl (fun checkpoints entry => checkpoints.insert entry.1 entry.2) empty

def merge : Checkpoints → List (UInt32 × BlockHash) → Except CheckpointConflict Checkpoints
  | checkpoints, [] => .ok checkpoints
  | checkpoints, (height, hash) :: rest =>
      match checkpoints.get? height with
      | none => merge (checkpoints.insert height hash) rest
      | some bound =>
          if bound = hash then merge (checkpoints.insert height hash) rest
          else .error ⟨height, bound, hash⟩

end Checkpoints

end ChainRules
