import ChainRules.Block.Stored

set_option autoImplicit false

namespace ChainRules

-- Latest first: the block put last is the head.
structure MemoryStore where
  blocks : List StoredBlock
  distinct : (blocks.map StoredBlock.hash).Nodup

namespace MemoryStore

def empty : MemoryStore := ⟨[], List.nodup_nil⟩

def put (store : MemoryStore) (block : StoredBlock) : MemoryStore where
  blocks := block :: store.blocks.filter (fun old => old.hash ≠ block.hash)
  distinct := by
    have kept : ((store.blocks.filter (fun old => old.hash ≠ block.hash)).map StoredBlock.hash).Nodup :=
      store.distinct.sublist (List.filter_sublist.map _)
    rw [List.map_cons, List.nodup_cons]
    refine ⟨?_, kept⟩
    simp

def get? (store : MemoryStore) (hash : BlockHash) : Option StoredBlock :=
  store.blocks.find? (fun block => block.hash = hash)

def chainHead (store : MemoryStore) : Option StoredBlock := store.blocks.head?

def size (store : MemoryStore) : Nat := store.blocks.length

def isEmpty (store : MemoryStore) : Bool := store.blocks.isEmpty

theorem get_put_self (store : MemoryStore) (block : StoredBlock) : (store.put block).get? block.hash = some block := by
  simp [get?, put]

theorem get_put_other (store : MemoryStore) (block : StoredBlock) (hash : BlockHash) (other : block.hash ≠ hash) :
    (store.put block).get? hash = store.get? hash := by
  unfold get? put
  rw [List.find?_cons_of_neg (by simpa using other), List.find?_filter]
  congr 1
  funext old
  by_cases same : old.hash = hash
  · simp [same, Ne.symm other]
  · simp [same]

def reader (store : MemoryStore) : BlockStore := ⟨fun hash => .ok (store.get? hash)⟩

end MemoryStore

end ChainRules
