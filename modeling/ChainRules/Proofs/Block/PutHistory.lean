import ChainRules.Block.MemoryStore
import Mathlib

set_option autoImplicit false

namespace ChainRules.MemoryStore

def afterPuts (puts : List StoredBlock) : MemoryStore := puts.foldl put empty

def IsLastPut (puts : List StoredBlock) (hash : BlockHash) (block : StoredBlock) : Prop :=
  ∃ before after, puts = before ++ block :: after ∧ block.hash = hash ∧ ∀ later ∈ after, later.hash ≠ hash

structure Reflects (store : MemoryStore) (puts : List StoredBlock) : Prop where
  answers : ∀ hash, store.get? hash = puts.reverse.find? (fun block => block.hash = hash)
  head : store.chainHead = puts.getLast?

theorem reflects_empty : Reflects empty [] where
  answers := fun _ => rfl
  head := rfl

theorem Reflects.put {store : MemoryStore} {puts : List StoredBlock} (reflects : store.Reflects puts)
    (block : StoredBlock) : (store.put block).Reflects (puts ++ [block]) where
  answers := by
    intro hash
    rw [List.reverse_append, List.reverse_singleton, List.singleton_append]
    by_cases same : block.hash = hash
    · rw [← same, store.get_put_self]
      exact (List.find?_cons_of_pos (by simp)).symm
    · rw [store.get_put_other block hash same, reflects.answers]
      exact (List.find?_cons_of_neg (by simpa using same)).symm
  head := by
    rw [List.getLast?_concat]
    rfl

theorem after_puts_reflects (puts : List StoredBlock) : (afterPuts puts).Reflects puts := by
  induction puts using List.reverseRecOn with
  | nil => exact reflects_empty
  | append_singleton puts block ih =>
      rw [afterPuts, List.foldl_append]
      exact ih.put block

section Answers

variable {store : MemoryStore} {puts : List StoredBlock}

theorem reader_get_iff (hash : BlockHash) (answer : Option StoredBlock) :
    store.reader.get hash = .ok answer ↔ store.get? hash = answer :=
  ⟨Except.ok.inj, congrArg Except.ok⟩

theorem Reflects.get_eq_some_iff (reflects : store.Reflects puts) (hash : BlockHash) (block : StoredBlock) :
    store.get? hash = some block ↔ IsLastPut puts hash block := by
  rw [reflects.answers, List.find?_eq_some_iff_append]
  constructor
  · rintro ⟨named, after, before, whole, apart⟩
    refine ⟨before.reverse, after.reverse, ?_, of_decide_eq_true named, fun later member => ?_⟩
    · rw [← puts.reverse_reverse, whole]
      simp
    · simpa using apart later (List.mem_reverse.mp member)
  · rintro ⟨before, after, rfl, named, apart⟩
    refine ⟨decide_eq_true named, after.reverse, before.reverse, by simp, fun later member => ?_⟩
    simpa using apart later (List.mem_reverse.mp member)

theorem Reflects.get_eq_none_iff (reflects : store.Reflects puts) (hash : BlockHash) :
    store.get? hash = none ↔ ∀ block ∈ puts, block.hash ≠ hash := by
  rw [reflects.answers, List.find?_eq_none]
  simp

theorem get_none_iff_absent (hash : BlockHash) :
    store.get? hash = none ↔ hash ∉ store.blocks.map StoredBlock.hash := by
  rw [get?, List.find?_eq_none, List.mem_map]
  simp

-- No two blocks of a store have one hash, so counting them counts hashes.
theorem Reflects.size (reflects : store.Reflects puts) : store.size = (puts.map StoredBlock.hash).toFinset.card := by
  have same : (store.blocks.map StoredBlock.hash).toFinset = (puts.map StoredBlock.hash).toFinset := by
    ext hash
    rw [List.mem_toFinset, List.mem_toFinset, ← not_iff_not, ← get_none_iff_absent, reflects.get_eq_none_iff hash,
      List.mem_map]
    simp
  rw [← same, List.toFinset_card_of_nodup store.distinct, List.length_map]
  rfl

theorem Reflects.empty_iff (reflects : store.Reflects puts) : store.isEmpty = true ↔ puts = [] := by
  have head : store.blocks.head? = puts.getLast? := reflects.head
  rw [isEmpty, List.isEmpty_iff, ← List.head?_eq_none_iff, head, List.getLast?_eq_none_iff]

theorem Reflects.head_by_hash (reflects : store.Reflects puts) :
    store.chainHead = (puts.getLast?.map StoredBlock.hash).bind store.get? := by
  rw [reflects.head]
  rcases List.eq_nil_or_concat puts with rfl | ⟨earlier, last, rfl⟩
  · rfl
  · rw [List.concat_eq_append, List.getLast?_concat, Option.map_some, Option.bind_some, eq_comm,
      reflects.get_eq_some_iff]
    exact ⟨earlier, [], List.concat_eq_append .., rfl, fun _ none => nomatch none⟩

end Answers

theorem put_history_exact (puts : List StoredBlock) :
    (∀ hash block, (afterPuts puts).reader.get hash = .ok (some block) ↔ IsLastPut puts hash block) ∧
    (∀ hash, (afterPuts puts).reader.get hash = .ok none ↔ ∀ block ∈ puts, block.hash ≠ hash) ∧
    (∀ hash block, (afterPuts puts).reader.get hash = .ok (some block) → block.hash = hash) ∧
    (afterPuts puts).size = (puts.map StoredBlock.hash).toFinset.card ∧
    ((afterPuts puts).isEmpty = true ↔ puts = []) ∧
    (afterPuts puts).chainHead = puts.getLast? ∧
    (afterPuts puts).chainHead = (puts.getLast?.map StoredBlock.hash).bind (afterPuts puts).get? ∧
    ((afterPuts puts).chainHead = none ↔ puts = []) ∧
    (∀ block : StoredBlock,
      (afterPuts puts).reader.getPrevious block = (afterPuts puts).reader.get block.header.previous ∧
      block.predecessor (afterPuts puts).reader = (afterPuts puts).reader.get block.header.previous) ∧
    ∀ block hash, block.hash ≠ hash →
      ((afterPuts puts).put block).reader.get hash = (afterPuts puts).reader.get hash := by
  have reflects := after_puts_reflects puts
  refine ⟨fun hash block => ?_, fun hash => ?_, fun hash block stored => ?_, reflects.size, reflects.empty_iff,
    reflects.head, reflects.head_by_hash, ?_, fun block => ⟨rfl, rfl⟩, fun block hash other => ?_⟩
  · rw [reader_get_iff, reflects.get_eq_some_iff]
  · rw [reader_get_iff, reflects.get_eq_none_iff]
  · rw [reader_get_iff, reflects.get_eq_some_iff] at stored
    obtain ⟨_, _, _, named, _⟩ := stored
    exact named
  · rw [reflects.head, List.getLast?_eq_none_iff]
  · exact congrArg Except.ok ((afterPuts puts).get_put_other block hash other)

section Replacing

def minimalBlock (hash : Nat) (height : UInt32) : StoredBlock :=
  ⟨⟨1, .zero, .zero, 0, ⟨0x200f0f0f⟩, .zero, .ofNumber hash⟩, height⟩

def replacing : List StoredBlock := [minimalBlock 1 0, minimalBlock 2 1, minimalBlock 1 2]

theorem put_history_exact_replacing :
    (afterPuts replacing).reader.get (.ofNumber 1) = .ok (some (minimalBlock 1 2)) ∧
    (afterPuts replacing).reader.get (.ofNumber 3) = .ok none ∧
    (afterPuts replacing).size = 2 ∧
    (afterPuts replacing).chainHead = some (minimalBlock 1 2) ∧
    ((afterPuts replacing).put (minimalBlock 3 3)).reader.get (.ofNumber 1) = .ok (some (minimalBlock 1 2)) := by
  obtain ⟨stored, absent, _, size, _, head, _, _, _, others⟩ := put_history_exact replacing
  have replaced : (afterPuts replacing).reader.get (.ofNumber 1) = .ok (some (minimalBlock 1 2)) :=
    (stored _ _).mpr ⟨[minimalBlock 1 0, minimalBlock 2 1], [], rfl, rfl, fun _ none => nomatch none⟩
  refine ⟨replaced, (absent _).mpr (by decide +kernel), size.trans (by decide +kernel), head, ?_⟩
  exact (others (minimalBlock 3 3) (.ofNumber 1) (by decide +kernel)).trans replaced

end Replacing

end ChainRules.MemoryStore
