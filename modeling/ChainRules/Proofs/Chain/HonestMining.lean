import ChainRules.Block.MemoryStore
import ChainRules.Proofs.Chain.Outages
import ChainRules.Proofs.Difficulty.FullWindow
import Mathlib

set_option autoImplicit false

namespace ChainRules

theorem MemoryStore.put_below (store : MemoryStore) (block : StoredBlock) (absent : store.get? block.hash = none) :
    store.reader.Below (store.put block).reader := by
  intro hash found stored
  have held : store.get? hash = some found := Except.ok.inj stored
  have other : block.hash ≠ hash := by
    intro same
    rw [← same, absent] at held
    cases held
  show Except.ok ((store.put block).get? hash) = _
  rw [store.get_put_other block hash other, held]

theorem LinearChain.extend_complete (chain : LinearChain) (store : MemoryStore) (next : StoredBlock)
    (height : next.height.toNat = chain.top + 1) (link : next.header.previous = chain.tip.hash)
    (fresh : ∀ i ≤ chain.top, (chain.block i).hash ≠ next.hash) (complete : chain.Complete store.reader) :
    (chain.extend next height link fresh).Complete (store.put next).reader := by
  intro i within
  show Except.ok ((store.put next).get? _) = _
  by_cases old : i ≤ chain.top
  · have held : store.get? (chain.block i).hash = some (chain.block i) := Except.ok.inj (complete i old)
    rw [chain.extend_old next height link fresh i old,
      store.get_put_other next _ (fun same => fresh i old same.symm), held]
  · have last : i = chain.top + 1 := by
      rw [chain.extend_top] at within
      omega
    rw [last, chain.extend_next next height link fresh, store.get_put_self]

namespace ChainParameters

variable (params : ChainParameters)

theorem expected_same_previous (store : BlockStore) (previous : StoredBlock) (candidate other : BlockHeader)
    (same : candidate.previous = other.previous) :
    params.expectedNextBits store previous candidate = params.expectedNextBits store previous other := by
  simp only [expectedNextBits, expectedAtWindowEnds, same]

theorem check_nothing_required (store : BlockStore) (previous : StoredBlock) (candidate : BlockHeader)
    (expected : params.expectedNextBits store previous candidate = .ok none) :
    params.checkDifficultyTransitions store previous candidate = .ok () := by
  simp only [checkDifficultyTransitions, expected]

theorem check_required_iff (store : BlockStore) (previous : StoredBlock) (candidate : BlockHeader)
    (bits : CompactBits) (expected : params.expectedNextBits store previous candidate = .ok (some bits)) :
    params.checkDifficultyTransitions store previous candidate = .ok () ↔ candidate.bits = bits := by
  simp only [checkDifficultyTransitions, expected]
  by_cases same : bits = candidate.bits
  · simp only [if_pos same, true_iff]
    exact same.symm
  · simp only [if_neg same, reduceCtorEq, false_iff]
    exact fun equal => same equal.symm

theorem honest_bits_accepted (store : BlockStore) (previous : StoredBlock) (candidate : BlockHeader)
    (required : Option CompactBits) (expected : params.expectedNextBits store previous candidate = .ok required)
    (honest : candidate.bits = required.getD previous.header.bits) :
    params.checkDifficultyTransitions store previous candidate = .ok () := by
  cases required with
  | none => exact params.check_nothing_required store previous candidate expected
  | some bits => exact (params.check_required_iff store previous candidate bits expected).mpr honest

theorem expected_on_complete_chain (chain : LinearChain) (store : BlockStore) (candidate : BlockHeader)
    (nonempty : 1 ≤ params.averagingWindow.toNat) (nominal : params.averagingWindowTimespan ≠ 0)
    (complete : chain.Complete store)
    (decodes : ∀ i ≤ chain.top, ∃ target, (chain.bits i).toTarget = .ok target)
    (onTip : candidate.previous = chain.tip.hash) :
    ∃ required, params.expectedNextBits store chain.tip candidate = .ok required := by
  obtain ⟨targets, declared⟩ := chain.targets_of_decodable (· ≤ chain.top) (by
    intro i within undecodable
    obtain ⟨target, decoded⟩ := decodes i within
    exact undecodable target decoded)
  have declares : chain.DeclaresTargets params.averagingWindow.toNat targets :=
    fun i member => declared i member.2
  have height := chain.heights chain.top (Nat.le_refl _)
  by_cases inside : params.retargetRule = .averagingWindowMedianTime ∧
      ¬ params.averagingWindow.toNat ∣ chain.top + 1
  · exact ⟨none, params.expected_off_window_end store chain.tip candidate inside.1 nonempty (height.symm ▸ inside.2)⟩
  have atWindowEnd : params.retargetRule = .averagingWindowMedianTime → params.averagingWindow.toNat ∣ chain.top + 1 :=
    fun rule => not_not.mp (fun off => inside ⟨rule, off⟩)
  by_cases full : params.averagingWindow.toNat ≤ chain.top
  · have retargets : params.Retargets chain store candidate targets :=
      ⟨complete, full, declares, fun rule => ⟨atWindowEnd rule, onTip⟩⟩
    obtain ⟨_, _, next, _, _, _, _, bits⟩ := retargets.expected nonempty nominal
    exact ⟨some (.ofTarget next), bits⟩
  · have short := Nat.lt_of_not_le full
    cases rule : params.retargetRule with
    | averagingWindowMedianTime =>
        have parent : store.requireBlock candidate.previous = .ok chain.tip :=
          onTip ▸ chain.require_at store chain.top (complete chain.top (Nat.le_refl _))
        refine ⟨none, ?_⟩
        rw [params.expected_on_window_end store chain.tip candidate chain.tip rule nonempty
          (height.symm ▸ atWindowEnd rule) parent,
          chain.tip_window_short store _ targets params.averagingWindow.toNat_lt complete declares short]
        rfl
    | everyBlockRawTimespan =>
        exact ⟨_, params.expected_unchanged chain store candidate rule complete targets declares short⟩

end ChainParameters

-- The candidate that asks for the bits is any header on the tip; the block that is then stored has those bits, or
-- the bits of the tip where none are asked for. Everything else in the block is arbitrary.
inductive HonestRun (params : ChainParameters) : LinearChain → MemoryStore → Prop where
  | genesis (hasher : HeaderHasher) :
      HonestRun params (.single ⟨params.genesis.header hasher, 0⟩ rfl)
        (MemoryStore.empty.put ⟨params.genesis.header hasher, 0⟩)
  | mined (chain : LinearChain) (store : MemoryStore) (candidate : BlockHeader) (required : Option CompactBits)
      (next : StoredBlock) (earlier : HonestRun params chain store) (onTip : candidate.previous = chain.tip.hash)
      (asked : params.expectedNextBits store.reader chain.tip candidate = .ok required)
      (height : next.height.toNat = chain.top + 1) (link : next.header.previous = chain.tip.hash)
      (fresh : ∀ i ≤ chain.top, (chain.block i).hash ≠ next.hash)
      (honest : next.header.bits = required.getD chain.tip.header.bits) :
      HonestRun params (chain.extend next height link fresh) (store.put next)

structure HonestInvariant (params : ChainParameters) (chain : LinearChain) (store : MemoryStore) : Prop where
  complete : chain.Complete store.reader
  nothingElse : ∀ hash, (∀ i ≤ chain.top, (chain.block i).hash ≠ hash) → store.get? hash = none
  canonical : ∀ i ≤ chain.top, CompactBits.CanonicalWithin params.powLimit (chain.bits i)
  accepted : ∀ i < chain.top,
    params.checkDifficultyTransitions store.reader (chain.block i) (chain.block (i + 1)).header = .ok ()

namespace HonestInvariant

variable {params : ChainParameters} {chain : LinearChain} {store : MemoryStore}

theorem genesis (hasher : HeaderHasher) (start : CompactBits.CanonicalWithin params.powLimit params.genesis.bits) :
    HonestInvariant params (.single ⟨params.genesis.header hasher, 0⟩ rfl)
      (MemoryStore.empty.put ⟨params.genesis.header hasher, 0⟩) where
  complete := by
    intro i _
    exact congrArg Except.ok (MemoryStore.get_put_self _ _)
  nothingElse := by
    intro hash absent
    exact MemoryStore.get_put_other _ _ hash (absent 0 (Nat.le_refl _))
  canonical := fun _ _ => start
  accepted := fun i below => absurd below (Nat.not_lt_zero i)

theorem required_bits (invariant : HonestInvariant params chain store) (candidate : BlockHeader)
    (nonempty : 1 ≤ params.averagingWindow.toNat) (nominal : params.averagingWindowTimespan ≠ 0)
    (onTip : candidate.previous = chain.tip.hash) :
    ∃ required, params.expectedNextBits store.reader chain.tip candidate = .ok required ∧
      CompactBits.CanonicalWithin params.powLimit (required.getD chain.tip.header.bits) := by
  obtain ⟨required, asked⟩ := params.expected_on_complete_chain chain store.reader candidate nonempty nominal
    invariant.complete (fun i within => (invariant.canonical i within).imp (fun _ canonical => canonical.1)) onTip
  have tip : CompactBits.CanonicalWithin params.powLimit chain.tip.header.bits :=
    invariant.canonical chain.top (Nat.le_refl _)
  refine ⟨required, asked, ?_⟩
  have answers := params.expected_next_bits_answers store.reader chain.tip candidate nonempty nominal
  rw [asked] at answers
  cases answers with
  | value _ demands =>
      cases required with
      | none => exact tip
      | some bits =>
          rcases demands bits rfl with same | ⟨target, within, same⟩
          · exact same ▸ tip
          · exact same ▸ CompactBits.canonical_of_target params.powLimit target within

theorem mined (invariant : HonestInvariant params chain store) (next : StoredBlock)
    (nonempty : 1 ≤ params.averagingWindow.toNat)
    (height : next.height.toNat = chain.top + 1) (link : next.header.previous = chain.tip.hash)
    (fresh : ∀ i ≤ chain.top, (chain.block i).hash ≠ next.hash)
    (canonical : CompactBits.CanonicalWithin params.powLimit next.header.bits)
    (accepted : params.checkDifficultyTransitions store.reader chain.tip next.header = .ok ()) :
    HonestInvariant params (chain.extend next height link fresh) (store.put next) where
  complete := chain.extend_complete store next height link fresh invariant.complete
  nothingElse := by
    intro hash absent
    have last := absent (chain.top + 1) (Nat.le_refl _)
    rw [chain.extend_next next height link fresh] at last
    rw [store.get_put_other next hash last]
    apply invariant.nothingElse
    intro i within same
    have old := absent i (Nat.le_succ_of_le within)
    rw [chain.extend_old next height link fresh i within] at old
    exact old same
  canonical := by
    intro i within
    unfold LinearChain.bits
    by_cases old : i ≤ chain.top
    · rw [chain.extend_old next height link fresh i old]
      exact invariant.canonical i old
    · have last : i = chain.top + 1 := Nat.le_antisymm within (Nat.lt_of_not_le old)
      rw [last, chain.extend_next next height link fresh]
      exact canonical
  accepted := by
    have below := store.put_below next (invariant.nothingElse next.hash fresh)
    intro i within
    by_cases last : i = chain.top
    · rw [last, chain.extend_old next height link fresh _ (Nat.le_refl _), chain.extend_next next height link fresh]
      exact params.accepted_over_fuller below chain.tip next.header nonempty accepted
    · have old : i < chain.top := Nat.lt_of_le_of_ne (Nat.le_of_lt_succ within) last
      rw [chain.extend_old next height link fresh i (Nat.le_of_lt old),
        chain.extend_old next height link fresh (i + 1) old]
      exact params.accepted_over_fuller below _ _ nonempty (invariant.accepted i old)

end HonestInvariant

theorem HonestRun.invariant {params : ChainParameters} {chain : LinearChain} {store : MemoryStore}
    (run : HonestRun params chain store) (nonempty : 1 ≤ params.averagingWindow.toNat)
    (nominal : params.averagingWindowTimespan ≠ 0)
    (start : CompactBits.CanonicalWithin params.powLimit params.genesis.bits) :
    HonestInvariant params chain store := by
  induction run with
  | genesis hasher => exact .genesis hasher start
  | mined chain store candidate required next earlier onTip asked height link fresh honest ih =>
      obtain ⟨answer, same, canonical⟩ := ih.required_bits candidate nonempty nominal onTip
      rw [asked] at same
      obtain rfl := Except.ok.inj same
      have expected : params.expectedNextBits store.reader chain.tip next.header = .ok required := by
        rw [params.expected_same_previous store.reader chain.tip next.header candidate (link.trans onTip.symm), asked]
      apply ih.mined next nonempty height link fresh
      · exact honest ▸ canonical
      · exact params.honest_bits_accepted store.reader chain.tip next.header required expected honest

theorem ChainParameters.honest_run_accepted (params : ChainParameters) (chain : LinearChain) (store : MemoryStore)
    (defined : params.WindowDefined) (start : CompactBits.CanonicalWithin params.powLimit params.genesis.bits)
    (run : HonestRun params chain store) :
    (∀ i ≤ chain.top, CompactBits.CanonicalWithin params.powLimit (chain.bits i)) ∧
    (∀ i < chain.top,
      params.checkDifficultyTransitions store.reader (chain.block i) (chain.block (i + 1)).header = .ok ()) ∧
    (∀ candidate : BlockHeader, candidate.previous = chain.tip.hash →
      ∃ required, params.expectedNextBits store.reader chain.tip candidate = .ok required ∧
        (∀ next : BlockHeader, next.previous = chain.tip.hash →
          next.bits = required.getD chain.tip.header.bits →
          params.checkDifficultyTransitions store.reader chain.tip next = .ok ()) ∧
        (∀ bits, required = some bits → ∀ other : BlockHeader, other.previous = chain.tip.hash →
          (params.checkDifficultyTransitions store.reader chain.tip other = .ok () ↔ other.bits = bits))) := by
  have invariant := run.invariant defined.nonempty defined.nominal_ne_zero start
  refine ⟨invariant.canonical, invariant.accepted, ?_⟩
  intro candidate onTip
  obtain ⟨required, asked, _⟩ := invariant.required_bits candidate defined.nonempty defined.nominal_ne_zero onTip
  have expected : ∀ other : BlockHeader, other.previous = chain.tip.hash →
      params.expectedNextBits store.reader chain.tip other = .ok required := by
    intro other link
    rw [params.expected_same_previous store.reader chain.tip other candidate (link.trans onTip.symm), asked]
  refine ⟨required, asked, ?_, ?_⟩
  · intro next link honest
    exact params.honest_bits_accepted store.reader chain.tip next required (expected next link) honest
  · intro bits same other link
    exact params.check_required_iff store.reader chain.tip other bits (same ▸ expected other link)

theorem ChainParameters.honest_run_accepted_steady :
    pairwiseRegtest.WindowDefined ∧
      CompactBits.CanonicalWithin pairwiseRegtest.powLimit pairwiseRegtest.genesis.bits ∧
      ∃ chain store, HonestRun pairwiseRegtest chain store ∧ chain.top = 3 ∧
        chain.tip = LinearChain.steadyBlock 3 ∧
        ∀ other : BlockHeader, other.previous = chain.tip.hash →
          (pairwiseRegtest.checkDifficultyTransitions store.reader chain.tip other = .ok () ↔
            other.bits = ⟨0x200f0f0f⟩) := by
  have start : CompactBits.CanonicalWithin pairwiseRegtest.powLimit pairwiseRegtest.genesis.bits :=
    ⟨⟨0x0f0f0f <<< 232⟩, by decide +kernel, by decide +kernel, by decide +kernel⟩
  have genesis : HonestRun pairwiseRegtest _ _ := .genesis (fun _ => .ofNumber 1)
  have first := genesis.mined _ _ (LinearChain.steadyBlock 1).header none (LinearChain.steadyBlock 1)
    (by decide +kernel) (by decide +kernel) (by decide +kernel) (by decide +kernel) (by decide +kernel)
    (by decide +kernel)
  have second := first.mined _ _ (LinearChain.steadyBlock 2).header none (LinearChain.steadyBlock 2)
    (by decide +kernel) (by decide +kernel) (by decide +kernel) (by decide +kernel) (by decide +kernel)
    (by decide +kernel)
  have third := second.mined _ _ (LinearChain.steadyBlock 3).header none (LinearChain.steadyBlock 3)
    (by decide +kernel) (by decide +kernel) (by decide +kernel) (by decide +kernel) (by decide +kernel)
    (by decide +kernel)
  obtain ⟨_, _, next⟩ := honest_run_accepted pairwiseRegtest _ _ pairwise_regtest_defined start third
  obtain ⟨required, asked, _, accepted⟩ := next (LinearChain.steadyBlock 4).header (by decide +kernel)
  have retargeted : required = some ⟨0x200f0f0f⟩ := by
    apply Except.ok.inj
    rw [← asked]
    decide +kernel
  exact ⟨pairwise_regtest_defined, start, _, _, third, rfl, by decide +kernel, accepted _ retargeted⟩

end ChainRules
