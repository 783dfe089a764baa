import ChainRules.Proofs.Difficulty.Answers
import ChainRules.Proofs.Difficulty.WindowEnds
import Mathlib

set_option autoImplicit false

namespace ChainRules.ChainParameters

theorem Requirement.canonical {params : ChainParameters} {store : BlockStore} {previous : StoredBlock}
    {candidate : BlockHeader} {bits : CompactBits}
    (requirement : params.Requirement store previous candidate (some bits)) :
    CompactBits.CanonicalWithin params.powLimit bits ∨
      params.retargetRule = .everyBlockRawTimespan ∧ params.HistoryShort store previous candidate ∧
        bits = previous.header.bits := by
  cases requirement with
  | frozen rule short => exact .inr ⟨rule, short, rfl⟩
  | retargeted target within => exact .inl (CompactBits.canonical_of_target params.powLimit target within)

theorem Requirement.unasked {params : ChainParameters} {store : BlockStore} {previous : StoredBlock}
    {candidate : BlockHeader} (requirement : params.Requirement store previous candidate none) :
    params.retargetRule = .averagingWindowMedianTime ∧
      (¬ params.averagingWindow.toNat ∣ previous.height.toNat + 1 ∨ params.HistoryShort store previous candidate) := by
  cases requirement with
  | insideWindow rule inside => exact ⟨rule, .inl inside⟩
  | unchecked rule short => exact ⟨rule, .inr short⟩

variable (params : ChainParameters) (store : BlockStore) (previous : StoredBlock) (candidate : BlockHeader)

theorem requirement_of_answer (required : Option CompactBits) (nonempty : 1 ≤ params.averagingWindow.toNat)
    (nominal : params.averagingWindowTimespan ≠ 0)
    (expected : params.expectedNextBits store previous candidate = .ok required) :
    params.Requirement store previous candidate required :=
  (params.expected_next_bits_requirement store previous candidate nonempty nominal).of_ok expected

theorem accepted_bits_required (accepted : params.checkDifficultyTransitions store previous candidate = .ok ()) :
    params.expectedNextBits store previous candidate = .ok none ∨
      params.expectedNextBits store previous candidate = .ok (some candidate.bits) := by
  rw [checkDifficultyTransitions] at accepted
  cases expected : params.expectedNextBits store previous candidate with
  | error error =>
      rw [expected] at accepted
      cases accepted
  | ok required =>
      cases required with
      | none => exact .inl rfl
      | some bits =>
          rw [expected] at accepted
          by_cases same : bits = candidate.bits
          · exact .inr (by rw [same])
          · simp only [if_neg same, reduceCtorEq] at accepted

theorem demanded_bits_canonical (defined : params.WindowDefined) :
    (∀ bits, params.expectedNextBits store previous candidate = .ok (some bits) →
      CompactBits.CanonicalWithin params.powLimit bits ∨
        params.retargetRule = .everyBlockRawTimespan ∧ params.HistoryShort store previous candidate ∧
          bits = previous.header.bits) ∧
    (params.checkDifficultyTransitions store previous candidate = .ok () →
      params.expectedNextBits store previous candidate ≠ .ok none →
      ¬ (params.retargetRule = .everyBlockRawTimespan ∧ params.HistoryShort store previous candidate) →
      CompactBits.CanonicalWithin params.powLimit candidate.bits) ∧
    (params.expectedNextBits store previous candidate = .ok none →
      params.retargetRule = .averagingWindowMedianTime ∧
        (¬ params.averagingWindow.toNat ∣ previous.height.toNat + 1 ∨
          params.HistoryShort store previous candidate)) := by
  have requirement := fun required => params.requirement_of_answer store previous candidate required
    defined.nonempty defined.nominal_ne_zero
  refine ⟨fun bits asked => (requirement (some bits) asked).canonical, fun accepted applies thawed => ?_,
    fun unasked => (requirement none unasked).unasked⟩
  rcases params.accepted_bits_required store previous candidate accepted with unasked | asked
  · exact absurd unasked applies
  · rcases (requirement (some candidate.bits) asked).canonical with canonical | ⟨rule, short, _⟩
    · exact canonical
    · exact absurd ⟨rule, short⟩ thawed

def loopBlock : StoredBlock := ⟨{ (LinearChain.steadyBlock 3).header with previous := .ofNumber 4 }, 3⟩

def loopStore : BlockStore := ⟨fun hash => .ok (if hash = loopBlock.hash then some loopBlock else none)⟩

-- Bounds in the wrong order, of which the upper is negative: a window counts as almost `2 ^ 64` seconds.
def invertedRegtest : ChainParameters := { pairwiseRegtest with minActualTimespan := 5, maxActualTimespan := -1 }

theorem demanded_bits_canonical_loop :
    invertedRegtest.WindowDefined ∧
      invertedRegtest.expectedNextBits loopStore loopBlock loopBlock.header = .ok (some ⟨0x200f0f0f⟩) ∧
      invertedRegtest.checkDifficultyTransitions loopStore loopBlock loopBlock.header = .ok () ∧
      CompactBits.CanonicalWithin invertedRegtest.powLimit ⟨0x200f0f0f⟩ := by
  have defined : invertedRegtest.WindowDefined := by
    constructor <;> decide
  have asked : invertedRegtest.expectedNextBits loopStore loopBlock loopBlock.header = .ok (some ⟨0x200f0f0f⟩) := by
    decide +kernel
  have accepted : invertedRegtest.checkDifficultyTransitions loopStore loopBlock loopBlock.header = .ok () := by
    decide +kernel
  obtain ⟨_, canonical, _⟩ := demanded_bits_canonical invertedRegtest loopStore loopBlock loopBlock.header defined
  refine ⟨defined, asked, accepted, canonical accepted ?_ ?_⟩
  · rw [asked]
    simp
  · rintro ⟨rule, _⟩
    cases rule

end ChainRules.ChainParameters
