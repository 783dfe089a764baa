import ChainRules.Proofs.Chain.Walks
import ChainRules.Proofs.Difficulty.Median
import ChainRules.Proofs.Difficulty.NextTarget
import ChainRules.Proofs.Work.Canonical
import Mathlib

set_option autoImplicit false

namespace ChainRules

inductive Answers {α : Type} (good : α → Prop) : Except ConsensusError α → Prop where
  | value (result : α) (holds : good result) : Answers good (.ok result)
  | unavailable (failure : LookupFailure) : Answers good (.error (.ancestorLookupFailed failure))
  | malformed (bits : CompactBits) : Answers good (.error (.malformedCompactBits bits))

theorem Answers.imp {α : Type} {good better : α → Prop} {answer : Except ConsensusError α}
    (answers : Answers good answer) (stronger : ∀ result, good result → better result) : Answers better answer := by
  cases answers with
  | value result holds => exact .value result (stronger result holds)
  | unavailable failure => exact .unavailable failure
  | malformed bits => exact .malformed bits

theorem Answers.of_ok {α : Type} {good : α → Prop} {answer : Except ConsensusError α} {result : α}
    (answers : Answers good answer) (found : answer = .ok result) : good result := by
  cases answers with
  | value _ holds => exact Except.ok.inj found ▸ holds
  | unavailable failure => cases found
  | malformed bits => cases found

theorem Answers.outcome {α : Type} {good : α → Prop} {answer : Except ConsensusError α}
    (answers : Answers good answer) :
    (∃ result, answer = .ok result) ∨ (∃ failure, answer = .error (.ancestorLookupFailed failure)) ∨
      ∃ bits, answer = .error (.malformedCompactBits bits) := by
  cases answers with
  | value result _ => exact .inl ⟨result, rfl⟩
  | unavailable failure => exact .inr (.inl ⟨failure, rfl⟩)
  | malformed bits => exact .inr (.inr ⟨bits, rfl⟩)

theorem Answers.map {α β : Type} {good : α → Prop} {better : β → Prop} {answer : Except ConsensusError α}
    (answers : Answers good answer) (f : α → β) (kept : ∀ result, good result → better (f result)) :
    Answers better (answer.map f) := by
  cases answers with
  | value result holds => exact .value (f result) (kept result holds)
  | unavailable failure => exact .unavailable failure
  | malformed bits => exact .malformed bits

theorem Answers.bind {α β : Type} {good : α → Prop} {better : β → Prop} {answer : Except ConsensusError α}
    {next : α → Except ConsensusError β} (answers : Answers good answer)
    (later : ∀ result, good result → Answers better (next result)) : Answers better (answer.bind next) := by
  cases answers with
  | value result holds => exact later result holds
  | unavailable failure => exact .unavailable failure
  | malformed bits => exact .malformed bits

theorem require_answers (answer : Except StoreError (Option StoredBlock)) (absent : LookupFailure) :
    Answers (fun block => answer = .ok (some block)) (BlockStore.require answer absent) := by
  cases answer with
  | error error => exact .unavailable (.unreadable error)
  | ok found =>
      cases found with
      | none => exact .unavailable absent
      | some block => exact .value block rfl

theorem BlockStore.require_block_answers (store : BlockStore) (hash : BlockHash) :
    Answers (fun block => store.get hash = .ok (some block)) (store.requireBlock hash) :=
  require_answers (store.get hash) (.missingBlock hash)

theorem BlockStore.require_previous_answers (store : BlockStore) (block : StoredBlock) :
    Answers (fun previous => store.get block.header.previous = .ok (some previous)) (store.requirePrevious block) :=
  require_answers (store.getPrevious block) (.missingPredecessor block.header.previous block.hash block.height)

theorem target_answers (header : BlockHeader) : Answers (fun _ => True) header.target := by
  unfold BlockHeader.target
  rcases header.bits.to_target_cases with ⟨target, decoded⟩ | undecodable
  · rw [decoded]
    exact .value target trivial
  · rw [undecodable]
    exact .malformed header.bits

theorem add_answers (total : Wide) (target : Target) (fits : total.toNat + 2 ^ 256 ≤ 2 ^ 256 * 2 ^ 256) :
    Answers (fun sum => sum.toNat = total.toNat + target.toNat)
      ((Wide.add total target.widen).mapError .arithmetic) := by
  obtain ⟨sum, added, value⟩ := target.add_widened_value total fits
  rw [added]
  exact .value sum value

theorem sum_window_answers (store : BlockStore) (count : Nat) (cursor : StoredBlock) (total : Wide)
    (fits : total.toNat + count * 2 ^ 256 ≤ 2 ^ 256 * 2 ^ 256) :
    Answers
      (fun found =>
        (∀ window, found = some window → window.total.toNat ≤ total.toNat + count * (2 ^ 256 - 1)) ∧
        (found = none → store.MeetsGenesis count cursor))
      (sumWindow store count cursor total) := by
  induction count generalizing cursor total with
  | zero =>
      refine .value (some (⟨total, cursor⟩ : WindowSum)) ⟨fun window same => ?_, by simp⟩
      cases same
      simp
  | succ count ih =>
      rw [sum_window_succ]
      cases genesis : cursor.isGenesis with
      | true => exact .value none ⟨by simp, fun _ => .here count cursor genesis⟩
      | false =>
          refine (target_answers cursor.header).bind (fun target _ => ?_)
          refine (add_answers total target (by omega)).bind (fun sum value => ?_)
          refine (store.require_previous_answers cursor).bind (fun previous found => ?_)
          have small := target.to_nat_lt
          refine (ih previous sum (by omega)).imp (fun _ holds => ⟨fun window same => ?_, fun short => ?_⟩)
          · exact Nat.le_trans (holds.1 window same) (by omega)
          · exact .back count cursor previous found (holds.2 short)

theorem recent_timestamps_answers (store : BlockStore) (count : Nat) (block : StoredBlock) :
    Answers (fun times => times ≠ []) (recentTimestamps store count block) := by
  induction count generalizing block with
  | zero => exact .value _ (by simp)
  | succ count ih =>
      rw [recent_timestamps_succ]
      cases block.isGenesis with
      | true => exact .value _ (by simp)
      | false =>
          refine (store.require_previous_answers block).bind (fun previous _ => ?_)
          exact (ih previous).map _ (fun times _ => List.cons_ne_nil _ times)

theorem median_time_past_answers (store : BlockStore) (block : StoredBlock) :
    Answers (fun _ => True) (medianTimePast store block) := by
  rw [median_time_past_steps]
  refine (recent_timestamps_answers store (Constants.medianTimeSpan - 1) block).bind (fun times nonempty => ?_)
  obtain ⟨median, middle, _⟩ := lower_median_exists times nonempty
  rw [middle]
  exact .value median trivial

namespace ChainParameters

variable (params : ChainParameters) (store : BlockStore)

def windowStart (previous : StoredBlock) (candidate : BlockHeader) : BlockHash :=
  match params.retargetRule with
  | .averagingWindowMedianTime => candidate.previous
  | .everyBlockRawTimespan => previous.hash

def HistoryShort (previous : StoredBlock) (candidate : BlockHeader) : Prop :=
  ∃ start, store.get (params.windowStart previous candidate) = .ok (some start) ∧
    store.MeetsGenesis params.averagingWindow.toNat start

inductive Requirement (previous : StoredBlock) (candidate : BlockHeader) : Option CompactBits → Prop where
  | insideWindow (rule : params.retargetRule = .averagingWindowMedianTime)
      (inside : ¬ params.averagingWindow.toNat ∣ previous.height.toNat + 1) : Requirement previous candidate none
  | unchecked (rule : params.retargetRule = .averagingWindowMedianTime)
      (short : params.HistoryShort store previous candidate) : Requirement previous candidate none
  | frozen (rule : params.retargetRule = .everyBlockRawTimespan)
      (short : params.HistoryShort store previous candidate) :
      Requirement previous candidate (some previous.header.bits)
  | retargeted (target : Target) (within : target ≤ params.powLimit) :
      Requirement previous candidate (some (.ofTarget target))

def Demands (previous : StoredBlock) (required : Option CompactBits) : Prop :=
  ∀ bits, required = some bits →
    bits = previous.header.bits ∨ ∃ target, target ≤ params.powLimit ∧ bits = .ofTarget target

theorem bits_from_medians_answers (previous : StoredBlock) (window : WindowSum)
    (nonempty : 1 ≤ params.averagingWindow.toNat) (nominal : params.averagingWindowTimespan ≠ 0)
    (bounded : window.total.toNat < params.averagingWindow.toNat * 2 ^ 256) :
    Answers (fun bits => ∃ target, target ≤ params.powLimit ∧ bits = .ofTarget target)
      (params.bitsFromMedians store previous window) := by
  rw [bits_from_medians_steps]
  refine (median_time_past_answers store previous).bind (fun last _ => ?_)
  refine (median_time_past_answers store window.before).bind (fun first _ => ?_)
  obtain ⟨target, _, within, bits⟩ :=
    params.next_target_answers window.total (saturatingSub last first) nonempty nominal bounded
  rw [bits]
  exact .value _ ⟨target, within, rfl⟩

theorem window_answers (cursor : StoredBlock) (nonempty : 1 ≤ params.averagingWindow.toNat) :
    Answers
      (fun found =>
        (∀ window, found = some window → window.total.toNat < params.averagingWindow.toNat * 2 ^ 256) ∧
        (found = none → store.MeetsGenesis params.averagingWindow.toNat cursor))
      (sumWindow store params.averagingWindow.toNat cursor 0) := by
  have small := params.averagingWindow.toNat_lt
  have walk := sum_window_answers store params.averagingWindow.toNat cursor 0 (by
    rw [BitVec.ofNat_eq_ofNat, BitVec.toNat_zero]
    omega)
  rw [BitVec.ofNat_eq_ofNat, BitVec.toNat_zero] at walk
  refine walk.imp (fun found holds => ⟨fun window same => ?_, holds.2⟩)
  have total := holds.1 window same
  omega

theorem expected_next_bits_requirement (previous : StoredBlock) (candidate : BlockHeader)
    (nonempty : 1 ≤ params.averagingWindow.toNat) (nominal : params.averagingWindowTimespan ≠ 0) :
    Answers (params.Requirement store previous candidate) (params.expectedNextBits store previous candidate) := by
  cases rule : params.retargetRule with
  | averagingWindowMedianTime =>
      rw [params.expected_at_window_ends_steps store previous candidate rule nonempty]
      by_cases atEnd : params.averagingWindow.toNat ∣ previous.height.toNat + 1
      · rw [if_pos atEnd]
        refine (store.require_block_answers candidate.previous).bind (fun parent stored => ?_)
        refine (params.window_answers store parent nonempty).bind (fun found holds => ?_)
        cases found with
        | none =>
            have start : params.windowStart previous candidate = candidate.previous := by rw [windowStart, rule]
            exact .value none (.unchecked rule ⟨parent, start ▸ stored, holds.2 rfl⟩)
        | some window =>
            refine (params.bits_from_medians_answers store previous window nonempty nominal
              (holds.1 window rfl)).map some ?_
            rintro bits ⟨target, within, rfl⟩
            exact .retargeted target within
      · rw [if_neg atEnd]
        exact .value none (.insideWindow rule atEnd)
  | everyBlockRawTimespan =>
      rw [params.expected_at_every_block_steps store previous candidate rule]
      refine (store.require_block_answers previous.hash).bind (fun tip stored => ?_)
      refine (params.window_answers store tip nonempty).bind (fun found holds => ?_)
      cases found with
      | none =>
          have start : params.windowStart previous candidate = previous.hash := by rw [windowStart, rule]
          exact .value _ (.frozen rule ⟨tip, start ▸ stored, holds.2 rfl⟩)
      | some window =>
          obtain ⟨target, _, within, bits⟩ := params.next_target_answers window.total
            (saturatingSub previous.header.timestamp window.before.header.timestamp) nonempty nominal
            (holds.1 window rfl)
          rw [bitsAtEveryBlock, bits]
          exact .value _ (.retargeted target within)

theorem expected_next_bits_answers (previous : StoredBlock) (candidate : BlockHeader)
    (nonempty : 1 ≤ params.averagingWindow.toNat) (nominal : params.averagingWindowTimespan ≠ 0) :
    Answers (params.Demands previous) (params.expectedNextBits store previous candidate) := by
  refine (params.expected_next_bits_requirement store previous candidate nonempty nominal).imp ?_
  rintro required requirement bits rfl
  cases requirement with
  | frozen rule short => exact .inl rfl
  | retargeted target within => exact .inr ⟨target, within, rfl⟩

end ChainParameters

end ChainRules
