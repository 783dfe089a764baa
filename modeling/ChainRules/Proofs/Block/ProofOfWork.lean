import ChainRules.Block.Header
import ChainRules.Proofs.Text.Display
import ChainRules.Proofs.Work.Canonical
import Mathlib

set_option autoImplicit false

namespace ChainRules.BlockHeader

variable (header : BlockHeader)

theorem check_proof_of_work_undecodable :
    header.checkProofOfWork = .error (.malformedCompactBits header.bits) ↔
      ∀ target, header.bits.toTarget ≠ .ok target := by
  rw [checkProofOfWork, target]
  rcases header.bits.to_target_cases with ⟨target, declared⟩ | undecodable
  · rw [declared]
    exact iff_of_false (by simp [Except.map]) (fun none => none target rfl)
  · rw [undecodable]
    exact iff_of_true rfl (by simp)

theorem check_proof_of_work_declared (target : Target) (declared : header.bits.toTarget = .ok target) :
    header.checkProofOfWork = .ok (decide (Bytes.littleEndian header.hash.bytes.toList ≤ target.toNat)) := by
  rw [checkProofOfWork, BlockHeader.target, declared, ← Target.of_hash_bytes_value]
  rfl

theorem work_compares_displays :
    (header.checkProofOfWork = .error (.malformedCompactBits header.bits) ↔
      ∀ target, header.bits.toTarget ≠ .ok target) ∧
    (∀ target, header.bits.toTarget = .ok target →
      header.hash.display.length = 64 ∧ target.display.length = 64 ∧
      header.checkProofOfWork = .ok (decide (header.hash.display ≤ target.display)) ∧
      (header.hash.display ≤ target.display ↔ Bytes.littleEndian header.hash.bytes.toList ≤ target.toNat)) ∧
    (∀ hash : BlockHash, Target.ofHex hash.display = .ok (.ofHashBytes hash.bytes)) ∧
    (∀ a b : Target, a ≤ b ↔ a.display ≤ b.display) ∧
    ∀ (bits : CompactBits) (target easier : Target), header.bits.toTarget = .ok target →
      bits.toTarget = .ok easier → target ≤ easier → header.checkProofOfWork = .ok true →
      ({ header with bits := bits } : BlockHeader).checkProofOfWork = .ok true := by
  refine ⟨header.check_proof_of_work_undecodable, fun target declared => ?_, BlockHash.of_hex_display,
    fun a b => (a.display_le_iff b).symm, fun bits target easier declared easierDeclared le accepted => ?_⟩
  · refine ⟨header.hash.length_display, target.length_display, ?_, header.hash.display_le_iff target⟩
    rw [header.check_proof_of_work_declared target declared]
    simp only [header.hash.display_le_iff target]
  · rw [header.check_proof_of_work_declared target declared, Except.ok.injEq, decide_eq_true_iff] at accepted
    have enough : Bytes.littleEndian header.hash.bytes.toList ≤ easier.toNat := Nat.le_trans accepted le
    rw [check_proof_of_work_declared { header with bits := bits } easier easierDeclared, decide_eq_true enough]

end ChainRules.BlockHeader
