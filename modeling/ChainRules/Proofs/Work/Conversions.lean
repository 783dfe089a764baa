import ChainRules.Proofs.Bytes.Order
import ChainRules.Proofs.Text.Display
import ChainRules.Proofs.Work.Wide
import Mathlib

set_option autoImplicit false

namespace ChainRules

open Bytes (bigEndian littleEndian toBigEndian)

namespace Wide

theorem widen_eq_read_padded (word : BitVec 256) :
    widen word = BitVec.ofNat 512 (bigEndian (List.replicate 32 0 ++ toBigEndian 32 word.toNat)) := by
  have fits : word.toNat < 256 ^ 32 := word.isLt
  rw [Bytes.big_endian_leading_zeros, Bytes.big_endian_to_big_endian, Nat.mod_eq_of_lt fits]
  apply BitVec.eq_of_toNat_eq
  rw [widen_value, of_nat_value word.isLt (by decide)]

theorem lower_half_value (wide : Wide) :
    bigEndian ((toBigEndian 64 wide.toNat).drop 32) = wide.toNat % 256 ^ 32 := by
  rw [← Bytes.big_endian_to_big_endian 32 wide.toNat, ← Bytes.to_big_endian_drop 32 32]

theorem narrow_eq_read_lower_half (wide : Wide) :
    narrow? wide = if bitLength wide ≤ 256 then
      some (BitVec.ofNat 256 (bigEndian ((toBigEndian 64 wide.toNat).drop 32))) else none := by
  have same : wide.setWidth 256 = BitVec.ofNat 256 (bigEndian ((toBigEndian 64 wide.toNat).drop 32)) := by
    apply BitVec.eq_of_toNat_eq
    rw [lower_half_value, BitVec.toNat_setWidth, BitVec.toNat_ofNat]
    exact (Nat.mod_mod wide.toNat (2 ^ 256)).symm
  rw [narrow?, same]

theorem narrow_eq_some_iff (wide : Wide) (word : BitVec 256) :
    narrow? wide = some word ↔ wide.toNat < 2 ^ 256 ∧ word.toNat = wide.toNat := by
  by_cases small : wide.toNat < 2 ^ 256
  · obtain ⟨kept, narrowed, value⟩ := narrow_value wide small
    rw [narrowed, Option.some.injEq]
    constructor
    · rintro rfl
      exact ⟨small, value⟩
    · rintro ⟨_, same⟩
      exact BitVec.eq_of_toNat_eq (value.trans same.symm)
  · rw [narrow_none wide (Nat.le_of_not_lt small)]
    exact iff_of_false (fun none => nomatch none) (fun fits => small fits.1)

theorem narrow_eq_none_iff (wide : Wide) : narrow? wide = none ↔ 2 ^ 256 ≤ wide.toNat := by
  constructor
  · intro refused
    by_contra small
    obtain ⟨kept, narrowed, _⟩ := narrow_value wide (Nat.lt_of_not_le small)
    rw [narrowed] at refused
    cases refused
  · exact narrow_none wide

theorem narrow_widen (word : BitVec 256) : narrow? (widen word) = some word := by
  rw [narrow_eq_some_iff, widen_value]
  exact ⟨word.isLt, rfl⟩

end Wide

theorem Target.read_to_bytes (target : Target) : (⟨BitVec.ofNat 256 (bigEndian target.toBytes)⟩ : Target) = target := by
  apply eq_of_to_nat_eq
  rw [target.to_bytes_value]
  exact of_nat_value target.to_nat_lt (Nat.le_refl 256)

theorem Target.of_hash_bytes_to_bytes (bytes : Bytes32) : (ofHashBytes bytes).toBytes = bytes.reverse.toList := by
  have written : Bytes.toLittleEndian 32 (littleEndian bytes.toList) = bytes.toList := by
    rw [← bytes.length_toList, Bytes.to_little_endian_little_endian]
  rw [toBytes, of_hash_bytes_value, toBigEndian, written]
  rfl

theorem Wide.conversions_exact :
    (∀ word : BitVec 256, (widen word).toNat = word.toNat ∧ narrow? (widen word) = some word ∧
      widen word = BitVec.ofNat 512 (bigEndian (List.replicate 32 0 ++ toBigEndian 32 word.toNat))) ∧
    (∀ wide : Wide,
      (∀ word, narrow? wide = some word ↔ wide.toNat < 2 ^ 256 ∧ word.toNat = wide.toNat) ∧
      (narrow? wide = none ↔ 2 ^ 256 ≤ wide.toNat) ∧
      narrow? wide = if bitLength wide ≤ 256 then
        some (BitVec.ofNat 256 (bigEndian ((toBigEndian 64 wide.toNat).drop 32))) else none) ∧
    (∀ (limit : Target) (wide : Wide), (limit.cappedAt wide).toNat = min wide.toNat limit.toNat) ∧
    (∀ bytes : Bytes32, littleEndian bytes.toList = bigEndian bytes.reverse.toList ∧
      (Target.ofHashBytes bytes).toNat = bigEndian bytes.reverse.toList ∧
      (Target.ofHashBytes bytes).toBytes = bytes.reverse.toList) ∧
    ∀ target : Target, target.toBytes.length = 32 ∧ bigEndian target.toBytes = target.toNat ∧
      (⟨BitVec.ofNat 256 (bigEndian target.toBytes)⟩ : Target) = target := by
  have turned : ∀ bytes : Bytes32, littleEndian bytes.toList = bigEndian bytes.reverse.toList :=
    fun bytes => (Bytes.big_endian_reverse bytes.toList).symm
  refine ⟨fun word => ⟨widen_value word, narrow_widen word, widen_eq_read_padded word⟩,
    fun wide => ⟨narrow_eq_some_iff wide, narrow_eq_none_iff wide, narrow_eq_read_lower_half wide⟩,
    Target.capped_at_value, fun bytes => ⟨turned bytes, ?_, Target.of_hash_bytes_to_bytes bytes⟩,
    fun target => ⟨Bytes.length_to_big_endian 32 _, target.to_bytes_value, target.read_to_bytes⟩⟩
  rw [Target.of_hash_bytes_value, turned]

end ChainRules
