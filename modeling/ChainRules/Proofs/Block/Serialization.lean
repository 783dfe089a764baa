import ChainRules.Block.Header
import ChainRules.Proofs.Bytes.Order
import Mathlib

set_option autoImplicit false

namespace ChainRules

theorem word_eq_iff (a b : UInt32) :
    Bytes.toLittleEndian 4 a.toNat = Bytes.toLittleEndian 4 b.toNat ↔ a = b := by
  have fits : ∀ word : UInt32, word.toNat < 256 ^ 4 := fun word => word.toNat_lt
  rw [Bytes.to_little_endian_eq_iff, Nat.mod_eq_of_lt (fits a), Nat.mod_eq_of_lt (fits b), UInt32.toNat_inj]

theorem version_word_eq_iff (a b : Int32) :
    Bytes.toLittleEndian 4 a.toUInt32.toNat = Bytes.toLittleEndian 4 b.toUInt32.toNat ↔ a = b := by
  rw [word_eq_iff]
  constructor
  · intro same
    rw [← Int32.toInt32_toUInt32 a, same, Int32.toInt32_toUInt32]
  · exact congrArg Int32.toUInt32

theorem bits_word_eq_iff (a b : CompactBits) :
    Bytes.toLittleEndian 4 a.value.toNat = Bytes.toLittleEndian 4 b.value.toNat ↔ a = b := by
  rw [word_eq_iff]
  constructor
  · intro same
    cases a
    cases b
    exact congrArg CompactBits.mk same
  · exact congrArg CompactBits.value

-- The unsigned reading of a timestamp is the timestamp modulo `2 ^ 64`, of which `2 ^ 32` is a divisor.
theorem unsigned_modulo (time : Int64) : (time.toUInt64.toNat : Int) % 2 ^ 32 = time.toInt % 2 ^ 32 := by
  have bits : time.toInt = Int.bmod time.toUInt64.toNat (2 ^ 64) := time.toBitVec.toInt_eq_toNat_bmod
  rw [bits, Int.bmod_def]
  omega

theorem timestamp_word_eq_iff (a b : Int64) :
    Bytes.toLittleEndian 4 a.toUInt64.toNat = Bytes.toLittleEndian 4 b.toUInt64.toNat ↔
      a.toInt ≡ b.toInt [ZMOD 2 ^ 32] := by
  rw [Bytes.to_little_endian_eq_iff, Int.ModEq, ← unsigned_modulo, ← unsigned_modulo]
  omega

theorem bytes_eq_iff (a b : Bytes32) : a.toList = b.toList ↔ a = b := by
  constructor
  · intro same
    cases a
    cases b
    cases same
    rfl
  · exact congrArg Bytes32.toList

theorem hash_bytes_eq_iff (a b : BlockHash) : a.bytes.toList = b.bytes.toList ↔ a = b := by
  rw [bytes_eq_iff]
  constructor
  · intro same
    cases a
    cases b
    cases same
    rfl
  · exact congrArg BlockHash.bytes

namespace BlockHeader

theorem length_serialize (header : BlockHeader) : header.serialize.length = serializedSize := by
  simp [serialize, serializedSize, Bytes32.length_toList]

theorem serialize_eq_iff (a b : BlockHeader) :
    a.serialize = b.serialize ↔
      a.version = b.version ∧ a.previous = b.previous ∧ a.merkleRoot = b.merkleRoot ∧ a.bits = b.bits ∧
        a.nonce = b.nonce ∧ a.timestamp.toInt ≡ b.timestamp.toInt [ZMOD 2 ^ 32] := by
  have hashes : ∀ left right : BlockHash, left.bytes.toList.length = right.bytes.toList.length :=
    fun left right => left.bytes.length_toList.trans right.bytes.length_toList.symm
  have nonces : a.nonce.toList.length = b.nonce.toList.length := a.nonce.length_toList.trans b.nonce.length_toList.symm
  have words : ∀ left right : Nat, (Bytes.toLittleEndian 4 left).length = (Bytes.toLittleEndian 4 right).length := by simp
  -- The fields are split off from the last to the first.
  rw [serialize, serialize, List.append_eq_append_iff_of_size_eq_right nonces,
    List.append_eq_append_iff_of_size_eq_right (words _ _), List.append_eq_append_iff_of_size_eq_right (words _ _),
    List.append_eq_append_iff_of_size_eq_right (hashes _ _), List.append_eq_append_iff_of_size_eq_right (hashes _ _),
    version_word_eq_iff, hash_bytes_eq_iff, hash_bytes_eq_iff, timestamp_word_eq_iff, bits_word_eq_iff, bytes_eq_iff]
  tauto

end BlockHeader

end ChainRules
