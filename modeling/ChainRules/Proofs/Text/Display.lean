import ChainRules.Block.Hash
import ChainRules.Proofs.Bytes.Hex
import ChainRules.Proofs.Bytes.Order
import ChainRules.Work.Target
import Mathlib

set_option autoImplicit false

namespace ChainRules

theorem BlockHash.parse_display (hash : BlockHash) : parse? hash.display = some hash := by
  unfold parse? display
  rw [Hex.decode_encode]
  simp

theorem BlockHash.parse_eq_some_iff (text : String) (hash : BlockHash) :
    parse? text = some hash ↔ text.toLower = hash.display := by
  rw [display, ← Hex.decode_text_iff]
  unfold parse?
  cases Hex.decode (Text.utf8 text) with
  | error obstacle => simp
  | ok bytes =>
      constructor
      · intro read
        obtain ⟨whole, exact, same⟩ := Option.map_eq_some_iff.mp read
        have spelled : bytes = whole.toList := by
          unfold Bytes32.ofList? at exact
          split at exact
          · rw [← Option.some.inj exact]
          · cases exact
        rw [← same, Bytes32.reverse_reverse, spelled]
      · intro same
        rw [Except.ok.inj same]
        dsimp only
        rw [Bytes32.of_list_to_list, Option.map_some, Bytes32.reverse_reverse]

theorem BlockHash.parses_iff (text : String) :
    (∃ hash, parse? text = some hash) ↔ text.length = 64 ∧ ∀ char ∈ text.toList, Hex.IsDigit char := by
  constructor
  · rintro ⟨hash, read⟩
    have shown : text.toList.map Char.toLower = Hex.digits hash.bytes.reverse.toList := by
      have same := congrArg String.toList ((parse_eq_some_iff text hash).mp read)
      rwa [String.toLower, String.toList_map, display, Hex.encode, String.toList_ofList] at same
    constructor
    · have lengths := congrArg List.length shown
      rwa [List.length_map, String.length_toList, Hex.length_digits, hash.bytes.reverse.length_toList] at lengths
    · intro char member
      rw [Hex.digits_eq_halves] at shown
      have lower : char.toLower ∈ (Hex.halves hash.bytes.reverse.toList).map Nat.digitChar :=
        shown ▸ List.mem_map_of_mem member
      obtain ⟨value, half, same⟩ := List.mem_map.mp lower
      exact (Hex.is_digit_iff char).mpr ⟨value, Hex.halves_small _ value half, same.symm⟩
  · rintro ⟨length, all⟩
    obtain ⟨bytes, width, same⟩ := Hex.digits_of_even text.toList 32 (by rw [String.length_toList, length]) all
    refine ⟨⟨(⟨bytes, width⟩ : Bytes32).reverse⟩, (parse_eq_some_iff text _).mpr ?_⟩
    rw [display, Bytes32.reverse_reverse, ← String.toList_inj, String.toLower, String.toList_map, same, Hex.encode,
      String.toList_ofList]

theorem Target.to_bytes_value (target : Target) : Bytes.bigEndian target.toBytes = target.toNat := by
  have bound : target.toNat < 256 ^ 32 := target.value.isLt
  rw [toBytes, Bytes.big_endian_to_big_endian, Nat.mod_eq_of_lt bound]

theorem Target.of_hex_display (target : Target) : ofHex target.display = .ok target := by
  have width : target.toBytes.length ≤ 32 := Nat.le_of_eq (Bytes.length_to_big_endian 32 target.toNat)
  unfold ofHex display
  rw [Hex.decode_encode]
  simp only [if_pos width]
  rw [target.to_bytes_value]
  change Except.ok (⟨BitVec.ofNat 256 target.value.toNat⟩ : Target) = .ok target
  rw [BitVec.ofNat_toNat, BitVec.setWidth_eq]

theorem BlockHash.reversed_value (hash : BlockHash) :
    Bytes.bigEndian hash.bytes.reverse.toList = Bytes.littleEndian hash.bytes.toList :=
  Bytes.big_endian_reverse hash.bytes.toList

theorem BlockHash.of_hex_display (hash : BlockHash) : Target.ofHex hash.display = .ok (.ofHashBytes hash.bytes) := by
  have width : hash.bytes.reverse.toList.length ≤ 32 := Nat.le_of_eq hash.bytes.reverse.length_toList
  unfold Target.ofHex display
  rw [Hex.decode_encode]
  simp only [if_pos width, hash.reversed_value, Target.ofHashBytes]

theorem BlockHash.length_display (hash : BlockHash) : hash.display.length = 64 := by
  rw [display, Hex.length_encode, hash.bytes.reverse.length_toList]

theorem Target.length_display (target : Target) : target.display.length = 64 := by
  rw [display, Hex.length_encode, toBytes, Bytes.length_to_big_endian]

theorem Target.of_hash_bytes_value (bytes : Bytes32) :
    (ofHashBytes bytes).toNat = Bytes.littleEndian bytes.toList := by
  have bound := Bytes.little_endian_lt bytes.toList
  rw [bytes.length_toList] at bound
  exact (BitVec.toNat_ofNat _ 256).trans (Nat.mod_eq_of_lt bound)

theorem Target.display_le_iff (a b : Target) : a.display ≤ b.display ↔ a ≤ b := by
  have same : a.toBytes.length = b.toBytes.length := by simp [toBytes]
  rw [display, display, Hex.encode_le_iff _ _ same, to_bytes_value, to_bytes_value]
  rfl

theorem BlockHash.display_le_iff (hash : BlockHash) (target : Target) :
    hash.display ≤ target.display ↔ Bytes.littleEndian hash.bytes.toList ≤ target.toNat := by
  have same : hash.bytes.reverse.toList.length = target.toBytes.length := by
    rw [hash.bytes.reverse.length_toList, Target.toBytes, Bytes.length_to_big_endian]
  rw [display, Target.display, Hex.encode_le_iff _ _ same, hash.reversed_value, Target.to_bytes_value]

end ChainRules
