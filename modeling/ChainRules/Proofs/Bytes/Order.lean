import ChainRules.Bytes.Order
import Mathlib

set_option autoImplicit false

namespace ChainRules.Bytes

theorem big_endian_reverse (bytes : List UInt8) : bigEndian bytes.reverse = littleEndian bytes := by
  induction bytes with
  | nil => rfl
  | cons byte rest ih =>
      unfold bigEndian at ih ⊢
      rw [List.reverse_cons, List.foldl_append, ih]
      change littleEndian rest * 256 + byte.toNat = byte.toNat + 256 * littleEndian rest
      omega

theorem little_endian_to_little_endian (width number : Nat) :
    littleEndian (toLittleEndian width number) = number % 256 ^ width := by
  induction width generalizing number with
  | zero => exact (Nat.mod_one number).symm
  | succ width ih =>
      have low : (UInt8.ofNat number).toNat = number % 256 := UInt8.toNat_ofNat'
      change (UInt8.ofNat number).toNat + 256 * littleEndian (toLittleEndian width (number / 256)) = _
      rw [ih, low, pow_succ', Nat.mod_mul]

theorem to_little_endian_eq_iff (width a b : Nat) :
    toLittleEndian width a = toLittleEndian width b ↔ a % 256 ^ width = b % 256 ^ width := by
  constructor
  · intro same
    rw [← little_endian_to_little_endian, ← little_endian_to_little_endian, same]
  · induction width generalizing a b with
    | zero => exact fun _ => rfl
    | succ width ih =>
        intro same
        rw [pow_succ', Nat.mod_mul, Nat.mod_mul] at same
        have low : a % 256 = b % 256 := by omega
        have high : a / 256 % 256 ^ width = b / 256 % 256 ^ width := by omega
        have byte : UInt8.ofNat a = UInt8.ofNat b := by
          rw [← UInt8.toNat_inj, UInt8.toNat_ofNat', UInt8.toNat_ofNat', low]
        rw [toLittleEndian, toLittleEndian, byte, ih _ _ high]

theorem big_endian_to_big_endian (width number : Nat) :
    bigEndian (toBigEndian width number) = number % 256 ^ width := by
  rw [toBigEndian, big_endian_reverse, little_endian_to_little_endian]

theorem to_little_endian_little_endian (bytes : List UInt8) :
    toLittleEndian bytes.length (littleEndian bytes) = bytes := by
  induction bytes with
  | nil => rfl
  | cons byte rest ih =>
      have digit := byte.toNat_lt
      have low : UInt8.ofNat (byte.toNat + 256 * littleEndian rest) = byte := by
        rw [← UInt8.toNat_inj, UInt8.toNat_ofNat']
        omega
      have high : (byte.toNat + 256 * littleEndian rest) / 256 = littleEndian rest := by omega
      rw [List.length_cons, littleEndian, toLittleEndian, low, high, ih]

theorem to_little_endian_append (low high number : Nat) :
    toLittleEndian (low + high) number = toLittleEndian low number ++ toLittleEndian high (number / 256 ^ low) := by
  induction low generalizing number with
  | zero => simp [toLittleEndian]
  | succ low ih =>
      rw [Nat.succ_add, toLittleEndian, toLittleEndian, ih, Nat.div_div_eq_div_mul, ← pow_succ', List.cons_append]

theorem to_big_endian_drop (high low number : Nat) :
    (toBigEndian (high + low) number).drop high = toBigEndian low number := by
  rw [toBigEndian, toBigEndian, Nat.add_comm, to_little_endian_append, List.reverse_append]
  exact List.drop_left' (by rw [List.length_reverse, length_to_little_endian])

theorem big_endian_leading_zeros (count : Nat) (bytes : List UInt8) :
    bigEndian (List.replicate count 0 ++ bytes) = bigEndian bytes := by
  induction count with
  | zero => rfl
  | succ count ih => exact ih

theorem little_endian_append (low high : List UInt8) :
    littleEndian (low ++ high) = littleEndian low + 256 ^ low.length * littleEndian high := by
  induction low with
  | nil => simp [littleEndian]
  | cons byte low ih =>
      rw [List.cons_append, littleEndian, littleEndian, ih, List.length_cons, pow_succ']
      ring

theorem little_endian_lt (bytes : List UInt8) : littleEndian bytes < 256 ^ bytes.length := by
  induction bytes with
  | nil => exact Nat.one_pos
  | cons byte rest ih =>
      have digit := byte.toNat_lt
      rw [littleEndian, List.length_cons, pow_succ']
      omega

theorem big_endian_cons (byte : UInt8) (rest : List UInt8) :
    bigEndian (byte :: rest) = byte.toNat * 256 ^ rest.length + bigEndian rest := by
  obtain ⟨low, rfl⟩ : ∃ low : List UInt8, rest = low.reverse := ⟨rest.reverse, rest.reverse_reverse.symm⟩
  have turned : byte :: low.reverse = (low ++ [byte]).reverse := by simp
  rw [turned, big_endian_reverse, big_endian_reverse, little_endian_append, List.length_reverse]
  simp only [littleEndian]
  ring

theorem big_endian_lt (bytes : List UInt8) : bigEndian bytes < 256 ^ bytes.length := by
  have bound := little_endian_lt bytes.reverse
  rwa [← big_endian_reverse, List.reverse_reverse, List.length_reverse] at bound

theorem leading_digit_decides (place a b restA restB : Nat) (smallA : restA < place) (smallB : restB < place) :
    a * place + restA < b * place + restB ↔ a < b ∨ a = b ∧ restA < restB := by
  rcases Nat.lt_trichotomy a b with less | rfl | greater
  · have step := Nat.mul_le_mul_right place (Nat.succ_le_of_lt less)
    rw [Nat.succ_mul] at step
    exact iff_of_true (by omega) (.inl less)
  · simp
  · have step := Nat.mul_le_mul_right place (Nat.succ_le_of_lt greater)
    rw [Nat.succ_mul] at step
    exact iff_of_false (by omega) (by omega)

end ChainRules.Bytes
