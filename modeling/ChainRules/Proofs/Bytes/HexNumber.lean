import ChainRules.Proofs.Bytes.Hex
import Mathlib

set_option autoImplicit false

namespace ChainRules.Hex

open Bytes (bigEndian)

def alphabet : List Char := "0123456789abcdef".toList

def number (text : String) : Nat := Nat.ofDigits 16 (text.toLower.toList.reverse.map alphabet.idxOf)

def significant (text : String) : List Char := text.toLower.toList.dropWhile (· = '0')

theorem digit_char_index : ∀ value < 16, alphabet.idxOf (Nat.digitChar value) = value := by decide

theorem digit_char_mem : ∀ value < 16, Nat.digitChar value ∈ alphabet := by decide

theorem digit_indices (values : List Nat) (small : ∀ value ∈ values, value < 16) :
    (values.map Nat.digitChar).map alphabet.idxOf = values := by
  rw [List.map_map]
  exact (List.map_congr_left (fun value member => digit_char_index value (small value member))).trans (List.map_id values)

theorem halves_value (bytes : List UInt8) : Nat.ofDigits 16 (halves bytes).reverse = bigEndian bytes := by
  induction bytes with
  | nil => rfl
  | cons byte rest ih =>
      have split : (halves (byte :: rest)).reverse = (halves rest).reverse ++ [byte.toNat % 16, byte.toNat / 16] := by
        change (byte.toNat / 16 :: byte.toNat % 16 :: halves rest).reverse = _
        simp
      have place : 16 ^ (2 * rest.length) = 256 ^ rest.length := pow_mul 16 2 rest.length
      have joined : byte.toNat % 16 + 16 * (byte.toNat / 16) = byte.toNat := Nat.mod_add_div _ _
      rw [split, Nat.ofDigits_append, ih, List.length_reverse, length_halves, place, Nat.ofDigits_cons,
        Nat.ofDigits_singleton, joined, Bytes.big_endian_cons]
      ring

theorem number_spelled (text : String) (bytes : List UInt8) (spelled : text.toLower = encode bytes) :
    number text = bigEndian bytes := by
  rw [number, spelled, encode, String.toList_ofList, digits_eq_halves, List.map_reverse,
    digit_indices _ (halves_small bytes), halves_value]

theorem encode_chars (bytes : List UInt8) : ∀ char ∈ (encode bytes).toList, char ∈ alphabet := by
  intro char member
  rw [encode, String.toList_ofList, digits_eq_halves] at member
  obtain ⟨value, half, rfl⟩ := List.mem_map.mp member
  exact digit_char_mem value (halves_small bytes value half)

-- Zeros before the leading digit add nothing, and without them the digits are those of the number.
theorem digits_without_leading_zeros (values : List Nat) (small : ∀ value ∈ values, value < 16) :
    Nat.digits 16 (Nat.ofDigits 16 values.reverse) = (values.dropWhile (· = 0)).reverse := by
  induction values with
  | nil => rfl
  | cons first rest ih =>
      by_cases zero : first = 0
      · have later := ih (fun value member => small value (List.mem_cons_of_mem first member))
        rw [List.dropWhile_cons_of_pos (by simpa using zero), ← later, List.reverse_cons, Nat.ofDigits_append, zero,
          Nat.ofDigits_singleton, Nat.mul_zero, Nat.add_zero]
      · rw [List.dropWhile_cons_of_neg (by simpa using zero)]
        refine Nat.digits_ofDigits 16 (by decide) _ (fun value member => small value (List.mem_reverse.mp member)) ?_
        intro nonempty
        simpa using zero

theorem same_value_iff (a b : List Nat) (smallA : ∀ value ∈ a, value < 16) (smallB : ∀ value ∈ b, value < 16) :
    Nat.ofDigits 16 a.reverse = Nat.ofDigits 16 b.reverse ↔ a.dropWhile (· = 0) = b.dropWhile (· = 0) := by
  rw [← Nat.digits_inj_iff (b := 16), digits_without_leading_zeros a smallA, digits_without_leading_zeros b smallB,
    List.reverse_inj]

theorem significant_spelled (text : String) (bytes : List UInt8) (spelled : text.toLower = encode bytes) :
    significant text = ((halves bytes).dropWhile (· = 0)).map Nat.digitChar := by
  rw [significant, spelled, encode, String.toList_ofList, digits_eq_halves, List.dropWhile_map]
  congr 2
  funext value
  simp [Nat.digitChar_eq_zero]

theorem same_number_iff (a b : String) (bytesA bytesB : List UInt8) (spelledA : a.toLower = encode bytesA)
    (spelledB : b.toLower = encode bytesB) : number a = number b ↔ significant a = significant b := by
  have keptA := halves_small bytesA
  have keptB := halves_small bytesB
  rw [number_spelled a bytesA spelledA, number_spelled b bytesB spelledB, ← halves_value, ← halves_value,
    same_value_iff _ _ keptA keptB, significant_spelled a bytesA spelledA, significant_spelled b bytesB spelledB]
  constructor
  · exact congrArg (List.map Nat.digitChar)
  · intro same
    have indices := congrArg (List.map alphabet.idxOf) same
    rwa [digit_indices _ (fun value member => keptA value ((List.dropWhile_sublist _).mem member)),
      digit_indices _ (fun value member => keptB value ((List.dropWhile_sublist _).mem member))] at indices

end ChainRules.Hex
