import ChainRules.Bytes.Hex
import ChainRules.Proofs.Bytes.Order
import ChainRules.Text.Utf8
import Mathlib

set_option autoImplicit false

namespace ChainRules.Hex

def digitCode (value : Nat) : UInt8 := UInt8.ofNat (Nat.digitChar value).toNat

theorem digit_code_value : ∀ value < 16, digitValue? (digitCode value) = some value := by decide

theorem utf8_digit : ∀ value < 16, String.utf8EncodeChar (Nat.digitChar value) = [digitCode value] := by decide

def byteCodes (byte : UInt8) : List UInt8 := [digitCode (byte.toNat / 16), digitCode (byte.toNat % 16)]

theorem high_digit_lt (byte : UInt8) : byte.toNat / 16 < 16 := by
  have bound := byte.toNat_lt
  omega

theorem low_digit_lt (byte : UInt8) : byte.toNat % 16 < 16 := Nat.mod_lt _ (by decide)

theorem utf8_encode (bytes : List UInt8) : Text.utf8 (encode bytes) = bytes.flatMap byteCodes := by
  rw [Text.utf8, encode, String.toList_ofList, digits, List.flatMap_assoc]
  congr 1
  funext byte
  have high := utf8_digit _ (high_digit_lt byte)
  have low := utf8_digit _ (low_digit_lt byte)
  simp only [byteDigits, byteCodes, List.flatMap_cons, List.flatMap_nil, high, low, List.cons_append, List.nil_append]

theorem decode_pairs_codes (bytes : List UInt8) (position : Nat) :
    decodePairs (bytes.flatMap byteCodes) position = .ok bytes := by
  induction bytes generalizing position with
  | nil => rfl
  | cons byte rest ih =>
      have halves : 16 * (byte.toNat / 16) + byte.toNat % 16 = byte.toNat := Nat.div_add_mod _ _
      change decodePairs (digitCode (byte.toNat / 16) :: digitCode (byte.toNat % 16) :: rest.flatMap byteCodes)
        position = _
      simp only [decodePairs, digit_code_value _ (high_digit_lt byte), digit_code_value _ (low_digit_lt byte), ih,
        halves, UInt8.ofNat_toNat]
      rfl

theorem decode_encode (bytes : List UInt8) : decode (Text.utf8 (encode bytes)) = .ok bytes := by
  have even : (bytes.flatMap byteCodes).length = 2 * bytes.length := by
    induction bytes with
    | nil => rfl
    | cons byte rest ih =>
        rw [List.flatMap_cons, List.length_append, ih, List.length_cons]
        change 2 + 2 * rest.length = 2 * (rest.length + 1)
        omega
  rw [decode, utf8_encode, even, if_neg (by omega), decode_pairs_codes]

theorem length_digits (bytes : List UInt8) : (digits bytes).length = 2 * bytes.length := by
  induction bytes with
  | nil => rfl
  | cons byte rest ih =>
      change (digits rest).length + 2 = 2 * (rest.length + 1)
      omega

theorem length_encode (bytes : List UInt8) : (encode bytes).length = 2 * bytes.length := by
  rw [encode, String.length_ofList, length_digits]

theorem digit_char_lt_iff : ∀ a < 16, ∀ b < 16, (Nat.digitChar a < Nat.digitChar b ↔ a < b) := by decide

theorem digit_char_inj : ∀ a < 16, ∀ b < 16, (Nat.digitChar a = Nat.digitChar b ↔ a = b) := by decide

open Bytes (bigEndian)

theorem digits_lt_iff (a b : List UInt8) (same : a.length = b.length) :
    digits a < digits b ↔ bigEndian a < bigEndian b := by
  induction a generalizing b with
  | nil =>
      obtain rfl := List.length_eq_zero_iff.mp same.symm
      simp
  | cons x a ih =>
      cases b with
      | nil => cases same
      | cons y b =>
          have rest : a.length = b.length := Nat.succ.inj same
          change Nat.digitChar (x.toNat / 16) :: Nat.digitChar (x.toNat % 16) :: digits a <
            Nat.digitChar (y.toNat / 16) :: Nat.digitChar (y.toNat % 16) :: digits b ↔ _
          rw [List.cons_lt_cons_iff, List.cons_lt_cons_iff,
            digit_char_lt_iff _ (high_digit_lt x) _ (high_digit_lt y),
            digit_char_inj _ (high_digit_lt x) _ (high_digit_lt y),
            digit_char_lt_iff _ (low_digit_lt x) _ (low_digit_lt y),
            digit_char_inj _ (low_digit_lt x) _ (low_digit_lt y), ih b rest,
            Bytes.big_endian_cons, Bytes.big_endian_cons, rest,
            Bytes.leading_digit_decides _ _ _ _ _ (rest ▸ Bytes.big_endian_lt a) (Bytes.big_endian_lt b)]
          omega

theorem encode_le_iff (a b : List UInt8) (same : a.length = b.length) :
    encode a ≤ encode b ↔ bigEndian a ≤ bigEndian b := by
  rw [← String.not_lt, String.lt_iff_toList_lt, encode, encode, String.toList_ofList, String.toList_ofList,
    digits_lt_iff b a same.symm, Nat.not_lt]

section Reading

def IsDigit (char : Char) : Prop :=
  ('0' ≤ char ∧ char ≤ '9') ∨ ('a' ≤ char ∧ char ≤ 'f') ∨ ('A' ≤ char ∧ char ≤ 'F')

instance (char : Char) : Decidable (IsDigit char) := inferInstanceAs (Decidable (_ ∨ _ ∨ _))

theorem ascii_digit : ∀ code < 128, ∀ value < 16,
    digitValue? (UInt8.ofNat code) = some value ↔ (Char.ofNat code).toLower = Nat.digitChar value := by
  decide +kernel

theorem ascii_is_digit : ∀ code < 128,
    IsDigit (Char.ofNat code) ↔ ∃ value < 16, (Char.ofNat code).toLower = Nat.digitChar value := by
  decide +kernel

theorem utf8_ascii : ∀ code < 128, String.utf8EncodeChar (Char.ofNat code) = [UInt8.ofNat code] := by
  decide +kernel

theorem ascii_or_wide (char : Char) : (∃ code < 128, char = Char.ofNat code) ∨ 128 ≤ char.toNat := by
  by_cases narrow : char.toNat < 128
  · exact .inl ⟨char.toNat, narrow, (Char.ofNat_toNat char).symm⟩
  · exact .inr (Nat.le_of_not_lt narrow)

theorem digit_char_narrow : ∀ value < 16, (Nat.digitChar value).toNat < 128 := by decide

theorem wide_lower (char : Char) (wide : 128 ≤ char.toNat) (value : Nat) (small : value < 16) :
    char.toLower ≠ Nat.digitChar value := by
  have unchanged : char.toLower = char := by
    apply Char.toLower_eq_of_not_isUpper
    intro upper
    have bounds : 65 ≤ char.toNat ∧ char.toNat ≤ 90 := by
      simpa [Char.isUpper, UInt32.le_iff_toNat_le] using upper
    omega
  rw [unchanged]
  rintro rfl
  have narrow := digit_char_narrow value small
  omega

theorem utf8_wide (char : Char) (wide : 128 ≤ char.toNat) :
    ∃ byte more, String.utf8EncodeChar char = byte :: more ∧ digitValue? byte = none := by
  have lead : ∀ code : Nat, 128 ≤ code → code < 256 → digitValue? (UInt8.ofNat code) = none := by
    intro code high low
    have byte : (UInt8.ofNat code).toNat = code := UInt8.toNat_ofNat_of_lt' low
    simp only [digitValue?, byte]
    rw [if_neg (by omega), if_neg (by omega), if_neg (by omega)]
  change 128 ≤ char.val.toNat at wide
  unfold String.utf8EncodeChar
  dsimp only
  rw [if_neg (by omega)]
  split
  · exact ⟨_, _, rfl, lead _ (by omega) (by omega)⟩
  · split
    · exact ⟨_, _, rfl, lead _ (by omega) (by omega)⟩
    · exact ⟨_, _, rfl, lead _ (by omega) (by omega)⟩

theorem is_digit_iff (char : Char) : IsDigit char ↔ ∃ value < 16, char.toLower = Nat.digitChar value := by
  rcases ascii_or_wide char with ⟨code, narrow, rfl⟩ | wide
  · exact ascii_is_digit code narrow
  · constructor
    · intro digit
      have bound : char.toNat ≤ 102 := by
        rcases digit with ⟨_, high⟩ | ⟨_, high⟩ | ⟨_, high⟩
        · exact Nat.le_trans high (by decide)
        · exact high
        · exact Nat.le_trans high (by decide)
      omega
    · rintro ⟨value, small, same⟩
      exact absurd same (wide_lower char wide value small)

theorem utf8_values_iff (chars : List Char) (values : List Nat) (small : ∀ value ∈ values, value < 16) :
    (chars.flatMap String.utf8EncodeChar).map digitValue? = values.map some ↔
      chars.map Char.toLower = values.map Nat.digitChar := by
  induction chars generalizing values with
  | nil => cases values <;> simp
  | cons char chars ih =>
      rw [List.flatMap_cons, List.map_append]
      rcases ascii_or_wide char with ⟨code, narrow, rfl⟩ | wide
      · rw [utf8_ascii code narrow]
        cases values with
        | nil => exact iff_of_false (fun same => nomatch same) (fun same => nomatch same)
        | cons value values =>
            have later := ih values (fun other member => small other (List.mem_cons_of_mem _ member))
            have first := ascii_digit code narrow value (small value List.mem_cons_self)
            simp only [List.map_cons, List.map_nil, List.cons_append, List.nil_append, List.cons.injEq, first, later]
      · obtain ⟨byte, more, bytes, none⟩ := utf8_wide char wide
        rw [bytes]
        cases values with
        | nil => exact iff_of_false (fun same => nomatch same) (fun same => nomatch same)
        | cons value values =>
            have apart := wide_lower char wide value (small value List.mem_cons_self)
            rw [List.map_cons, List.map_cons, List.map_cons, List.map_cons, List.cons_append, none]
            exact iff_of_false (fun same => nomatch (List.cons.inj same).1) (fun same => apart (List.cons.inj same).1)

def halves (bytes : List UInt8) : List Nat := bytes.flatMap (fun byte => [byte.toNat / 16, byte.toNat % 16])

theorem halves_small (bytes : List UInt8) : ∀ value ∈ halves bytes, value < 16 := by
  intro value member
  obtain ⟨byte, _, half⟩ := List.mem_flatMap.mp member
  rcases List.mem_pair.mp half with rfl | rfl
  · exact high_digit_lt byte
  · exact low_digit_lt byte

theorem digits_eq_halves (bytes : List UInt8) : digits bytes = (halves bytes).map Nat.digitChar := by
  rw [digits, halves, List.map_flatMap]
  rfl

theorem lower_digit : ∀ value < 16, (Nat.digitChar value).toLower = Nat.digitChar value := by decide

theorem digits_lower (bytes : List UInt8) : (digits bytes).map Char.toLower = digits bytes := by
  rw [digits_eq_halves, List.map_map]
  exact List.map_congr_left (fun value half => lower_digit value (halves_small bytes value half))

theorem length_halves (bytes : List UInt8) : (halves bytes).length = 2 * bytes.length := by
  rw [← length_digits, digits_eq_halves, List.length_map]

theorem digit_value_small (byte : UInt8) (value : Nat) (read : digitValue? byte = some value) : value < 16 := by
  unfold digitValue? at read
  dsimp only at read
  split_ifs at read <;> cases read <;> omega

theorem byte_of_halves (high low : Nat) (highSmall : high < 16) (lowSmall : low < 16) :
    (UInt8.ofNat (16 * high + low)).toNat = 16 * high + low := by
  rw [UInt8.toNat_ofNat']
  omega

theorem decode_pair_eq_ok_iff (high low : UInt8) (codes bytes : List UInt8) (position : Nat) :
    decodePairs (high :: low :: codes) position = .ok bytes ↔
      ∃ byte rest, bytes = byte :: rest ∧ digitValue? high = some (byte.toNat / 16) ∧
        digitValue? low = some (byte.toNat % 16) ∧ decodePairs codes (position + 2) = .ok rest := by
  rw [decodePairs]
  cases first : digitValue? high with
  | none => simp
  | some highValue =>
      cases second : digitValue? low with
      | none => simp
      | some lowValue =>
          have highSmall := digit_value_small high highValue first
          have lowSmall := digit_value_small low lowValue second
          have byteValue := byte_of_halves highValue lowValue highSmall lowSmall
          cases decodePairs codes (position + 2) with
          | error obstacle => simp [Except.map]
          | ok others =>
              constructor
              · intro read
                obtain rfl := (Except.ok.inj read).symm
                refine ⟨_, others, rfl, congrArg some ?_, congrArg some ?_, rfl⟩
                · omega
                · omega
              · rintro ⟨byte, rest, rfl, highSame, lowSame, same⟩
                obtain rfl := Option.some.inj highSame
                obtain rfl := Option.some.inj lowSame
                obtain rfl := Except.ok.inj same
                have halvesSame : 16 * (byte.toNat / 16) + byte.toNat % 16 = byte.toNat := Nat.div_add_mod _ _
                dsimp only [Except.map]
                rw [halvesSame, UInt8.ofNat_toNat]

theorem decode_pairs_eq_ok_iff (codes bytes : List UInt8) (position : Nat) (even : codes.length % 2 = 0) :
    decodePairs codes position = .ok bytes ↔ codes.map digitValue? = (halves bytes).map some := by
  match codes, bytes with
  | [], [] => exact iff_of_true rfl rfl
  | [], byte :: bytes => exact iff_of_false (by simp [decodePairs]) (by simp [halves])
  | [_], _ => cases even
  | high :: low :: codes, [] =>
      rw [decode_pair_eq_ok_iff]
      exact iff_of_false (by simp) (by simp [halves])
  | high :: low :: codes, byte :: bytes =>
      have evenLater : codes.length % 2 = 0 := by
        rw [List.length_cons, List.length_cons] at even
        omega
      have later := decode_pairs_eq_ok_iff codes bytes (position + 2) evenLater
      have unfolded : halves (byte :: bytes) = byte.toNat / 16 :: byte.toNat % 16 :: halves bytes := rfl
      rw [decode_pair_eq_ok_iff, unfolded, List.map_cons, List.map_cons, List.map_cons, List.map_cons,
        List.cons.injEq, List.cons.injEq, ← later]
      constructor
      · rintro ⟨_, _, same, highRead, lowRead, read⟩
        obtain ⟨rfl, rfl⟩ := List.cons.inj same
        exact ⟨highRead, lowRead, read⟩
      · rintro ⟨highRead, lowRead, read⟩
        exact ⟨byte, bytes, rfl, highRead, lowRead, read⟩

theorem decode_eq_ok_iff (codes bytes : List UInt8) :
    decode codes = .ok bytes ↔ codes.map digitValue? = (halves bytes).map some := by
  unfold decode
  split
  · rename_i odd
    refine iff_of_false (by simp) (fun same => ?_)
    have lengths := congrArg List.length same
    rw [List.length_map, List.length_map, length_halves] at lengths
    omega
  · exact decode_pairs_eq_ok_iff codes bytes 0 (by omega)

theorem decode_text_iff (text : String) (bytes : List UInt8) :
    decode (Text.utf8 text) = .ok bytes ↔ text.toLower = encode bytes := by
  rw [decode_eq_ok_iff, Text.utf8, utf8_values_iff text.toList _ (halves_small bytes), ← digits_eq_halves,
    ← String.toList_inj, encode, String.toList_ofList, String.toLower, String.toList_map]

theorem digits_of_even (chars : List Char) (width : Nat) (even : chars.length = 2 * width)
    (all : ∀ char ∈ chars, IsDigit char) :
    ∃ bytes : List UInt8, bytes.length = width ∧ chars.map Char.toLower = digits bytes := by
  induction width generalizing chars with
  | zero =>
      rw [List.length_eq_zero_iff.mp even]
      exact ⟨[], rfl, rfl⟩
  | succ width ih =>
      match chars, even, all with
      | high :: low :: chars, even, all =>
          obtain ⟨bytes, length, same⟩ := ih chars (by simp at even; omega)
            (fun char member => all char (List.mem_cons_of_mem _ (List.mem_cons_of_mem _ member)))
          obtain ⟨highValue, highSmall, highSame⟩ := (is_digit_iff high).mp (all high (by simp))
          obtain ⟨lowValue, lowSmall, lowSame⟩ := (is_digit_iff low).mp (all low (by simp))
          have byteValue := byte_of_halves highValue lowValue highSmall lowSmall
          have highHalf : (16 * highValue + lowValue) / 16 = highValue := by omega
          have lowHalf : (16 * highValue + lowValue) % 16 = lowValue := by omega
          refine ⟨UInt8.ofNat (16 * highValue + lowValue) :: bytes, congrArg (· + 1) length, ?_⟩
          rw [digits, List.flatMap_cons, byteDigits, byteValue, highHalf, lowHalf, List.map_cons, List.map_cons, same,
            highSame, lowSame]
          rfl

end Reading

end ChainRules.Hex
