import ChainRules.Proofs.Bytes.Hex
import Mathlib

set_option autoImplicit false

namespace ChainRules.Hex

def IsDigitCode (byte : UInt8) : Prop := IsDigit (Char.ofNat byte.toNat)

instance (byte : UInt8) : Decidable (IsDigitCode byte) := inferInstanceAs (Decidable (IsDigit _))

theorem digit_value_none_iff (byte : UInt8) : digitValue? byte = none ↔ ¬ IsDigitCode byte := by
  have all : ∀ code < 256, digitValue? (UInt8.ofNat code) = none ↔ ¬ IsDigit (Char.ofNat code) := by decide +kernel
  have found := all byte.toNat byte.toNat_lt
  rwa [UInt8.ofNat_toNat] at found

theorem digit_value_of_code (byte : UInt8) (digit : IsDigitCode byte) : ∃ value, digitValue? byte = some value := by
  apply Option.ne_none_iff_exists'.mp
  intro none
  exact (digit_value_none_iff byte).mp none digit

structure FirstBadDigit (codes : List UInt8) (byte : UInt8) (position : Nat) : Prop where
  found : codes[position]? = some byte
  bad : ¬ IsDigitCode byte
  before : ∀ earlier ∈ codes.take position, IsDigitCode earlier

section First

variable (head byte : UInt8) (codes : List UInt8) (position : Nat)

theorem no_bad_digit_nil : ¬ FirstBadDigit [] byte position :=
  fun first => nomatch first.found

theorem first_bad_digit_here (bad : ¬ IsDigitCode head) :
    FirstBadDigit (head :: codes) byte position ↔ byte = head ∧ position = 0 := by
  constructor
  · intro first
    cases position with
    | zero => exact ⟨(Option.some.inj first.found).symm, rfl⟩
    | succ later => exact absurd (first.before head List.mem_cons_self) bad
  · rintro ⟨rfl, rfl⟩
    exact ⟨rfl, bad, fun _ none => nomatch none⟩

theorem first_bad_digit_later (good : IsDigitCode head) :
    FirstBadDigit (head :: codes) byte position ↔ ∃ later, position = later + 1 ∧ FirstBadDigit codes byte later := by
  constructor
  · intro first
    cases position with
    | zero => exact absurd (Option.some.inj first.found ▸ good) first.bad
    | succ later =>
        exact ⟨later, rfl, first.found, first.bad,
          fun earlier member => first.before earlier (List.mem_cons_of_mem head member)⟩
  · rintro ⟨later, rfl, first⟩
    refine ⟨first.found, first.bad, fun earlier member => ?_⟩
    rcases List.mem_cons.mp member with rfl | within
    · exact good
    · exact first.before earlier within

theorem bad_digit_exists_iff :
    (∃ byte position, FirstBadDigit codes byte position) ↔ ¬ ∀ byte ∈ codes, IsDigitCode byte := by
  induction codes with
  | nil => simp [no_bad_digit_nil]
  | cons head codes ih =>
      by_cases good : IsDigitCode head
      · simp only [first_bad_digit_later head _ codes _ good, List.forall_mem_cons, good, true_and, ← ih]
        constructor
        · rintro ⟨byte, _, position, _, first⟩
          exact ⟨byte, position, first⟩
        · rintro ⟨byte, position, first⟩
          exact ⟨byte, _, position, rfl, first⟩
      · refine iff_of_true ⟨head, 0, ?_⟩ (fun all => good (all head List.mem_cons_self))
        exact (first_bad_digit_here head head codes 0 good).mpr ⟨rfl, rfl⟩

end First

section Pair

variable (high low : UInt8) (codes : List UInt8) (start : Nat)

theorem decode_pair_bad_high (bad : ¬ IsDigitCode high) :
    decodePairs (high :: low :: codes) start = .error (.badDigit high start) := by
  rw [decodePairs, (digit_value_none_iff high).mpr bad]

theorem decode_pair_bad_low (good : IsDigitCode high) (bad : ¬ IsDigitCode low) :
    decodePairs (high :: low :: codes) start = .error (.badDigit low (start + 1)) := by
  obtain ⟨value, read⟩ := digit_value_of_code high good
  rw [decodePairs, read, (digit_value_none_iff low).mpr bad]

theorem decode_pair_error_iff (highGood : IsDigitCode high) (lowGood : IsDigitCode low) (obstacle : Obstacle) :
    decodePairs (high :: low :: codes) start = .error obstacle ↔ decodePairs codes (start + 2) = .error obstacle := by
  obtain ⟨highValue, highRead⟩ := digit_value_of_code high highGood
  obtain ⟨lowValue, lowRead⟩ := digit_value_of_code low lowGood
  rw [decodePairs, highRead, lowRead]
  cases decodePairs codes (start + 2) with
  | error other => simp [Except.map]
  | ok bytes => simp [Except.map]

end Pair

-- Positions count from the start of the text, of which the first bytes have been read already.
theorem decode_pairs_error_iff (codes : List UInt8) (start : Nat) (obstacle : Obstacle) (even : codes.length % 2 = 0) :
    decodePairs codes start = .error obstacle ↔
      ∃ byte position, obstacle = .badDigit byte (start + position) ∧ FirstBadDigit codes byte position := by
  match codes with
  | [] => exact iff_of_false (fun none => nomatch none) (fun ⟨byte, position, _, first⟩ => no_bad_digit_nil _ _ first)
  | [_] => cases even
  | high :: low :: codes =>
      have evenLater : codes.length % 2 = 0 := by
        rw [List.length_cons, List.length_cons] at even
        omega
      by_cases highGood : IsDigitCode high
      · by_cases lowGood : IsDigitCode low
        · rw [decode_pair_error_iff high low codes start highGood lowGood,
            decode_pairs_error_iff codes (start + 2) obstacle evenLater]
          simp only [first_bad_digit_later high _ _ _ highGood, first_bad_digit_later low _ _ _ lowGood]
          constructor
          · rintro ⟨byte, position, same, first⟩
            have moved : start + 2 + position = start + (position + 2) := by omega
            exact ⟨byte, position + 2, moved ▸ same, position + 1, rfl, position, rfl, first⟩
          · rintro ⟨byte, _, same, _, rfl, position, rfl, first⟩
            have moved : start + (position + 2) = start + 2 + position := by omega
            exact ⟨byte, position, moved ▸ same, first⟩
        · rw [decode_pair_bad_low high low codes start highGood lowGood]
          simp [first_bad_digit_later high _ _ _ highGood, first_bad_digit_here low _ _ _ lowGood, eq_comm]
      · rw [decode_pair_bad_high high low codes start highGood]
        simp [first_bad_digit_here high _ _ _ highGood, eq_comm]

theorem decode_odd_iff (codes : List UInt8) : decode codes = .error .oddLength ↔ codes.length % 2 = 1 := by
  unfold decode
  by_cases odd : codes.length % 2 = 1
  · rw [if_pos odd]
    exact iff_of_true rfl odd
  · rw [if_neg odd, decode_pairs_error_iff codes 0 _ (by omega)]
    exact iff_of_false (fun ⟨_, _, same, _⟩ => nomatch same) odd

theorem decode_bad_digit_iff (codes : List UInt8) (byte : UInt8) (position : Nat) :
    decode codes = .error (.badDigit byte position) ↔ codes.length % 2 = 0 ∧ FirstBadDigit codes byte position := by
  unfold decode
  by_cases odd : codes.length % 2 = 1
  · rw [if_pos odd]
    exact iff_of_false (fun same => nomatch same) (by omega)
  · have even : codes.length % 2 = 0 := by omega
    rw [if_neg odd, decode_pairs_error_iff codes 0 _ even]
    simp [even]

theorem decodes_iff (codes : List UInt8) :
    (∃ bytes, decode codes = .ok bytes) ↔ codes.length % 2 = 0 ∧ ∀ byte ∈ codes, IsDigitCode byte := by
  have bad := bad_digit_exists_iff codes
  constructor
  · rintro ⟨bytes, read⟩
    have even : codes.length % 2 = 0 := by
      by_contra odd
      rw [(decode_odd_iff codes).mpr (by omega)] at read
      cases read
    refine ⟨even, not_not.mp (fun other => ?_)⟩
    obtain ⟨byte, position, first⟩ := bad.mpr other
    rw [(decode_bad_digit_iff codes byte position).mpr ⟨even, first⟩] at read
    cases read
  · rintro ⟨even, all⟩
    cases read : decode codes with
    | ok bytes => exact ⟨bytes, rfl⟩
    | error obstacle =>
        cases obstacle with
        | oddLength =>
            have odd := (decode_odd_iff codes).mp read
            omega
        | badDigit byte position =>
            obtain ⟨_, first⟩ := (decode_bad_digit_iff codes byte position).mp read
            exact absurd all (bad.mp ⟨byte, position, first⟩)

theorem decode_length (codes bytes : List UInt8) (read : decode codes = .ok bytes) : codes.length = 2 * bytes.length := by
  have lengths := congrArg List.length ((decode_eq_ok_iff codes bytes).mp read)
  rwa [List.length_map, List.length_map, length_halves] at lengths

end ChainRules.Hex
