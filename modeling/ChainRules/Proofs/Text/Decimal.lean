import ChainRules.Text.Decimal
import Mathlib

set_option autoImplicit false

namespace ChainRules.Decimal

theorem is_digit_of_mem (number : Nat) (char : Char) (member : char ∈ digits number) : isDigit char = true := by
  have digit := Nat.isDigit_of_mem_toDigits (by decide) (by decide) member
  simpa [Char.isDigit, isDigit, Char.le_def] using digit

theorem digits_long (number : Nat) (long : 10 ≤ number) :
    digits number = digits (number / 10) ++ [Nat.digitChar (number % 10)] :=
  Nat.toDigits_of_base_le (by decide) long

theorem digits_leading (number : Nat) (nonzero : number ≠ 0) :
    ∃ first rest, digits number = first :: rest ∧ first ≠ '0' := by
  induction number using Nat.strong_induction_on with
  | _ number ih =>
      by_cases short : number < 10
      · refine ⟨Nat.digitChar number, [], Nat.toDigits_of_lt_base short, ?_⟩
        exact fun zero => nonzero (Nat.digitChar_eq_zero.mp zero)
      · obtain ⟨first, rest, leading, significant⟩ := ih (number / 10) (by omega) (by omega)
        refine ⟨first, rest ++ [Nat.digitChar (number % 10)], ?_, significant⟩
        rw [digits_long number (Nat.le_of_not_lt short), leading, List.cons_append]

theorem digits_canonical (number : Nat) : isCanonical (digits number) = true := by
  by_cases zero : number = 0
  · rw [zero]
    decide
  · obtain ⟨first, rest, leading, significant⟩ := digits_leading number zero
    have digit := is_digit_of_mem number
    rw [leading] at digit ⊢
    cases rest with
    | nil => exact digit first List.mem_cons_self
    | cons second rest =>
        have all : (second :: rest).all isDigit = true :=
          List.all_eq_true.mpr (fun char member => digit char (List.mem_cons_of_mem _ member))
        simp only [isCanonical, digit first List.mem_cons_self, all, decide_eq_true significant, Bool.and_self]

theorem read_digits (number : Nat) : read? (digits number) = some number := by
  rw [read?, if_pos (digits_canonical number), value, digits, Nat.ofDigitChars_toDigits (by decide) (by decide)]

theorem digit_char_value (char : Char) (digit : isDigit char = true) :
    ∃ value < 10, char = Nat.digitChar value ∧ char.toNat - '0'.toNat = value := by
  obtain ⟨low, high⟩ := of_decide_eq_true digit
  have above : 48 ≤ char.toNat := low
  have below : char.toNat ≤ 57 := high
  refine ⟨char.toNat - 48, by omega, ?_, rfl⟩
  apply Char.toNat_inj.mp
  rw [Nat.toNat_digitChar_of_lt_ten (by omega)]
  omega

theorem digits_read_on (chars : List Char) (number : Nat) (positive : 0 < number)
    (all : ∀ char ∈ chars, isDigit char = true) :
    digits (Nat.ofDigitChars 10 chars number) = digits number ++ chars := by
  induction chars generalizing number with
  | nil => rw [Nat.ofDigitChars_nil, List.append_nil]
  | cons char chars ih =>
      obtain ⟨value, small, spelled, same⟩ := digit_char_value char (all char List.mem_cons_self)
      have later := ih (10 * number + value) (by omega) (fun other member => all other (List.mem_cons_of_mem _ member))
      have long := digits_long (10 * number + value) (by omega)
      have leading : (10 * number + value) / 10 = number := by omega
      have last : (10 * number + value) % 10 = value := by omega
      rw [leading, last] at long
      rw [Nat.ofDigitChars_cons, same, later, long, spelled, List.append_assoc]
      rfl

theorem digits_value (chars : List Char) (canonical : isCanonical chars = true) : digits (value chars) = chars := by
  match chars, canonical with
  | [char], canonical =>
      obtain ⟨number, small, spelled, same⟩ := digit_char_value char canonical
      rw [value, Nat.ofDigitChars_cons, Nat.ofDigitChars_nil, same, Nat.mul_zero, Nat.zero_add, spelled]
      exact Nat.toDigits_of_lt_base small
  | first :: second :: rest, canonical =>
      obtain ⟨leading, later⟩ := Bool.and_eq_true_iff.mp canonical
      obtain ⟨digit, significant⟩ := Bool.and_eq_true_iff.mp leading
      obtain ⟨number, small, spelled, same⟩ := digit_char_value first digit
      have positive : 0 < number := by
        apply Nat.pos_of_ne_zero
        rintro rfl
        exact of_decide_eq_true significant spelled
      rw [value, Nat.ofDigitChars_cons, same, Nat.mul_zero, Nat.zero_add,
        digits_read_on _ number positive (List.all_eq_true.mp later), digits, Nat.toDigits_of_lt_base small, spelled]
      rfl

theorem read_eq_some_iff (chars : List Char) (number : Nat) : read? chars = some number ↔ chars = digits number := by
  constructor
  · intro read
    obtain ⟨canonical, same⟩ := (Option.ite_none_right_eq_some.mp read)
    rw [← Option.some.inj same, digits_value chars canonical]
  · rintro rfl
    exact read_digits number

end ChainRules.Decimal
