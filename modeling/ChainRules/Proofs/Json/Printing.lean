import ChainRules.Proofs.Json.Grammar
import Mathlib

set_option autoImplicit false

namespace ChainRules

theorem JsonUnit.spelled_escaped (char : Char) : (JsonUnit.escaped char).Spelled (Json.escapedChar char) := by
  unfold Json.escapedChar
  split_ifs with literal newline carriage tab backspace feed narrow
  · rcases literal with rfl | rfl
    · exact .short '"' '"' (by decide)
    · exact .short '\\' '\\' (by decide)
  · exact newline ▸ .short 'n' '\n' (by decide)
  · exact carriage ▸ .short 'r' '\r' (by decide)
  · exact tab ▸ .short 't' '\t' (by decide)
  · exact backspace ▸ .short 'b' (Char.ofNat 8) (by decide)
  · exact feed ▸ .short 'f' (Char.ofNat 12) (by decide)
  · exact .code char _ ⟨narrow, Hex.digits_lower _⟩
  · have bound := JsonToken.char_bound char
    exact .pair char _ _ (Nat.le_of_not_lt narrow) ⟨by omega, Hex.digits_lower _⟩ ⟨by omega, Hex.digits_lower _⟩

theorem JsonUnit.spelled_char (char : Char) : (JsonUnit.ofChar char).Spelled (Json.unitChars (.ofChar char)) := by
  unfold JsonUnit.ofChar
  by_cases escaped : JsonUnit.mustEscape char = true
  · rw [if_pos escaped]
    exact spelled_escaped char
  · rw [if_neg escaped, Json.unitChars, if_neg escaped]
    exact .plain char (Bool.eq_false_of_not_eq_true escaped)

theorem JsonText.spelled_written (units : JsonText) (written : units.Written) :
    units.Spelled (units.flatMap Json.unitChars) := by
  obtain ⟨chars, rfl⟩ := written
  induction chars with
  | nil => exact .nil
  | cons char chars ih =>
      have whole : ∀ code, JsonUnit.ofChar char ≠ .surrogate code := by
        intro code
        unfold JsonUnit.ofChar
        split <;> exact fun same => nomatch same
      exact .cons_char _ _ _ _ (JsonUnit.spelled_char char) whole ih

namespace Json

theorem spelled_member (name : JsonText) (value : Json) (rest : List (JsonText × Json)) (chars more : List Char)
    (written : name.Written) (spelled : Spelled (.value value) chars) (following : Spelled (.members rest) more) :
    Spelled (.member name value rest) (textChars name ++ ':' :: chars ++ more) := by
  have shape : textChars name ++ ':' :: chars ++ more =
      '"' :: name.flatMap unitChars ++ '"' :: (':' :: chars ++ more) := by
    simp [textChars]
  rw [shape]
  exact .member name value rest _ _ (JsonText.spelled_written name written)
    (.colon value rest chars more spelled following)

mutual

theorem spelled_value (json : Json) (written : json.Written) : Spelled (.value json) (chars json) := by
  cases json with
  | null => exact .scalar _ _ .null
  | bool value =>
      cases value with
      | true => exact .scalar _ _ .true
      | false => exact .scalar _ _ .false
  | integer value => exact .scalar _ _ (.integer value)
  | real spelling => exact written.elim
  | text units => exact .text units _ (JsonText.spelled_written units written)
  | array elements =>
      cases elements with
      | nil => exact .emptyArray _ .closeArray
      | cons first elements =>
          exact .array first elements _ _ (spelled_value first written.1) (spelled_elements elements written.2)
  | object members =>
      cases members with
      | nil => exact .emptyObject _ .closeObject
      | cons member members =>
          obtain ⟨name, value⟩ := member
          obtain ⟨nameWritten, valueWritten, restWritten⟩ := written
          exact .object name value members _ (spelled_member name value members _ _ nameWritten
            (spelled_value value valueWritten) (spelled_members members restWritten))

theorem spelled_elements (elements : List Json) (written : WrittenElements elements) :
    Spelled (.elements elements) (elementChars elements) := by
  cases elements with
  | nil => exact .closeArray
  | cons element elements =>
      exact .nextElement element elements _ _ (spelled_value element written.1) (spelled_elements elements written.2)

theorem spelled_members (members : List (JsonText × Json)) (written : WrittenMembers members) :
    Spelled (.members members) (memberChars members) := by
  cases members with
  | nil => exact .closeObject
  | cons member members =>
      obtain ⟨name, value⟩ := member
      obtain ⟨nameWritten, valueWritten, restWritten⟩ := written
      exact .nextMember name value members _ (spelled_member name value members _ _ nameWritten
        (spelled_value value valueWritten) (spelled_members members restWritten))

end

theorem parse_print (json : Json) (written : json.Written) : parse? json.print = some json := by
  refine parse_spelled json json.print ⟨chars json, [], json.spelled_value written, List.all_eq_true.mp rfl, ?_⟩
  rw [print, String.toList_ofList, List.append_nil]

end Json

end ChainRules
