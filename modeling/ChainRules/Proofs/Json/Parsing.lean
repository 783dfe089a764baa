import ChainRules.Json.Parse
import ChainRules.Proofs.Json.Scanning
import Mathlib

set_option autoImplicit false

namespace ChainRules.Json

theorem tokens_leading (json : Json) : ∃ first rest, json.tokens = first :: rest ∧ first ≠ .closeArray := by
  cases json with
  | null => exact ⟨_, _, rfl, by simp⟩
  | bool value => exact ⟨_, _, rfl, by simp⟩
  | integer value => exact ⟨_, _, rfl, by simp⟩
  | real spelling => exact ⟨_, _, rfl, by simp⟩
  | text units => exact ⟨_, _, rfl, by simp⟩
  | array elements => cases elements <;> exact ⟨_, _, rfl, by simp⟩
  | object members =>
      cases members with
      | nil => exact ⟨_, _, rfl, by simp⟩
      | cons member members => exact ⟨_, _, rfl, by simp⟩

namespace ParseState

theorem step_first_element (frames : List Frame) (token : JsonToken) (element : token ≠ .closeArray) :
    step (.wantFirstElement frames) token = step (.wantValue (.array [] :: frames)) token := by
  cases token with
  | closeArray => exact absurd rfl element
  | _ => rfl

theorem first_element (frames : List Frame) (json : Json) :
    json.tokens.foldlM step (.wantFirstElement frames) =
      json.tokens.foldlM step (.wantValue (.array [] :: frames)) := by
  obtain ⟨first, rest, leading, element⟩ := json.tokens_leading
  rw [leading, List.foldlM_cons, List.foldlM_cons, step_first_element frames first element]

mutual

theorem parse_tokens (json : Json) (frames : List Frame) :
    json.tokens.foldlM step (.wantValue frames) = some (complete json frames) := by
  cases json with
  | null => rfl
  | bool value => rfl
  | integer value => rfl
  | real spelling => rfl
  | text units => rfl
  | array elements =>
      cases elements with
      | nil => rfl
      | cons first elements =>
          have opened := first_element frames first
          rw [parse_tokens first (.array [] :: frames)] at opened
          rw [tokens, List.cons_append, List.foldlM_cons]
          change (first.tokens ++ elementTokens elements).foldlM step (.wantFirstElement frames) = _
          rw [List.foldlM_append, opened]
          exact parse_elements [first] elements frames
  | object members =>
      cases members with
      | nil => rfl
      | cons member members =>
          obtain ⟨name, value⟩ := member
          change (value.tokens ++ memberTokens members).foldlM step (.wantValue (.object [] name :: frames)) = _
          rw [List.foldlM_append, parse_tokens value (.object [] name :: frames)]
          exact parse_members [(name, value)] members frames

theorem parse_elements (taken elements : List Json) (frames : List Frame) :
    (elementTokens elements).foldlM step (.afterElement taken frames) =
      some (complete (.array (taken.reverse ++ elements)) frames) := by
  cases elements with
  | nil =>
      rw [List.append_nil]
      rfl
  | cons element elements =>
      change (element.tokens ++ elementTokens elements).foldlM step (.wantValue (.array taken :: frames)) = _
      rw [List.foldlM_append, parse_tokens element (.array taken :: frames)]
      have rest := parse_elements (element :: taken) elements frames
      rw [List.reverse_cons, List.append_assoc] at rest
      exact rest

theorem parse_members (taken members : List (JsonText × Json)) (frames : List Frame) :
    (memberTokens members).foldlM step (.afterMember taken frames) =
      some (complete (.object (taken.reverse ++ members)) frames) := by
  cases members with
  | nil =>
      rw [List.append_nil]
      rfl
  | cons member members =>
      obtain ⟨name, value⟩ := member
      change (value.tokens ++ memberTokens members).foldlM step (.wantValue (.object taken name :: frames)) = _
      rw [List.foldlM_append, parse_tokens value (.object taken name :: frames)]
      have rest := parse_members ((name, value) :: taken) members frames
      rw [List.reverse_cons, List.append_assoc] at rest
      exact rest

end

end ParseState

theorem of_tokens (json : Json) : ofTokens? json.tokens = some json := by
  rw [ofTokens?, ParseState.parse_tokens]
  rfl

end ChainRules.Json
