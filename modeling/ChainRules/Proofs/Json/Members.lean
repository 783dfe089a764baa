import ChainRules.Config
import ChainRules.Proofs.Json.Reordered
import Mathlib

set_option autoImplicit false

namespace ChainRules.Json

-- A text that names these characters, escaped or not: no half of a surrogate pair stands alone in it.
def IsString (json : Json) (text : String) : Prop :=
  ∃ units, json = .text units ∧ JsonText.string? units = some text

def valuesNamed (name : String) (members : List (JsonText × Json)) : List Json :=
  (members.filter (fun member => JsonText.string? member.1 == some name)).map Prod.snd

theorem as_string_iff (json : Json) (text : String) : json.as? String = some text ↔ json.IsString text := by
  cases json with
  | text units =>
      constructor
      · exact fun read => ⟨units, rfl, read⟩
      · rintro ⟨_, same, read⟩
        obtain rfl := Json.text.inj same
        exact read
  | _ => exact iff_of_false (fun read => nomatch read) (fun ⟨_, same, _⟩ => nomatch same)

theorem named_members_iff (members : List (JsonText × Json)) (named : List (String × Json)) :
    namedMembers? members = some named ↔
      List.Forall₂ (fun member entry => JsonText.string? member.1 = some entry.1 ∧ member.2 = entry.2) members
        named := by
  have each : ∀ (member : JsonText × Json) (entry : String × Json),
      namedMember? member = some entry ↔ JsonText.string? member.1 = some entry.1 ∧ member.2 = entry.2 := by
    intro member entry
    rw [namedMember?, Option.map_eq_some_iff]
    constructor
    · rintro ⟨name, read, rfl⟩
      exact ⟨read, rfl⟩
    · rintro ⟨read, same⟩
      exact ⟨entry.1, read, by rw [same]⟩
  rw [named_members_each, map_some_iff]
  simp only [each]

theorem values_of_named (name : String) (members : List (JsonText × Json)) (named : List (String × Json))
    (read : namedMembers? members = some named) : valuesOf name named = valuesNamed name members := by
  rw [named_members_iff] at read
  induction read with
  | nil => rfl
  | @cons member entry members named first _ ih =>
      obtain ⟨same, value⟩ := first
      have beginning : (JsonText.string? member.1 == some name) = (entry.1 == name) := by
        rw [same, Option.some_beq_some]
      rw [valuesOf, valuesNamed] at ih ⊢
      rw [List.filter_cons, List.filter_cons, beginning]
      by_cases found : (entry.1 == name) = true
      · rw [if_pos found, if_pos found, List.map_cons, List.map_cons, ih, value]
      · rw [if_neg found, if_neg found, ih]

theorem named_in (names : List String) (members : List (JsonText × Json)) (named : List (String × Json))
    (read : namedMembers? members = some named) :
    (∀ entry ∈ named, entry.1 ∈ names) ↔ ∀ member ∈ members, ∃ name ∈ names, JsonText.string? member.1 = some name := by
  rw [named_members_iff] at read
  induction read with
  | nil => simp
  | @cons member entry members named first _ ih =>
      rw [List.forall_mem_cons, List.forall_mem_cons, ih, first.1]
      simp

theorem named_of_in (names : List String) (members : List (JsonText × Json))
    (known : ∀ member ∈ members, ∃ name ∈ names, JsonText.string? member.1 = some name) :
    ∃ named, namedMembers? members = some named := by
  induction members with
  | nil => exact ⟨[], rfl⟩
  | cons member members ih =>
      obtain ⟨name, _, read⟩ := known member List.mem_cons_self
      obtain ⟨named, rest⟩ := ih (fun other later => known other (List.mem_cons_of_mem _ later))
      exact ⟨(name, member.2) :: named, by rw [namedMembers?, read, rest]; rfl⟩

def SetBy {α : Type} [JsonForm α] (fallback : α) : List Json → α → Prop
  | [], value => value = fallback
  | [json], value => json.as? α = some value
  | _, _ => False

theorem read_field {α : Type} [JsonForm α] (fallback : α) (named : List (String × Json)) (name : String) (value : α) :
    (optional? named name).bind (JsonForm.orDefault? fallback) = some value ↔
      SetBy fallback (valuesOf name named) value := by
  unfold optional?
  match valuesOf name named with
  | [] => exact ⟨fun read => (Option.some.inj read).symm, fun same => congrArg some same.symm⟩
  | [json] => exact Iff.rfl
  | _ :: _ :: _ => exact iff_of_false (fun read => nomatch read) id

theorem set_by_exists {α : Type} [JsonForm α] (fallback : α) (values : List Json) :
    (∃ value, SetBy fallback values value) ↔
      values.length ≤ 1 ∧ ∀ json ∈ values, ∃ value, json.as? α = some value := by
  match values with
  | [] => simp [SetBy]
  | [json] => simp [SetBy]
  | _ :: _ :: _ => simp [SetBy]

theorem set_by_given {α : Type} [JsonForm α] (fallback : α) (values : List Json) (value : α)
    (given : SetBy fallback values value) :
    (values = [] → value = fallback) ∧ ∀ json ∈ values, json.as? α = some value := by
  match values, given with
  | [], given => exact ⟨fun _ => given, by simp⟩
  | [json], given =>
      refine ⟨fun absent => absurd absent (List.cons_ne_nil _ _), fun other member => ?_⟩
      rw [List.mem_singleton.mp member]
      exact given

theorem set_by_perm {α : Type} [JsonForm α] (fallback : α) (values others : List Json) (order : values.Perm others)
    (value : α) (given : SetBy fallback values value) : SetBy fallback others value := by
  match values, given with
  | [], given =>
      rw [order.nil_eq.symm]
      exact given
  | [json], given =>
      rw [order.singleton_eq.symm]
      exact given

theorem optional_fields_iff (names : List String) (members : List (JsonText × Json)) (values : List (Option Json)) :
    (Json.object members).optionalFields? names = some values ↔
      ∃ named, namedMembers? members = some named ∧ (∀ entry ∈ named, entry.1 ∈ names) ∧
        List.Forall₂ (fun name value => optional? named name = some value) names values := by
  rw [optionalFields?, Option.bind_eq_some_iff]
  refine exists_congr (fun named => and_congr_right (fun _ => ?_))
  rw [Option.ite_none_right_eq_some, map_some_iff, List.all_eq_true]
  simp only [List.contains_iff_mem]

end ChainRules.Json
