import ChainRules.Json.Form
import ChainRules.Proofs.Json.Scanning
import Mathlib

set_option autoImplicit false

namespace ChainRules

theorem map_some_iff {α β : Type} (f : α → Option β) (items : List α) (values : List β) :
    items.mapM f = some values ↔ List.Forall₂ (fun item value => f item = some value) items values := by
  induction items generalizing values with
  | nil => simp [List.forall₂_nil_left_iff, eq_comm]
  | cons item items ih =>
      rw [List.mapM_cons, List.forall₂_cons_left_iff]
      constructor
      · intro read
        obtain ⟨value, first, read⟩ := Option.bind_eq_some_iff.mp read
        obtain ⟨others, later, read⟩ := Option.bind_eq_some_iff.mp read
        exact ⟨value, others, first, (ih others).mp later, (Option.some.inj read).symm⟩
      · rintro ⟨value, others, first, later, rfl⟩
        rw [first, (ih others).mpr later]
        rfl

theorem map_some_of_perm {α β : Type} (f : α → Option β) (items others : List α) (values : List β)
    (order : items.Perm others) (read : items.mapM f = some values) :
    ∃ moved, others.mapM f = some moved ∧ moved.Perm values := by
  obtain ⟨moved, each, same⟩ := List.perm_comp_forall₂ order.symm ((map_some_iff f items values).mp read)
  exact ⟨moved, (map_some_iff f others moved).mpr each, same⟩

theorem map_some_related {α β γ : Type} (f : β → Option γ) (related : α → γ → Prop) (items : List α) (others : List β)
    (each : List.Forall₂ (fun item other => ∃ value, f other = some value ∧ related item value) items others) :
    ∃ values, others.mapM f = some values ∧ List.Forall₂ related items values := by
  induction each with
  | nil => exact ⟨[], rfl, .nil⟩
  | cons first _ ih =>
      obtain ⟨value, read, same⟩ := first
      obtain ⟨values, later, sameLater⟩ := ih
      refine ⟨value :: values, ?_, .cons same sameLater⟩
      rw [List.mapM_cons, read, later]
      rfl

theorem related_of_mem {α β : Type} (related : α → β → Prop) (items : List α) (others : List β)
    (each : List.Forall₂ related items others) (other : β) (member : other ∈ others) :
    ∃ item ∈ items, related item other := by
  induction each with
  | nil => cases member
  | cons first _ ih =>
      rcases List.mem_cons.mp member with rfl | later
      · exact ⟨_, List.mem_cons_self, first⟩
      · obtain ⟨item, within, same⟩ := ih later
        exact ⟨item, List.mem_cons_of_mem _ within, same⟩

theorem split_related {α β : Type} (related : α → β → Prop) (items : List α) (earlier : List β) (other : β)
    (later : List β) (each : List.Forall₂ related items (earlier ++ other :: later)) :
    ∃ before item after, items = before ++ item :: after ∧ related item other ∧ List.Forall₂ related after later := by
  induction earlier generalizing items with
  | nil =>
      obtain ⟨item, after, first, rest, rfl⟩ := List.forall₂_cons_right_iff.mp each
      exact ⟨[], item, after, rfl, first, rest⟩
  | cons _ earlier ih =>
      obtain ⟨item, others, _, rest, rfl⟩ := List.forall₂_cons_right_iff.mp each
      obtain ⟨before, found, after, rfl, same, following⟩ := ih others rest
      exact ⟨item :: before, found, after, rfl, same, following⟩

theorem related_exists_iff {α β : Type} (related : α → β → Prop) (items : List α) :
    (∃ others, List.Forall₂ related items others) ↔ ∀ item ∈ items, ∃ other, related item other := by
  induction items with
  | nil => simp
  | cons item items ih =>
      rw [List.forall_mem_cons, ← ih]
      constructor
      · rintro ⟨others, each⟩
        obtain ⟨other, rest, first, later, _⟩ := List.forall₂_cons_left_iff.mp each
        exact ⟨⟨other, first⟩, rest, later⟩
      · rintro ⟨⟨other, first⟩, rest, later⟩
        exact ⟨other :: rest, .cons first later⟩

theorem JsonText.string_of_string (text : String) : string? (ofString text) = some text := by
  have chars : ∀ chars : List Char, chars? (chars.map JsonUnit.ofChar) = some chars := by
    intro chars
    rw [chars?, map_some_iff, List.forall₂_map_left_iff, List.forall₂_same]
    intro char _
    unfold JsonUnit.ofChar
    split <;> rfl
  rw [string?, ofString, chars, Option.map_some, String.ofList_toList]

theorem JsonText.written_of_string (text : String) : Written (ofString text) := ⟨text.toList, rfl⟩

namespace Json

theorem written_elements_iff (elements : List Json) :
    WrittenElements elements ↔ ∀ element ∈ elements, element.Written := by
  induction elements with
  | nil => simp [WrittenElements]
  | cons element elements ih => simp [WrittenElements, ih]

theorem written_members_iff (members : List (JsonText × Json)) :
    WrittenMembers members ↔ ∀ member ∈ members, JsonText.Written member.1 ∧ member.2.Written := by
  induction members with
  | nil => simp [WrittenMembers]
  | cons member members ih => simp [WrittenMembers, ih, and_assoc]

-- The members of an object are reordered inside, keeping their names, and then put in another order.
inductive Reordered : Json → Json → Prop where
  | same (json : Json) : Reordered json json
  | array (elements others : List Json) (each : List.Forall₂ Reordered elements others) :
      Reordered (.array elements) (.array others)
  | object (members moved others : List (JsonText × Json)) (names : moved.map Prod.fst = members.map Prod.fst)
      (values : List.Forall₂ Reordered (members.map Prod.snd) (moved.map Prod.snd)) (order : moved.Perm others) :
      Reordered (.object members) (.object others)

def Moved (member place : JsonText × Json) : Prop := place.1 = member.1 ∧ member.2.Reordered place.2

theorem each_moved (members moved : List (JsonText × Json)) (names : moved.map Prod.fst = members.map Prod.fst)
    (values : List.Forall₂ Reordered (members.map Prod.snd) (moved.map Prod.snd)) :
    List.Forall₂ Moved members moved := by
  induction members generalizing moved with
  | nil =>
      rw [List.map_eq_nil_iff.mp names]
      exact .nil
  | cons member members ih =>
      cases moved with
      | nil => cases names
      | cons place moved =>
          obtain ⟨name, laterNames⟩ := List.cons.inj names
          obtain ⟨value, laterValues⟩ := List.forall₂_cons.mp values
          exact .cons ⟨name, value⟩ (ih moved laterNames laterValues)

namespace Reordered

theorem of_integer (value : Int) (json : Json) (reordered : Reordered (.integer value) json) :
    json = .integer value := by
  cases reordered
  rfl

theorem of_text (units : JsonText) (json : Json) (reordered : Reordered (.text units) json) :
    json = .text units := by
  cases reordered
  rfl

theorem of_array (elements : List Json) (json : Json) (reordered : Reordered (.array elements) json) :
    ∃ others, json = .array others ∧ List.Forall₂ Reordered elements others := by
  cases reordered with
  | same => exact ⟨elements, rfl, List.forall₂_same.mpr (fun element _ => same element)⟩
  | array _ others each => exact ⟨others, rfl, each⟩

theorem of_object (members : List (JsonText × Json)) (json : Json) (reordered : Reordered (.object members) json) :
    ∃ moved others, json = .object others ∧ List.Forall₂ Moved members moved ∧ moved.Perm others := by
  cases reordered with
  | same => exact ⟨members, members, rfl, List.forall₂_same.mpr (fun member _ => ⟨rfl, same member.2⟩), .refl _⟩
  | object _ moved others names values order => exact ⟨moved, others, rfl, each_moved members moved names values, order⟩

end Reordered

theorem written_reordered (json other : Json) (written : json.Written) (reordered : json.Reordered other) :
    other.Written := by
  cases json with
  | null => cases reordered; exact written
  | bool value => cases reordered; exact written
  | integer value => cases reordered; exact written
  | real spelling => cases reordered; exact written
  | text units => cases reordered; exact written
  | array elements =>
      obtain ⟨others, rfl, each⟩ := reordered.of_array elements other
      refine (written_elements_iff others).mpr (fun moved within => ?_)
      obtain ⟨element, member, same⟩ := related_of_mem _ elements others each moved within
      exact written_reordered element moved ((written_elements_iff elements).mp written element member) same
  | object members =>
      obtain ⟨moved, others, rfl, each, order⟩ := reordered.of_object members other
      refine (written_members_iff others).mpr (fun place within => ?_)
      obtain ⟨member, standing, name, same⟩ := related_of_mem _ members moved each place (order.mem_iff.mpr within)
      obtain ⟨nameWritten, valueWritten⟩ := (written_members_iff members).mp written member standing
      exact ⟨name ▸ nameWritten, written_reordered member.2 place.2 valueWritten same⟩
termination_by sizeOf json
decreasing_by
  · subst_vars
    have smaller := List.sizeOf_lt_of_mem member
    rw [array.sizeOf_spec]
    omega
  · subst_vars
    have smaller := List.sizeOf_lt_of_mem standing
    have inside : sizeOf member.2 < sizeOf member := by
      obtain ⟨name, value⟩ := member
      simp
    rw [object.sizeOf_spec]
    omega

section Records

def textMember (member : String × Json) : JsonText × Json := (JsonText.ofString member.1, member.2)

def namedMember? (member : JsonText × Json) : Option (String × Json) :=
  (JsonText.string? member.1).map (fun name => (name, member.2))

theorem named_members_each (members : List (JsonText × Json)) : namedMembers? members = members.mapM namedMember? := by
  induction members with
  | nil => rfl
  | cons member members ih =>
      rw [List.mapM_cons, namedMembers?, ih, namedMember?]
      cases JsonText.string? member.1 with
      | none => rfl
      | some name => cases members.mapM namedMember? <;> rfl

def Carried (member carried : String × Json) : Prop := carried.1 = member.1 ∧ member.2.Reordered carried.2

theorem named_member_moved (member : String × Json) (place : JsonText × Json)
    (moved : Moved (textMember member) place) : ∃ carried, namedMember? place = some carried ∧ Carried member carried := by
  obtain ⟨name, value⟩ := moved
  refine ⟨(member.1, place.2), ?_, rfl, value⟩
  rw [namedMember?, name, textMember, JsonText.string_of_string]
  rfl

theorem carried_names (named carried : List (String × Json)) (each : List.Forall₂ Carried named carried) :
    carried.map Prod.fst = named.map Prod.fst := by
  induction each with
  | nil => rfl
  | cons first _ ih => exact congrArg₂ List.cons first.1 ih

theorem carried_values (named carried : List (String × Json)) (each : List.Forall₂ Carried named carried) :
    List.Forall₂ Reordered (named.map Prod.snd) (carried.map Prod.snd) := by
  rw [List.forall₂_map_left_iff, List.forall₂_map_right_iff]
  exact each.imp (fun _ _ same => same.2)

theorem record_members (named : List (String × Json)) (json : Json) (reordered : (record named).Reordered json) :
    ∃ (carried found : List (String × Json)) (others : List (JsonText × Json)),
      json = .object others ∧ namedMembers? others = some found ∧ found.Perm carried ∧
      List.Forall₂ Carried named carried := by
  obtain ⟨moved, others, rfl, each, order⟩ := reordered.of_object (named.map textMember) json
  have kept := (List.forall₂_map_left_iff.mp each).imp named_member_moved
  obtain ⟨carried, whole, same⟩ := map_some_related namedMember? Carried named moved kept
  obtain ⟨found, read, foundOrder⟩ := map_some_of_perm namedMember? moved others carried order whole
  exact ⟨carried, found, others, rfl, (named_members_each others).trans read, foundOrder, same⟩

theorem values_of_absent (name : String) (named : List (String × Json)) (absent : name ∉ named.map Prod.fst) :
    valuesOf name named = [] := by
  rw [valuesOf, List.filter_eq_nil_iff.mpr, List.map_nil]
  intro member within same
  exact absent (eq_of_beq same ▸ List.mem_map_of_mem within)

theorem values_of_mem (named : List (String × Json)) (distinct : (named.map Prod.fst).Nodup) (member : String × Json)
    (within : member ∈ named) : valuesOf member.1 named = [member.2] := by
  induction named with
  | nil => cases within
  | cons first named ih =>
      obtain ⟨apart, distinctLater⟩ := List.nodup_cons.mp distinct
      have later := ih distinctLater
      rw [valuesOf, List.filter_cons]
      rcases List.mem_cons.mp within with rfl | within
      · rw [if_pos (beq_self_eq_true _), List.map_cons]
        exact congrArg (member.2 :: ·) (values_of_absent member.1 named apart)
      · have other : ¬ (first.1 == member.1) = true :=
          fun same => apart (eq_of_beq same ▸ List.mem_map_of_mem within)
        rw [if_neg other]
        exact later within

theorem lookups (β : Type) (look : List (String × Json) → String → Option β) (made : Json → β)
    (carried found : List (String × Json)) (order : found.Perm carried) (distinct : (carried.map Prod.fst).Nodup)
    (single : ∀ name value, valuesOf name found = [value] → look found name = some (made value)) :
    (carried.map Prod.fst).mapM (look found) = some (carried.map (fun member => made member.2)) := by
  have foundDistinct : (found.map Prod.fst).Nodup := (order.map Prod.fst).nodup_iff.mpr distinct
  rw [map_some_iff, List.forall₂_map_left_iff, List.forall₂_map_right_iff, List.forall₂_same]
  intro member within
  exact single _ _ (values_of_mem found foundDistinct member (order.mem_iff.mpr within))

theorem fields_reordered (named : List (String × Json)) (distinct : (named.map Prod.fst).Nodup) (json : Json)
    (reordered : (record named).Reordered json) :
    ∃ values, json.fields? (named.map Prod.fst) = some values ∧
      List.Forall₂ Reordered (named.map Prod.snd) values := by
  obtain ⟨carried, found, others, rfl, read, order, each⟩ := record_members named json reordered
  refine ⟨carried.map Prod.snd, ?_, carried_values named carried each⟩
  rw [← carried_names named carried each] at distinct ⊢
  rw [fields?, read]
  apply lookups Json required? id carried found order distinct
  intro name value single
  rw [required?, single]
  rfl

theorem optional_fields_reordered (named : List (String × Json)) (distinct : (named.map Prod.fst).Nodup) (json : Json)
    (reordered : (record named).Reordered json) :
    ∃ values, json.optionalFields? (named.map Prod.fst) = some (values.map some) ∧
      List.Forall₂ Reordered (named.map Prod.snd) values := by
  obtain ⟨carried, found, others, rfl, read, order, each⟩ := record_members named json reordered
  refine ⟨carried.map Prod.snd, ?_, carried_values named carried each⟩
  rw [← carried_names named carried each] at distinct ⊢
  have known : found.all (fun member => (carried.map Prod.fst).contains member.1) = true := by
    rw [List.all_eq_true]
    intro member within
    exact List.contains_iff_mem.mpr (List.mem_map_of_mem (order.mem_iff.mp within))
  rw [optionalFields?, read, Option.bind_some, if_pos known, List.map_map]
  apply lookups (Option Json) optional? some carried found order distinct
  intro name value single
  rw [optional?, single]

theorem record_written (named : List (String × Json)) (each : ∀ value ∈ named.map Prod.snd, value.Written) :
    (record named).Written := by
  refine (written_members_iff (named.map textMember)).mpr (fun place within => ?_)
  obtain ⟨member, memberWithin, rfl⟩ := List.mem_map.mp within
  exact ⟨JsonText.written_of_string member.1, each member.2 (List.mem_map_of_mem memberWithin)⟩

end Records

end Json

end ChainRules
