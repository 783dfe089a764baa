import ChainRules.Block.Form
import ChainRules.Proofs.Json.Reordered
import ChainRules.Proofs.Text.Display
import Mathlib

set_option autoImplicit false

namespace ChainRules

class LawfulForm (α : Type) [JsonForm α] : Prop where
  written : ∀ value : α, (toJson value).Written
  read : ∀ (value : α) (json : Json), (toJson value).Reordered json → json.as? α = some value

namespace LawfulForm

theorem of_numbers {α : Type} [JsonForm α] (low high : Int) (number : α → Int) (made : Int → α)
    (form : ∀ value : α, toJson value = .integer (number value))
    (reader : ∀ json : Json, json.as? α = (json.integerWithin? low high).map made)
    (bounds : ∀ value, low ≤ number value ∧ number value ≤ high) (restored : ∀ value, made (number value) = value) :
    LawfulForm α where
  written value := by
    rw [form]
    trivial
  read value json reordered := by
    rw [form] at reordered
    rw [Json.Reordered.of_integer _ json reordered, reader, Json.integerWithin?, if_pos (bounds value), Option.map_some,
      restored]

theorem of_texts {α : Type} [JsonForm α] (text : α → String)
    (form : ∀ value : α, toJson value = Json.string (text value))
    (read : ∀ value : α, (Json.string (text value)).as? α = some value) : LawfulForm α where
  written value := by
    rw [form]
    exact JsonText.written_of_string (text value)
  read value json reordered := by
    rw [form] at reordered
    rw [Json.Reordered.of_text _ json reordered]
    exact read value

section Numbers

instance : LawfulForm UInt8 :=
  of_numbers 0 0xff (fun value => value.toNat) (fun number => UInt8.ofNat number.toNat) (fun _ => rfl) (fun _ => rfl)
    (fun value => by
      have bound := value.toNat_lt
      omega)
    (fun _ => UInt8.ofNat_toNat)

instance : LawfulForm UInt32 :=
  of_numbers 0 0xffffffff (fun value => value.toNat) (fun number => UInt32.ofNat number.toNat) (fun _ => rfl)
    (fun _ => rfl)
    (fun value => by
      have bound := value.toNat_lt
      omega)
    (fun _ => UInt32.ofNat_toNat)

instance : LawfulForm UInt64 :=
  of_numbers 0 0xffffffffffffffff (fun value => value.toNat) (fun number => UInt64.ofNat number.toNat) (fun _ => rfl)
    (fun _ => rfl)
    (fun value => by
      have bound := value.toNat_lt
      omega)
    (fun _ => UInt64.ofNat_toNat)

instance : LawfulForm Int32 :=
  of_numbers _ _ Int32.toInt Int32.ofInt (fun _ => rfl) (fun _ => rfl)
    (fun value => ⟨value.minValue_le_toInt, value.toInt_le⟩) Int32.ofInt_toInt

instance : LawfulForm Int64 :=
  of_numbers _ _ Int64.toInt Int64.ofInt (fun _ => rfl) (fun _ => rfl)
    (fun value => ⟨value.minValue_le_toInt, value.toInt_le⟩) Int64.ofInt_toInt

instance : LawfulForm CompactBits where
  written bits := written bits.value
  read bits json reordered := by
    have value : json.as? UInt32 = some bits.value := read bits.value json reordered
    change (json.as? UInt32).map CompactBits.mk = some bits
    rw [value, Option.map_some]

end Numbers

section Texts

instance : LawfulForm String := of_texts id (fun _ => rfl) JsonText.string_of_string

theorem read_string (text : String) : (Json.string text).as? String = some text := read text _ (.same _)

instance : LawfulForm BlockHash := of_texts BlockHash.display (fun _ => rfl) (by
  intro hash
  have reader : ∀ json : Json, json.as? BlockHash = (json.as? String).bind BlockHash.parse? := fun _ => rfl
  rw [reader, read_string, Option.bind_some, BlockHash.parse_display])

instance : LawfulForm Target := of_texts Target.display (fun _ => rfl) (by
  intro target
  have reader : ∀ json : Json, json.as? Target = (json.as? String).bind (fun text => (Target.ofHex text).toOption) :=
    fun _ => rfl
  rw [reader, read_string, Option.bind_some, Target.of_hex_display]
  rfl)

end Texts

section Lists

instance {α : Type} [JsonForm α] [LawfulForm α] : LawfulForm (List α) where
  written values := by
    refine (Json.written_elements_iff (values.map toJson)).mpr (fun element member => ?_)
    obtain ⟨value, _, rfl⟩ := List.mem_map.mp member
    exact written value
  read values json reordered := by
    obtain ⟨others, rfl, each⟩ := Json.Reordered.of_array (values.map toJson) json reordered
    change others.mapM (Json.as? α) = some values
    rw [map_some_iff]
    exact ((List.forall₂_map_left_iff.mp each).imp read).flip

instance : LawfulForm Bytes32 where
  written bytes := written bytes.toList
  read bytes json reordered := by
    have whole : json.as? (List UInt8) = some bytes.toList := read bytes.toList json reordered
    change (json.as? (List UInt8)).bind Bytes32.ofList? = some bytes
    rw [whole, Option.bind_some, Bytes32.of_list_to_list]

end Lists

end LawfulForm

end ChainRules
