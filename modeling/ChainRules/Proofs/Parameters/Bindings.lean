import ChainRules.Parameters.Form
import ChainRules.Proofs.Json.Grammar
import ChainRules.Proofs.Json.Members
import ChainRules.Proofs.Parameters.Checkpoints
import ChainRules.Proofs.Text.Display
import Mathlib

set_option autoImplicit false

namespace ChainRules

section Hashes

def IsHash (json : Json) : Prop :=
  ∃ digits, json.IsString digits ∧ digits.length = 64 ∧ ∀ char ∈ digits.toList, Hex.IsDigit char

def GivesHash (json : Json) (hash : BlockHash) : Prop :=
  ∃ digits, json.IsString digits ∧ digits.toLower = hash.display

theorem as_hash_iff (json : Json) (hash : BlockHash) : json.as? BlockHash = some hash ↔ GivesHash json hash := by
  change (json.as? String).bind BlockHash.parse? = some hash ↔ _
  rw [Option.bind_eq_some_iff]
  refine exists_congr (fun digits => ?_)
  rw [Json.as_string_iff, BlockHash.parse_eq_some_iff]

theorem is_hash_iff (json : Json) : IsHash json ↔ ∃ hash, GivesHash json hash := by
  constructor
  · rintro ⟨digits, string, hex⟩
    obtain ⟨hash, read⟩ := (BlockHash.parses_iff digits).mpr hex
    exact ⟨hash, digits, string, (BlockHash.parse_eq_some_iff digits hash).mp read⟩
  · rintro ⟨hash, digits, string, same⟩
    exact ⟨digits, string, (BlockHash.parses_iff digits).mp ⟨hash, (BlockHash.parse_eq_some_iff digits hash).mpr same⟩⟩

end Hashes

section Bindings

-- The name of a binding stands for a height if it is the height's decimal digits as they are, none of them escaped.
def WrittenHeight (name : JsonText) (height : UInt32) : Prop :=
  name = .plain (Decimal.digits height.toNat)

-- A name that stands for a height once its escapes are resolved.
def NamesHeight (name : JsonText) (height : UInt32) : Prop :=
  JsonText.string? name = some (String.ofList (Decimal.digits height.toNat))

def Binds (binding : JsonText × Json) (height : UInt32) (hash : BlockHash) : Prop :=
  WrittenHeight binding.1 height ∧ GivesHash binding.2 hash

def LastGiven (bindings : List (JsonText × Json)) (height : UInt32) (hash : BlockHash) : Prop :=
  ∃ earlier binding later, bindings = earlier ++ binding :: later ∧ Binds binding height hash ∧
    ∀ other ∈ later, ¬ WrittenHeight other.1 height

theorem plain_chars_iff (units : JsonText) (chars : List Char) :
    JsonText.plainChars? units = some chars ↔ units = .plain chars := by
  have each : ∀ (unit : JsonUnit) (char : Char), unit.plain? = some char ↔ unit = .plain char := by
    intro unit char
    cases unit <;> simp [JsonUnit.plain?]
  rw [JsonText.plainChars?, map_some_iff, JsonText.plain]
  simp only [each]
  rw [← List.forall₂_map_right_iff (f := JsonUnit.plain) (R := fun unit other => unit = other), List.forall₂_eq_eq_eq]

theorem height_eq_some_iff (name : JsonText) (height : UInt32) :
    JsonForm.height? name = some height ↔ WrittenHeight name height := by
  unfold JsonForm.height? WrittenHeight
  constructor
  · intro read
    cases number : (JsonText.plainChars? name).bind Decimal.read? with
    | none =>
        rw [number] at read
        cases read
    | some value =>
        rw [number] at read
        obtain ⟨chars, plain, digits⟩ := Option.bind_eq_some_iff.mp number
        obtain ⟨small, same⟩ := Option.ite_none_right_eq_some.mp read
        rw [(plain_chars_iff name chars).mp plain, (Decimal.read_eq_some_iff chars value).mp digits,
          ← Option.some.inj same, UInt32.toNat_ofNat_of_lt' small]
  · intro written
    rw [(plain_chars_iff name _).mpr written, Option.bind_some, Decimal.read_digits]
    exact (if_pos height.toNat_lt).trans (congrArg some UInt32.ofNat_toNat)

theorem checkpoint_eq_some_iff (binding : JsonText × Json) (entry : UInt32 × BlockHash) :
    JsonForm.checkpoint? binding = some entry ↔ Binds binding entry.1 entry.2 := by
  rw [Binds, ← height_eq_some_iff, ← as_hash_iff]
  unfold JsonForm.checkpoint?
  cases height : JsonForm.height? binding.1 with
  | none => simp
  | some value =>
      cases hash : binding.2.as? BlockHash with
      | none => simp
      | some given => simp [Prod.ext_iff]

theorem written_height_unique (name : JsonText) (height other : UInt32) (written : WrittenHeight name height)
    (also : WrittenHeight name other) : height = other := by
  rw [← height_eq_some_iff] at written also
  exact Option.some.inj (written.symm.trans also)

theorem binds_unique (binding : JsonText × Json) (entry other : UInt32 × BlockHash)
    (binds : Binds binding entry.1 entry.2) (also : Binds binding other.1 other.2) : entry = other := by
  rw [← checkpoint_eq_some_iff] at binds also
  exact Option.some.inj (binds.symm.trans also)

theorem last_given_iff (bindings : List (JsonText × Json)) (entries : List (UInt32 × BlockHash))
    (each : List.Forall₂ (fun binding entry => Binds binding entry.1 entry.2) bindings entries) (height : UInt32)
    (hash : BlockHash) : (Checkpoints.ofList entries).get? height = some hash ↔ LastGiven bindings height hash := by
  rw [Checkpoints.of_list_get_iff]
  constructor
  · rintro ⟨earlier, later, rfl, apart⟩
    obtain ⟨before, binding, after, rfl, binds, rest⟩ := split_related _ bindings earlier _ later each
    refine ⟨before, binding, after, rfl, binds, fun other member written => ?_⟩
    obtain ⟨entry, within, same⟩ := related_of_mem _ later after rest.flip other member
    exact apart entry within (written_height_unique other.1 entry.1 height same.1 written)
  · rintro ⟨earlier, binding, later, rfl, binds, apart⟩
    obtain ⟨before, entry, after, rfl, same, rest⟩ := split_related _ entries earlier _ later each.flip
    obtain rfl := binds_unique binding entry (height, hash) same binds
    refine ⟨before, after, rfl, fun other member reached => ?_⟩
    obtain ⟨given, within, read⟩ := related_of_mem _ later after rest.flip other member
    exact apart given within (reached ▸ read.1)

theorem as_checkpoints_iff (json : Json) (checkpoints : Checkpoints) :
    json.as? Checkpoints = some checkpoints ↔
      ∃ bindings entries, json = .object bindings ∧
        List.Forall₂ (fun binding entry => Binds binding entry.1 entry.2) bindings entries ∧
        checkpoints = .ofList entries := by
  cases json with
  | object bindings =>
      change (bindings.mapM JsonForm.checkpoint?).map Checkpoints.ofList = some checkpoints ↔ _
      rw [Option.map_eq_some_iff]
      simp only [map_some_iff, checkpoint_eq_some_iff]
      constructor
      · rintro ⟨entries, each, rfl⟩
        exact ⟨bindings, entries, rfl, each, rfl⟩
      · rintro ⟨_, entries, same, each, rfl⟩
        obtain rfl := Json.object.inj same
        exact ⟨entries, each, rfl⟩
  | _ => exact iff_of_false (fun read => nomatch read) (fun ⟨_, _, same, _⟩ => nomatch same)

theorem binds_exists (binding : JsonText × Json) :
    (∃ entry : UInt32 × BlockHash, Binds binding entry.1 entry.2) ↔
      (∃ height, WrittenHeight binding.1 height) ∧ IsHash binding.2 := by
  rw [is_hash_iff]
  constructor
  · rintro ⟨⟨height, hash⟩, written, given⟩
    exact ⟨⟨height, written⟩, hash, given⟩
  · rintro ⟨⟨height, written⟩, hash, given⟩
    exact ⟨(height, hash), written, given⟩

theorem reads_checkpoints_iff (json : Json) :
    (∃ checkpoints, json.as? Checkpoints = some checkpoints) ↔
      ∃ bindings, json = .object bindings ∧
        ∀ binding ∈ bindings, (∃ height, WrittenHeight binding.1 height) ∧ IsHash binding.2 := by
  simp only [← binds_exists, ← related_exists_iff]
  constructor
  · rintro ⟨checkpoints, read⟩
    obtain ⟨bindings, entries, same, each, _⟩ := (as_checkpoints_iff json checkpoints).mp read
    exact ⟨bindings, same, entries, each⟩
  · rintro ⟨bindings, same, entries, each⟩
    exact ⟨.ofList entries, (as_checkpoints_iff json _).mpr ⟨bindings, entries, same, each, rfl⟩⟩

end Bindings

end ChainRules
