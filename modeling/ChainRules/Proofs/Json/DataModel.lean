import ChainRules.Config
import ChainRules.Proofs.Json.Forms
import ChainRules.Proofs.Json.Printing
import ChainRules.Proofs.Parameters.Bindings
import Mathlib

set_option autoImplicit false

namespace ChainRules

namespace LawfulForm

section Enumerations

theorem of_variants {α : Type} [JsonForm α] (name : α → String) (all : List α)
    (form : ∀ value : α, toJson value = Json.string (name value))
    (reader : ∀ json : Json, json.as? α = Json.variant? name all json)
    (named : ∀ value, all.find? (fun other => name other == name value) = some value) : LawfulForm α :=
  of_texts name form (by
    intro value
    rw [reader, Json.string, Json.variant?, JsonText.string_of_string]
    exact named value)

instance : LawfulForm Network := of_variants Network.name Network.all (fun _ => rfl) (fun _ => rfl) (by
  intro network
  cases network <;> rfl)

instance : LawfulForm RetargetRule := of_variants RetargetRule.name RetargetRule.all (fun _ => rfl) (fun _ => rfl) (by
  intro rule
  cases rule <;> rfl)

end Enumerations

section Bindings

theorem digits_plain (number : Nat) :
    (Decimal.digits number).map JsonUnit.ofChar = JsonText.plain (Decimal.digits number) := by
  refine List.map_congr_left (fun digit member => ?_)
  obtain ⟨low, high⟩ := of_decide_eq_true (Decimal.is_digit_of_mem number digit member)
  have free : JsonUnit.mustEscape digit = false := by
    have bound : 48 ≤ digit.toNat := low
    apply decide_eq_false
    rintro (control | rfl | rfl)
    · omega
    · exact absurd low (by decide)
    · exact absurd high (by decide)
  rw [JsonUnit.ofChar, free]
  rfl

theorem binding_moved (entry : UInt32 × BlockHash) (place : JsonText × Json)
    (moved : Json.Moved (JsonForm.checkpointMember entry) place) : JsonForm.checkpoint? place = some entry := by
  obtain ⟨name, value⟩ := moved
  have hash : place.2.as? BlockHash = some entry.2 := read entry.2 place.2 value
  exact (checkpoint_eq_some_iff place entry).mpr ⟨name.trans (digits_plain entry.1.toNat), (as_hash_iff _ _).mp hash⟩

instance : LawfulForm Checkpoints where
  written checkpoints := by
    refine (Json.written_members_iff _).mpr (fun member within => ?_)
    obtain ⟨entry, _, rfl⟩ := List.mem_map.mp within
    exact ⟨⟨Decimal.digits entry.1.toNat, rfl⟩, written entry.2⟩
  read checkpoints json reordered := by
    obtain ⟨moved, others, rfl, each, order⟩ :=
      Json.Reordered.of_object (checkpoints.entries.map JsonForm.checkpointMember) json reordered
    have whole : moved.mapM JsonForm.checkpoint? = some checkpoints.entries := by
      rw [map_some_iff]
      exact ((List.forall₂_map_left_iff.mp each).imp binding_moved).flip
    obtain ⟨found, bindings, foundOrder⟩ := map_some_of_perm JsonForm.checkpoint? moved others _ order whole
    change (others.mapM JsonForm.checkpoint?).map Checkpoints.ofList = some checkpoints
    rw [bindings, Option.map_some, Checkpoints.of_list_perm checkpoints found foundOrder]

end Bindings

section Records

instance : LawfulForm BlockHeader where
  written header := Json.record_written _ (by simp [written])
  read header json reordered := by
    obtain ⟨values, found, each⟩ := Json.fields_reordered _ (by simp) json reordered
    rcases each with _ | ⟨version, _ | ⟨previous, _ | ⟨merkleRoot, _ | ⟨timestamp, _ | ⟨bits, _ | ⟨nonce, _ |
      ⟨hash, _ | _⟩⟩⟩⟩⟩⟩⟩
    simp only [List.map_cons, List.map_nil] at found
    change JsonForm.ofJson? json = some header
    dsimp only [JsonForm.ofJson?]
    rw [found]
    simp only [read _ _ version, read _ _ previous, read _ _ merkleRoot, read _ _ timestamp, read _ _ bits,
      read _ _ nonce, read _ _ hash]
    rfl

instance : LawfulForm StoredBlock where
  written block := Json.record_written _ (by simp [written])
  read block json reordered := by
    obtain ⟨values, found, each⟩ := Json.fields_reordered _ (by simp) json reordered
    rcases each with _ | ⟨header, _ | ⟨height, _ | _⟩⟩
    simp only [List.map_cons, List.map_nil] at found
    change JsonForm.ofJson? json = some block
    dsimp only [JsonForm.ofJson?]
    rw [found]
    simp only [read _ _ header, read _ _ height]
    rfl

instance : LawfulForm OutPoint where
  written point := Json.record_written _ (by simp [written])
  read point json reordered := by
    obtain ⟨values, found, each⟩ := Json.fields_reordered _ (by simp) json reordered
    rcases each with _ | ⟨hash, _ | ⟨index, _ | _⟩⟩
    simp only [List.map_cons, List.map_nil] at found
    change JsonForm.ofJson? json = some point
    dsimp only [JsonForm.ofJson?]
    rw [found]
    simp only [read _ _ hash, read _ _ index]
    rfl

instance : LawfulForm TransactionInput where
  written input := Json.record_written _ (by simp [written])
  read input json reordered := by
    obtain ⟨values, found, each⟩ := Json.fields_reordered _ (by simp) json reordered
    rcases each with _ | ⟨previousOutput, _ | ⟨scriptSig, _ | ⟨sequence, _ | _⟩⟩⟩
    simp only [List.map_cons, List.map_nil] at found
    change JsonForm.ofJson? json = some input
    dsimp only [JsonForm.ofJson?]
    rw [found]
    simp only [read _ _ previousOutput, read _ _ scriptSig, read _ _ sequence]
    rfl

instance : LawfulForm TransactionOutput where
  written output := Json.record_written _ (by simp [written])
  read output json reordered := by
    obtain ⟨values, found, each⟩ := Json.fields_reordered _ (by simp) json reordered
    rcases each with _ | ⟨value, _ | ⟨scriptPubkey, _ | _⟩⟩
    simp only [List.map_cons, List.map_nil] at found
    change JsonForm.ofJson? json = some output
    dsimp only [JsonForm.ofJson?]
    rw [found]
    simp only [read _ _ value, read _ _ scriptPubkey]
    rfl

instance : LawfulForm Transaction where
  written transaction := Json.record_written _ (by simp [written])
  read transaction json reordered := by
    obtain ⟨values, found, each⟩ := Json.fields_reordered _ (by simp) json reordered
    rcases each with _ | ⟨version, _ | ⟨inputs, _ | ⟨outputs, _ | ⟨lockTime, _ | _⟩⟩⟩⟩
    simp only [List.map_cons, List.map_nil] at found
    change JsonForm.ofJson? json = some transaction
    dsimp only [JsonForm.ofJson?]
    rw [found]
    simp only [read _ _ version, read _ _ inputs, read _ _ outputs, read _ _ lockTime]
    rfl

instance : LawfulForm GenesisDescriptor where
  written genesis := Json.record_written _ (by simp [written])
  read genesis json reordered := by
    obtain ⟨values, found, each⟩ := Json.fields_reordered _ (by simp) json reordered
    rcases each with _ | ⟨version, _ | ⟨timestamp, _ | ⟨bits, _ | ⟨nonce, _ | ⟨merkleRoot, _ | ⟨hash, _ | _⟩⟩⟩⟩⟩⟩
    simp only [List.map_cons, List.map_nil] at found
    change JsonForm.ofJson? json = some genesis
    dsimp only [JsonForm.ofJson?]
    rw [found]
    simp only [read _ _ version, read _ _ timestamp, read _ _ bits, read _ _ nonce, read _ _ merkleRoot,
      read _ _ hash]
    rfl

instance : LawfulForm ChainParameters where
  written params := Json.record_written _ (by simp [JsonForm.parameterMembers, written])
  read params json reordered := by
    have distinct : ((JsonForm.parameterMembers params).map Prod.fst).Nodup := by
      change JsonForm.parameterNames.Nodup
      decide +kernel
    obtain ⟨values, found, each⟩ := Json.fields_reordered (JsonForm.parameterMembers params) distinct json reordered
    rcases each with _ | ⟨network, _ | ⟨averagingWindow, _ | ⟨targetSpacing, _ | ⟨targetTimespan, _ | ⟨interval, _ |
      ⟨powMaxAdjustUp, _ | ⟨powMaxAdjustDown, _ | ⟨minActualTimespan, _ | ⟨maxActualTimespan, _ | ⟨powLimit, _ |
      ⟨retargetRule, _ | ⟨genesis, _ | ⟨majorityWindow, _ | ⟨majorityEnforceBlockUpgrade, _ |
      ⟨majorityRejectBlockOutdated, _ | ⟨bip16EnforceTime, _ | ⟨spendableCoinbaseDepth, _ |
      ⟨subsidyDecreaseBlockCount, _ | ⟨checkpoints, _ | _⟩⟩⟩⟩⟩⟩⟩⟩⟩⟩⟩⟩⟩⟩⟩⟩⟩⟩⟩
    change json.fields? JsonForm.parameterNames = _ at found
    change JsonForm.ofJson? json = some params
    dsimp only [JsonForm.ofJson?]
    rw [found]
    simp only [read _ _ network, read _ _ averagingWindow, read _ _ targetSpacing, read _ _ targetTimespan,
      read _ _ interval, read _ _ powMaxAdjustUp, read _ _ powMaxAdjustDown, read _ _ minActualTimespan,
      read _ _ maxActualTimespan, read _ _ powLimit, read _ _ retargetRule, read _ _ genesis, read _ _ majorityWindow,
      read _ _ majorityEnforceBlockUpgrade, read _ _ majorityRejectBlockOutdated, read _ _ bip16EnforceTime,
      read _ _ spendableCoinbaseDepth, read _ _ subsidyDecreaseBlockCount, read _ _ checkpoints]
    rfl

instance : LawfulForm ConsensusConfig where
  written config := Json.record_written _ (by simp [written])
  read config json reordered := by
    obtain ⟨values, found, each⟩ := Json.optional_fields_reordered _ (by simp) json reordered
    rcases each with _ | ⟨network, _ | ⟨checkpoints, _ | _⟩⟩
    simp only [List.map_cons, List.map_nil] at found
    change JsonForm.ofJson? json = some config
    dsimp only [JsonForm.ofJson?]
    rw [found]
    simp only [JsonForm.orDefault?, read _ _ network, read _ _ checkpoints]
    rfl

end Records

end LawfulForm

structure RoundTrips (α : Type) [JsonForm α] : Prop where
  printed : ∀ value : α, (Json.parse? (toJson value).print).bind (Json.as? α) = some value
  reordered : ∀ (value : α) (json : Json), (toJson value).Reordered json →
    (Json.parse? json.print).bind (Json.as? α) = some value

theorem read_reordered (α : Type) [JsonForm α] [LawfulForm α] (value : α) (json : Json)
    (reordered : (toJson value).Reordered json) : (Json.parse? json.print).bind (Json.as? α) = some value := by
  have written := Json.written_reordered _ json (LawfulForm.written value) reordered
  rw [Json.parse_print json written, Option.bind_some]
  exact LawfulForm.read value json reordered

theorem lawful_round_trips (α : Type) [JsonForm α] [LawfulForm α] : RoundTrips α where
  printed value := read_reordered α value _ (.same _)
  reordered := read_reordered α

theorem parse_reordered (config : ConsensusConfig) (json : Json) (reordered : (toJson config).Reordered json) :
    ConsensusConfig.parse json.print = .ok config := by
  rw [ConsensusConfig.parse, read_reordered ConsensusConfig config json reordered]

theorem data_model_round_trips :
    RoundTrips BlockHeader ∧ RoundTrips StoredBlock ∧ RoundTrips Transaction ∧ RoundTrips GenesisDescriptor ∧
      RoundTrips ChainParameters ∧ RoundTrips ConsensusConfig ∧ RoundTrips Target ∧ RoundTrips CompactBits ∧
      ∀ (config : ConsensusConfig) (json : Json), (toJson config).Reordered json →
        ConsensusConfig.parse json.print = .ok config :=
  ⟨lawful_round_trips _, lawful_round_trips _, lawful_round_trips _, lawful_round_trips _, lawful_round_trips _,
    lawful_round_trips _, lawful_round_trips _, lawful_round_trips _, parse_reordered⟩

example : ConsensusConfig.parse "\x7b\"checkpoints\":\x7b\x7d,\"network\":\"main\"\x7d" = .ok ⟨"main", .empty⟩ := by
  decide +kernel

end ChainRules
