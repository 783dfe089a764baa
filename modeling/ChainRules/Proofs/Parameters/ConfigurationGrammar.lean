import ChainRules.Config
import ChainRules.Proofs.Parameters.Bindings
import Mathlib

set_option autoImplicit false

namespace ChainRules

namespace ConsensusConfig

open Json (valuesNamed SetBy)

def fieldNames : List String := ["network", "checkpoints"]

theorem read_fields_iff (json : Json) (config : ConsensusConfig) :
    json.as? ConsensusConfig = some config ↔
      ∃ network checkpoints, json.optionalFields? fieldNames = some [network, checkpoints] ∧
        JsonForm.orDefault? Network.main.id network = some config.network ∧
        JsonForm.orDefault? Checkpoints.empty checkpoints = some config.checkpoints := by
  change JsonForm.ofJson? json = some config ↔ _
  dsimp only [JsonForm.ofJson?, fieldNames]
  split
  · rename_i network checkpoints fields
    change (JsonForm.orDefault? Network.main.id network).bind (fun name =>
      (JsonForm.orDefault? Checkpoints.empty checkpoints).bind (fun bindings => some ⟨name, bindings⟩)) = some config ↔ _
    constructor
    · intro read
      obtain ⟨name, nameRead, read⟩ := Option.bind_eq_some_iff.mp read
      obtain ⟨bindings, bindingsRead, read⟩ := Option.bind_eq_some_iff.mp read
      obtain rfl := Option.some.inj read
      exact ⟨network, checkpoints, fields, nameRead, bindingsRead⟩
    · rintro ⟨_, _, same, nameRead, bindingsRead⟩
      obtain ⟨rfl, rest⟩ := List.cons.inj (Option.some.inj (fields.symm.trans same))
      obtain ⟨rfl, _⟩ := List.cons.inj rest
      rw [nameRead, bindingsRead]
      rfl
  · rename_i other
    exact iff_of_false (fun none => nomatch none)
      (fun ⟨network, checkpoints, fields, _⟩ => other network checkpoints fields)

theorem read_iff (members : List (JsonText × Json)) (config : ConsensusConfig) :
    (Json.object members).as? ConsensusConfig = some config ↔
      (∀ member ∈ members, ∃ name ∈ fieldNames, JsonText.string? member.1 = some name) ∧
        SetBy Network.main.id (valuesNamed "network" members) config.network ∧
        SetBy Checkpoints.empty (valuesNamed "checkpoints" members) config.checkpoints := by
  rw [read_fields_iff]
  simp only [Json.optional_fields_iff]
  constructor
  · rintro ⟨network, checkpoints, ⟨named, read, known, fields⟩, nameRead, bindingsRead⟩
    obtain ⟨networkField, fields⟩ := List.forall₂_cons.mp fields
    obtain ⟨checkpointsField, _⟩ := List.forall₂_cons.mp fields
    rw [← Json.values_of_named "network" members named read, ← Json.values_of_named "checkpoints" members named read,
      ← Json.read_field, ← Json.read_field, networkField, checkpointsField]
    exact ⟨(Json.named_in fieldNames members named read).mp known, nameRead, bindingsRead⟩
  · rintro ⟨known, network, checkpoints⟩
    obtain ⟨named, read⟩ := Json.named_of_in fieldNames members known
    rw [← Json.values_of_named _ members named read, ← Json.read_field, Option.bind_eq_some_iff] at network checkpoints
    obtain ⟨networkGiven, networkField, nameRead⟩ := network
    obtain ⟨checkpointsGiven, checkpointsField, bindingsRead⟩ := checkpoints
    have fields := (Json.named_in fieldNames members named read).mpr known
    exact ⟨networkGiven, checkpointsGiven, ⟨named, read, fields, .cons networkField (.cons checkpointsField .nil)⟩,
      nameRead, bindingsRead⟩

structure Acceptable (heightNamed : JsonText → UInt32 → Prop) (members : List (JsonText × Json)) : Prop where
  known : ∀ member ∈ members,
    JsonText.string? member.1 = some "network" ∨ JsonText.string? member.1 = some "checkpoints"
  networkOnce : (valuesNamed "network" members).length ≤ 1
  checkpointsOnce : (valuesNamed "checkpoints" members).length ≤ 1
  network : ∀ json ∈ valuesNamed "network" members, ∃ name, json.IsString name
  checkpoints : ∀ json ∈ valuesNamed "checkpoints" members, ∃ bindings, json = .object bindings ∧
    ∀ binding ∈ bindings, (∃ height, heightNamed binding.1 height) ∧ IsHash binding.2

theorem acceptable_iff (members : List (JsonText × Json)) :
    (∃ config, (Json.object members).as? ConsensusConfig = some config) ↔ Acceptable WrittenHeight members := by
  have network := Json.set_by_exists Network.main.id (valuesNamed "network" members)
  have checkpoints := Json.set_by_exists Checkpoints.empty (valuesNamed "checkpoints" members)
  simp only [Json.as_string_iff] at network
  simp only [reads_checkpoints_iff] at checkpoints
  simp only [read_iff, fieldNames, List.mem_cons, List.not_mem_nil, or_false, exists_eq_or_imp, exists_eq_left]
  constructor
  · rintro ⟨config, known, name, bindings⟩
    obtain ⟨networkOnce, nameString⟩ := network.mp ⟨config.network, name⟩
    obtain ⟨checkpointsOnce, bindingsObject⟩ := checkpoints.mp ⟨config.checkpoints, bindings⟩
    exact ⟨known, networkOnce, checkpointsOnce, nameString, bindingsObject⟩
  · intro acceptable
    obtain ⟨name, nameGiven⟩ := network.mpr ⟨acceptable.networkOnce, acceptable.network⟩
    obtain ⟨bindings, bindingsGiven⟩ := checkpoints.mpr ⟨acceptable.checkpointsOnce, acceptable.checkpoints⟩
    exact ⟨⟨name, bindings⟩, acceptable.known, nameGiven, bindingsGiven⟩

theorem read_perm (members moved : List (JsonText × Json)) (order : members.Perm moved) :
    (Json.object members).as? ConsensusConfig = (Json.object moved).as? ConsensusConfig := by
  have values : ∀ (a b : List (JsonText × Json)) (name : String), a.Perm b →
      (valuesNamed name a).Perm (valuesNamed name b) :=
    fun _ _ _ same => (same.filter _).map Prod.snd
  have forward : ∀ (a b : List (JsonText × Json)) (config : ConsensusConfig), a.Perm b →
      (Json.object a).as? ConsensusConfig = some config → (Json.object b).as? ConsensusConfig = some config := by
    intro a b config same read
    obtain ⟨known, network, checkpoints⟩ := (read_iff a config).mp read
    exact (read_iff b config).mpr ⟨fun member within => known member (same.mem_iff.mpr within),
      Json.set_by_perm _ _ _ (values a b _ same) _ network, Json.set_by_perm _ _ _ (values a b _ same) _ checkpoints⟩
  exact Option.ext (fun config => ⟨forward members moved config order, forward moved members config order.symm⟩)

theorem parse_object (members : List (JsonText × Json)) (text : String)
    (spelled : (Json.object members).SpelledBy text) :
    (∀ config, (Json.object members).as? ConsensusConfig = some config → parse text = .ok config) ∧
      ((Json.object members).as? ConsensusConfig = none → parse text = .error (.config .invalid)) := by
  rw [parse, Json.parse_spelled _ text spelled, Option.bind_some]
  constructor
  · intro config read
    rw [read]
  · intro refused
    rw [refused]

theorem parse_object_ok_iff (members : List (JsonText × Json)) (text : String)
    (spelled : (Json.object members).SpelledBy text) (config : ConsensusConfig) :
    parse text = .ok config ↔ (Json.object members).as? ConsensusConfig = some config := by
  obtain ⟨accepted, refused⟩ := parse_object members text spelled
  constructor
  · intro parsed
    cases read : (Json.object members).as? ConsensusConfig with
    | none =>
        rw [refused read] at parsed
        cases parsed
    | some other =>
        rw [accepted other read] at parsed
        rw [Except.ok.inj parsed]
  · exact accepted config

theorem parsed_content (members : List (JsonText × Json)) (config : ConsensusConfig)
    (read : (Json.object members).as? ConsensusConfig = some config) :
    (valuesNamed "network" members = [] → config.network = Network.main.id) ∧
      (∀ json ∈ valuesNamed "network" members, json.IsString config.network) ∧
      (valuesNamed "checkpoints" members = [] → config.checkpoints = .empty) ∧
      ∀ bindings, .object bindings ∈ valuesNamed "checkpoints" members → ∀ height hash,
        config.checkpoints.get? height = some hash ↔ LastGiven bindings height hash := by
  obtain ⟨_, network, checkpoints⟩ := (read_iff members config).mp read
  obtain ⟨networkMissing, networkGiven⟩ := Json.set_by_given _ _ _ network
  obtain ⟨checkpointsMissing, checkpointsGiven⟩ := Json.set_by_given _ _ _ checkpoints
  refine ⟨networkMissing, fun json member => (json.as_string_iff _).mp (networkGiven json member), checkpointsMissing,
    fun bindings member height hash => ?_⟩
  obtain ⟨_, entries, same, each, whole⟩ := (as_checkpoints_iff _ _).mp (checkpointsGiven _ member)
  obtain rfl := Json.object.inj same
  rw [whole]
  exact last_given_iff bindings entries each height hash

theorem configuration_grammar (members : List (JsonText × Json)) (text : String)
    (spelled : (Json.object members).SpelledBy text) :
    ((∃ config, parse text = .ok config) ↔ Acceptable WrittenHeight members) ∧
    (∀ config, parse text = .ok config →
      (valuesNamed "network" members = [] → config.network = Network.main.id) ∧
      (∀ json ∈ valuesNamed "network" members, json.IsString config.network) ∧
      (valuesNamed "checkpoints" members = [] → config.checkpoints = .empty) ∧
      ∀ bindings, .object bindings ∈ valuesNamed "checkpoints" members → ∀ height hash,
        config.checkpoints.get? height = some hash ↔ LastGiven bindings height hash) ∧
    (¬ Acceptable WrittenHeight members → parse text = .error (.config .invalid)) ∧
    ∀ moved other, members.Perm moved → (Json.object moved).SpelledBy other → parse other = parse text := by
  have accepted := parse_object_ok_iff members text spelled
  refine ⟨?_, fun config parsed => parsed_content members config ((accepted config).mp parsed), ?_, ?_⟩
  · simp only [accepted]
    exact acceptable_iff members
  · intro unacceptable
    rw [← acceptable_iff, not_exists, ← Option.eq_none_iff_forall_ne_some] at unacceptable
    exact (parse_object members text spelled).2 unacceptable
  · intro moved other order movedSpelled
    rw [parse, parse, Json.parse_spelled _ text spelled, Json.parse_spelled _ other movedSpelled, Option.bind_some,
      Option.bind_some, read_perm members moved order]

section Texts

def hashText (digit : Char) : Json := .text (.plain (List.replicate 64 digit))

def boundTwice : List (JsonText × Json) := [(.plain ['1'], hashText 'a'), (.plain ['1'], hashText 'B')]

def twiceGiven : List (JsonText × Json) := [
  (.plain "checkpoints".toList, .object boundTwice),
  (.plain 'n' :: .escaped 'e' :: JsonText.plain "twork".toList, .text (.plain "test".toList))]

def twiceGivenText : String :=
  String.ofList (" \x7b\"checkpoints\":\x7b\"1\":\"".toList ++ List.replicate 64 'a' ++ "\" ,\"1\" :\"".toList
    ++ List.replicate 64 'B' ++ "\"\x7d,\n\"n\\u0065twork\":\"test\" \x7d\n".toList)

theorem twice_given_spelled : (Json.object twiceGiven).SpelledBy twiceGivenText := by
  have height := JsonText.spelled_plain ['1'] rfl
  have bindings : Json.Spelled (.value (.object boundTwice)) _ :=
    .object _ _ _ _ (.member _ _ _ _ _ height (.colon _ _ _ _
      (.text _ _ (JsonText.spelled_plain (List.replicate 64 'a') rfl))
      (.blank _ ' ' _ rfl (.nextMember _ _ _ _ (.member _ _ _ _ _ height (.blank _ ' ' _ rfl (.colon _ _ _ _
        (.text _ _ (JsonText.spelled_plain (List.replicate 64 'B') rfl)) .closeObject)))))))
  have name : JsonText.Spelled (.plain 'n' :: .escaped 'e' :: JsonText.plain "twork".toList) _ :=
    .cons_char _ _ _ _ (.plain 'n' rfl) (fun _ same => nomatch same)
      (.cons_char _ _ _ _ (.code 'e' ['0', '0', '6', '5'] ⟨by decide, by decide⟩) (fun _ same => nomatch same)
        (JsonText.spelled_plain "twork".toList rfl))
  have network : Json.Spelled (.member (.plain 'n' :: .escaped 'e' :: JsonText.plain "twork".toList)
      (.text (.plain "test".toList)) []) _ :=
    .member _ _ _ _ _ name (.colon _ _ _ _ (.text _ _ (JsonText.spelled_plain "test".toList rfl))
      (.blank _ ' ' _ rfl .closeObject))
  have whole : Json.Spelled (.value (.object twiceGiven)) _ :=
    .blank _ ' ' _ rfl (.object _ _ _ _ (.member _ _ _ _ _ (JsonText.spelled_plain "checkpoints".toList rfl)
      (.colon _ _ _ _ bindings (.nextMember _ _ _ _ (.blank _ '\n' _ rfl network)))))
  exact ⟨_, ['\n'], whole, List.all_eq_true.mp rfl, String.toList_ofList.trans (by decide +kernel)⟩

theorem hash_text_string (digit : Char) : (hashText digit).IsString (String.ofList (List.replicate 64 digit)) :=
  ⟨_, rfl, JsonText.string_of_plain _⟩

theorem hash_text_hex (digit : Char) (hex : Hex.IsDigit digit) : IsHash (hashText digit) := by
  refine ⟨_, hash_text_string digit, ?_, fun char member => ?_⟩
  · rw [String.length_ofList, List.length_replicate]
  · rw [String.toList_ofList] at member
    rw [List.eq_of_mem_replicate member]
    exact hex

theorem twice_given_acceptable : Acceptable WrittenHeight twiceGiven where
  known := by
    intro member within
    rcases List.mem_pair.mp within with rfl | rfl
    · exact .inr rfl
    · exact .inl rfl
  networkOnce := Nat.le_of_eq rfl
  checkpointsOnce := Nat.le_of_eq rfl
  network := by
    intro json within
    obtain rfl := List.mem_singleton.mp within
    exact ⟨"test", _, rfl, rfl⟩
  checkpoints := by
    intro json within
    obtain rfl := List.mem_singleton.mp within
    refine ⟨boundTwice, rfl, fun binding member => ?_⟩
    rcases List.mem_pair.mp member with rfl | rfl
    · exact ⟨⟨1, rfl⟩, hash_text_hex 'a' (by decide)⟩
    · exact ⟨⟨1, rfl⟩, hash_text_hex 'B' (by decide)⟩

theorem configuration_grammar_twice_given :
    (Json.object twiceGiven).SpelledBy twiceGivenText ∧
      ∃ config, parse twiceGivenText = .ok config ∧ config.network = "test" ∧
        config.checkpoints.get? 1 = some ⟨.replicate 0xbb⟩ := by
  obtain ⟨accepted, content, _⟩ := configuration_grammar twiceGiven twiceGivenText twice_given_spelled
  obtain ⟨config, parsed⟩ := accepted.mpr twice_given_acceptable
  obtain ⟨_, network, _, checkpoints⟩ := content config parsed
  refine ⟨twice_given_spelled, config, parsed, ?_, ?_⟩
  · obtain ⟨units, same, name⟩ := network (.text (.plain "test".toList)) List.mem_cons_self
    obtain rfl := Json.text.inj same
    exact (Option.some.inj name).symm
  · have last : Binds (.plain ['1'], hashText 'B') 1 ⟨.replicate 0xbb⟩ :=
      ⟨rfl, _, hash_text_string 'B', by decide +kernel⟩
    exact (checkpoints boundTwice List.mem_cons_self 1 _).mpr
      ⟨[(.plain ['1'], hashText 'a')], _, [], rfl, last, by simp⟩

-- An escaped digit is no digit of a height, although the name is the same once its escapes are resolved.
def escapedHeight : List (JsonText × Json) := [(.plain "checkpoints".toList, .object [([.escaped '1'], hashText 'a')])]

def escapedHeightText : String :=
  String.ofList ("\x7b\"checkpoints\":\x7b\"\\u0031\":\"".toList ++ List.replicate 64 'a' ++ "\"\x7d\x7d".toList)

theorem escaped_height_refused :
    (Json.object escapedHeight).SpelledBy escapedHeightText ∧ Acceptable NamesHeight escapedHeight ∧
      parse escapedHeightText = .error (.config .invalid) := by
  refine ⟨?_, ?_, by decide +kernel⟩
  · have bindings : Json.Spelled (.value (.object [([.escaped '1'], hashText 'a')])) _ :=
      .object _ _ _ _ (.member _ _ _ _ _
        (.cons_char _ _ _ _ (.code '1' ['0', '0', '3', '1'] ⟨by decide, by decide⟩) (fun _ same => nomatch same) .nil)
        (.colon _ _ _ _ (.text _ _ (JsonText.spelled_plain (List.replicate 64 'a') rfl)) .closeObject))
    have whole : Json.Spelled (.value (.object escapedHeight)) _ :=
      .object _ _ _ _ (.member _ _ _ _ _ (JsonText.spelled_plain "checkpoints".toList rfl)
        (.colon _ _ _ _ bindings .closeObject))
    exact ⟨_, [], whole, List.all_eq_true.mp rfl, String.toList_ofList.trans (by decide +kernel)⟩
  · refine ⟨fun member within => ?_, Nat.zero_le 1, Nat.le_of_eq rfl, fun _ none => (nomatch none),
      fun json within => ?_⟩
    · rw [List.mem_singleton.mp within]
      exact .inr rfl
    · rw [List.mem_singleton.mp within]
      refine ⟨[([.escaped '1'], hashText 'a')], rfl, fun binding member => ?_⟩
      rw [List.mem_singleton.mp member]
      exact ⟨⟨1, rfl⟩, hash_text_hex 'a' (by decide)⟩

end Texts

end ConsensusConfig

end ChainRules
