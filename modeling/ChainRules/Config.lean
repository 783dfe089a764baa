import ChainRules.Json.Parse
import ChainRules.Parameters.Form
import ChainRules.Parameters.Presets

set_option autoImplicit false

namespace ChainRules

structure ConsensusConfig where
  network : String
  checkpoints : Checkpoints
  deriving DecidableEq

namespace ConsensusConfig

def default : ConsensusConfig := ⟨Network.main.id, Checkpoints.empty⟩

end ConsensusConfig

namespace JsonForm

def orDefault? {α : Type} [JsonForm α] (fallback : α) : Option Json → Option α
  | none => some fallback
  | some json => json.as? α

instance : JsonForm ConsensusConfig where
  toJson config := Json.record [("network", toJson config.network), ("checkpoints", toJson config.checkpoints)]
  ofJson? json :=
    match json.optionalFields? ["network", "checkpoints"] with
    | some [network, checkpoints] => do
        let network ← orDefault? ConsensusConfig.default.network network
        let checkpoints ← orDefault? ConsensusConfig.default.checkpoints checkpoints
        return ⟨network, checkpoints⟩
    | _ => none

end JsonForm

namespace ConsensusConfig

def parse (text : String) : Except ConsensusError ConsensusConfig :=
  match (Json.parse? text).bind (Json.as? ConsensusConfig) with
  | some config => .ok config
  | none => .error (.config .invalid)

def ofFileContent (content : Option (List UInt8)) : Except ConsensusError ConsensusConfig :=
  match content.bind (fun bytes => String.fromUTF8? ⟨bytes.toArray⟩) with
  | some text => parse text
  | none => .error (.config .unreadable)

def resolvedNetwork (config : ConsensusConfig) : Except ConsensusError Network :=
  Network.parse config.network

def chainParameters (config : ConsensusConfig) : Except ConsensusError ChainParameters :=
  match config.resolvedNetwork with
  | .error error => .error error
  | .ok network => (ChainParameters.ofNetwork network).withCheckpoints config.checkpoints.entries

end ConsensusConfig

end ChainRules
