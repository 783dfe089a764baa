import ChainRules.Block.Form
import ChainRules.Parameters.Basic

set_option autoImplicit false

namespace ChainRules

def Network.name : Network → String
  | .main => "Main"
  | .test => "Test"
  | .regtest => "Regtest"
  | .unitTest => "UnitTest"

namespace ProtocolVersion

def all : List ProtocolVersion := [.minimum, .pong, .bloomFilter, .witnessVersion, .current]

def name : ProtocolVersion → String
  | .minimum => "Minimum"
  | .pong => "Pong"
  | .bloomFilter => "BloomFilter"
  | .witnessVersion => "WitnessVersion"
  | .current => "Current"

end ProtocolVersion

namespace RetargetRule

def all : List RetargetRule := [.averagingWindowMedianTime, .everyBlockRawTimespan]

def name : RetargetRule → String
  | .averagingWindowMedianTime => "AveragingWindowMedianTime"
  | .everyBlockRawTimespan => "EveryBlockRawTimespan"

end RetargetRule

namespace JsonForm

instance : JsonForm Network where
  toJson network := Json.string network.name
  ofJson? := Json.variant? Network.name Network.all

instance : JsonForm ProtocolVersion where
  toJson version := Json.string version.name
  ofJson? := Json.variant? ProtocolVersion.name ProtocolVersion.all

instance : JsonForm RetargetRule where
  toJson rule := Json.string rule.name
  ofJson? := Json.variant? RetargetRule.name RetargetRule.all

def height? (units : JsonText) : Option UInt32 :=
  match (JsonText.plainChars? units).bind Decimal.read? with
  | none => none
  | some height => if height < UInt32.size then some (UInt32.ofNat height) else none

def checkpoint? (member : JsonText × Json) : Option (UInt32 × BlockHash) :=
  match height? member.1, member.2.as? BlockHash with
  | some height, some hash => some (height, hash)
  | _, _ => none

def checkpointMember (entry : UInt32 × BlockHash) : JsonText × Json :=
  ((Decimal.digits entry.1.toNat).map JsonUnit.ofChar, toJson entry.2)

instance : JsonForm Checkpoints where
  toJson checkpoints := .object (checkpoints.entries.map checkpointMember)
  ofJson?
    | .object members => (members.mapM checkpoint?).map Checkpoints.ofList
    | _ => none

instance : JsonForm GenesisDescriptor where
  toJson genesis := Json.record [
    ("version", toJson genesis.version),
    ("timestamp", toJson genesis.timestamp),
    ("bits", toJson genesis.bits),
    ("nonce", toJson genesis.nonce),
    ("merkle_root", toJson genesis.merkleRoot),
    ("hash", toJson genesis.hash)]
  ofJson? json :=
    match json.fields? ["version", "timestamp", "bits", "nonce", "merkle_root", "hash"] with
    | some [version, timestamp, bits, nonce, merkleRoot, hash] => do
        let version ← version.as? Int32
        let timestamp ← timestamp.as? Int64
        let bits ← bits.as? CompactBits
        let nonce ← nonce.as? Bytes32
        let merkleRoot ← merkleRoot.as? BlockHash
        let hash ← hash.as? BlockHash
        return ⟨version, timestamp, bits, nonce, merkleRoot, hash⟩
    | _ => none

def parameterMembers (params : ChainParameters) : List (String × Json) := [
  ("network", toJson params.network),
  ("averaging_window", toJson params.averagingWindow),
  ("target_spacing", toJson params.targetSpacing),
  ("target_timespan", toJson params.targetTimespan),
  ("interval", toJson params.interval),
  ("pow_max_adjust_up", toJson params.powMaxAdjustUp),
  ("pow_max_adjust_down", toJson params.powMaxAdjustDown),
  ("min_actual_timespan", toJson params.minActualTimespan),
  ("max_actual_timespan", toJson params.maxActualTimespan),
  ("pow_limit", toJson params.powLimit),
  ("retarget_rule", toJson params.retargetRule),
  ("genesis", toJson params.genesis),
  ("majority_window", toJson params.majorityWindow),
  ("majority_enforce_block_upgrade", toJson params.majorityEnforceBlockUpgrade),
  ("majority_reject_block_outdated", toJson params.majorityRejectBlockOutdated),
  ("bip16_enforce_time", toJson params.bip16EnforceTime),
  ("spendable_coinbase_depth", toJson params.spendableCoinbaseDepth),
  ("subsidy_decrease_block_count", toJson params.subsidyDecreaseBlockCount),
  ("checkpoints", toJson params.checkpoints)]

def parameterNames : List String := [
  "network", "averaging_window", "target_spacing", "target_timespan", "interval", "pow_max_adjust_up",
  "pow_max_adjust_down", "min_actual_timespan", "max_actual_timespan", "pow_limit", "retarget_rule", "genesis",
  "majority_window", "majority_enforce_block_upgrade", "majority_reject_block_outdated", "bip16_enforce_time",
  "spendable_coinbase_depth", "subsidy_decrease_block_count", "checkpoints"]

instance : JsonForm ChainParameters where
  toJson params := Json.record (parameterMembers params)
  ofJson? json :=
    match json.fields? parameterNames with
    | some [network, averagingWindow, targetSpacing, targetTimespan, interval, powMaxAdjustUp, powMaxAdjustDown,
        minActualTimespan, maxActualTimespan, powLimit, retargetRule, genesis, majorityWindow,
        majorityEnforceBlockUpgrade, majorityRejectBlockOutdated, bip16EnforceTime, spendableCoinbaseDepth,
        subsidyDecreaseBlockCount, checkpoints] => do
        let network ← network.as? Network
        let averagingWindow ← averagingWindow.as? UInt32
        let targetSpacing ← targetSpacing.as? Int64
        let targetTimespan ← targetTimespan.as? Int64
        let interval ← interval.as? UInt32
        let powMaxAdjustUp ← powMaxAdjustUp.as? Int64
        let powMaxAdjustDown ← powMaxAdjustDown.as? Int64
        let minActualTimespan ← minActualTimespan.as? Int64
        let maxActualTimespan ← maxActualTimespan.as? Int64
        let powLimit ← powLimit.as? Target
        let retargetRule ← retargetRule.as? RetargetRule
        let genesis ← genesis.as? GenesisDescriptor
        let majorityWindow ← majorityWindow.as? UInt64
        let majorityEnforceBlockUpgrade ← majorityEnforceBlockUpgrade.as? UInt64
        let majorityRejectBlockOutdated ← majorityRejectBlockOutdated.as? UInt64
        let bip16EnforceTime ← bip16EnforceTime.as? Int64
        let spendableCoinbaseDepth ← spendableCoinbaseDepth.as? UInt32
        let subsidyDecreaseBlockCount ← subsidyDecreaseBlockCount.as? UInt32
        let checkpoints ← checkpoints.as? Checkpoints
        return {
          network, averagingWindow, targetSpacing, targetTimespan, interval, powMaxAdjustUp, powMaxAdjustDown,
          minActualTimespan, maxActualTimespan, powLimit, retargetRule, genesis, majorityWindow,
          majorityEnforceBlockUpgrade, majorityRejectBlockOutdated, bip16EnforceTime, spendableCoinbaseDepth,
          subsidyDecreaseBlockCount, checkpoints }
    | _ => none

end JsonForm

namespace ChainParameters

def setMember (members : List (String × Json)) (name : String) (value : Json) : List (String × Json) :=
  if members.any (fun member => member.1 == name) then
    members.map (fun member => if member.1 == name then (name, value) else member)
  else members ++ [(name, value)]

-- Nothing else is recomputed, and a name that is no field is ignored.
def override? (params : ChainParameters) (changes : List (String × Json)) : Option ChainParameters :=
  let members := changes.foldl (fun members change => setMember members change.1 change.2)
    (JsonForm.parameterMembers params)
  (Json.record members).as? ChainParameters

end ChainParameters

end ChainRules
