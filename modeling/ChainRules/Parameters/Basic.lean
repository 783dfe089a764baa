import ChainRules.Block.Stored
import ChainRules.Parameters.Checkpoints

set_option autoImplicit false

namespace ChainRules

inductive RetargetRule where
  | averagingWindowMedianTime
  | everyBlockRawTimespan
  deriving DecidableEq

structure GenesisDescriptor where
  version : Int32
  timestamp : Int64
  bits : CompactBits
  nonce : Bytes32
  merkleRoot : BlockHash
  hash : BlockHash
  deriving DecidableEq

namespace GenesisDescriptor

def unhashed (genesis : GenesisDescriptor) : BlockHeader where
  version := genesis.version
  previous := .zero
  merkleRoot := genesis.merkleRoot
  timestamp := genesis.timestamp
  bits := genesis.bits
  nonce := genesis.nonce
  hash := .zero

def header (genesis : GenesisDescriptor) (hasher : HeaderHasher) : BlockHeader :=
  genesis.unhashed.withHashFrom hasher

end GenesisDescriptor

structure ChainParameters where
  network : Network
  averagingWindow : UInt32
  targetSpacing : Int64
  targetTimespan : Int64
  interval : UInt32
  powMaxAdjustUp : Int64
  powMaxAdjustDown : Int64
  minActualTimespan : Int64
  maxActualTimespan : Int64
  powLimit : Target
  retargetRule : RetargetRule
  genesis : GenesisDescriptor
  majorityWindow : UInt64
  majorityEnforceBlockUpgrade : UInt64
  majorityRejectBlockOutdated : UInt64
  bip16EnforceTime : Int64
  spendableCoinbaseDepth : UInt32
  subsidyDecreaseBlockCount : UInt32
  checkpoints : Checkpoints
  deriving DecidableEq

namespace ChainParameters

-- The nominal duration of an averaging window, modulo `2 ^ 64`.
def averagingWindowTimespan (params : ChainParameters) : Int64 :=
  Int64.ofInt (params.averagingWindow.toNat * params.targetSpacing.toInt)

def isDifficultyTransitionPoint (params : ChainParameters) (height : UInt32) : Except ArithmeticFault Bool :=
  if params.interval.toNat = 0 then .error .divisionByZero
  else .ok ((height.toNat + 1) % params.interval.toNat = 0)

def isCheckpoint (params : ChainParameters) (height : UInt32) : Bool :=
  (params.checkpoints.get? height).isSome

def passesCheckpoint (params : ChainParameters) (height : UInt32) (hash : BlockHash) : Bool :=
  match params.checkpoints.get? height with
  | none => true
  | some bound => bound = hash

def withCheckpoints (params : ChainParameters) (extra : List (UInt32 × BlockHash)) :
    Except ConsensusError ChainParameters :=
  match params.checkpoints.merge extra with
  | .ok checkpoints => .ok { params with checkpoints := checkpoints }
  | .error conflict => .error (.config (.checkpointConflict conflict))

def genesisHash (params : ChainParameters) : BlockHash := params.genesis.hash

def genesisBlock (params : ChainParameters) (hasher : HeaderHasher) : Except ConsensusError BlockHeader :=
  let header := params.genesis.header hasher
  if header.hash = params.genesisHash then .ok header
  else .error (.genesisMismatch params.network params.genesisHash header.hash)

def genesisStoredBlock (params : ChainParameters) (hasher : HeaderHasher) : Except ConsensusError StoredBlock :=
  (params.genesisBlock hasher).map (fun header => ⟨header, 0⟩)

end ChainParameters

end ChainRules
