import ChainRules.Constants
import ChainRules.Parameters.Basic

set_option autoImplicit false

namespace ChainRules.ChainParameters

def timespanLess (percent : Int64) : Int64 :=
  Constants.averagingWindowTimespan * (100 - percent) / 100

def timespanMore (percent : Int64) : Int64 :=
  Constants.averagingWindowTimespan * (100 + percent) / 100

def mainMerkleRoot : BlockHash :=
  .ofNumber 0x69de4474f3172f2366a11b9d5a2b9138fb5bbb0b77713d42fdfe69fc64a34162

def testMerkleRoot : BlockHash :=
  .ofNumber 0xa12949fc4a1735c8cbd6444bf9b4aea61300bc7aee9fec741af5a8c2fe386216

def withGenesis (network : Network) (genesis : GenesisDescriptor) : ChainParameters where
  network := network
  averagingWindow := Constants.powAveragingWindow
  targetSpacing := Constants.targetSpacing
  targetTimespan := Constants.targetTimespan
  interval := Constants.interval
  powMaxAdjustUp := 0
  powMaxAdjustDown := 0
  minActualTimespan := timespanLess 0
  maxActualTimespan := timespanMore 0
  powLimit := .zero
  retargetRule := .averagingWindowMedianTime
  genesis := genesis
  majorityWindow := 100
  majorityEnforceBlockUpgrade := 51
  majorityRejectBlockOutdated := 75
  bip16EnforceTime := Constants.bip16EnforceTime
  spendableCoinbaseDepth := 100
  subsidyDecreaseBlockCount := 840960
  checkpoints := Checkpoints.empty.insert 0 genesis.hash

def withAdjustment (params : ChainParameters) (up down : Int64) : ChainParameters :=
  { params with
    powMaxAdjustUp := up
    powMaxAdjustDown := down
    minActualTimespan := timespanLess up
    maxActualTimespan := timespanMore down }

def mainGenesis : GenesisDescriptor where
  version := Constants.blockVersionGenesis
  timestamp := 1524045652
  bits := ⟨0x1e09b173⟩
  nonce := .zero
  merkleRoot := mainMerkleRoot
  hash := .ofNumber 0x0000079b37c3c290dc81e95bca28aa7df5636145ae35ebee86e10cc3cce96fb2

def mainnet : ChainParameters :=
  { withGenesis .main mainGenesis with
    powLimit := ⟨0x000009b173000000000000000000000000000000000000000000000000000000⟩
    majorityWindow := 1000
    majorityEnforceBlockUpgrade := 750
    majorityRejectBlockOutdated := 950 }
  |>.withAdjustment 16 32

def testGenesis : GenesisDescriptor where
  version := Constants.blockVersionGenesis
  timestamp := 1524057440
  bits := ⟨0x1f0fffff⟩
  nonce := .ofNumber 0x000020f00dd1af082323e02e1f5b1d866d777abbcf63ba720d35dcf585840073
  merkleRoot := testMerkleRoot
  hash := .ofNumber 0x000f378be841f44e75346eebd931b13041f0dee561af6a80cfea6669c1bfec03

def testnet : ChainParameters :=
  { withGenesis .test testGenesis with
    powLimit := ⟨0x000fffffff000000000000000000000000000000000000000000000000000000⟩
    retargetRule := .everyBlockRawTimespan }

def regtestGenesis : GenesisDescriptor where
  version := Constants.blockVersionGenesis
  timestamp := 1526946000
  bits := ⟨0x200f0f0f⟩
  nonce := .ofNumber 0x0000ec7bfb02cb74cc021bbc03773834a65f8a16655212b5abc8841efbea0000
  merkleRoot := mainMerkleRoot
  hash := .ofNumber 0x0c1417be9488c5bc9c2974a8c2edf89089fdf9fa3e0e4a0d4c668ab973fcf8b4

def regtest : ChainParameters :=
  { withGenesis .regtest regtestGenesis with
    powLimit := ⟨0x0f0f0f0f0f0f0f0f0f0f0f0f0f0f0f0f0f0f0f0f0f0f0f0f0f0f0f0f0f0f0f0f⟩
    interval := 4294967295
    subsidyDecreaseBlockCount := 150 }

-- The genesis block of unit tests is the one that is hashed by double SHA-256.
def unitTestGenesis : GenesisDescriptor :=
  let fields : GenesisDescriptor :=
    { version := Constants.blockVersionGenesis
      timestamp := 1524057440
      bits := ⟨0x2000ffff⟩
      nonce := .zero
      merkleRoot := testMerkleRoot
      hash := .zero }
  { fields with hash := (fields.header BlockHeader.doubleSha256).hash }

def unitTests : ChainParameters :=
  { withGenesis .unitTest unitTestGenesis with
    powLimit := ⟨0x00ffffffffffffffffffffffffffffffffffffffffffffffffffffffffffffff⟩
    interval := 10
    majorityWindow := 7
    majorityEnforceBlockUpgrade := 3
    majorityRejectBlockOutdated := 4
    spendableCoinbaseDepth := 5
    subsidyDecreaseBlockCount := 100 }
  |>.withAdjustment 16 32

def ofNetwork : Network → ChainParameters
  | .main => mainnet
  | .test => testnet
  | .regtest => regtest
  | .unitTest => unitTests

def ofId? (id : String) : Option ChainParameters :=
  (Network.ofId? id).map ofNetwork

def ofPaymentProtocolId? (id : String) : Option ChainParameters :=
  (Network.ofPaymentProtocolId? id).map ofNetwork

def registry : List ChainParameters := Network.all.map ofNetwork

end ChainRules.ChainParameters

namespace ChainRules

def Network.parse (name : String) : Except ConsensusError Network :=
  match Network.parse? name with
  | some network => .ok network
  | none => .error (.unknownNetwork name)

namespace ChainParameters

def lookup (name : String) : Except ConsensusError ChainParameters :=
  (Network.parse name).map ofNetwork

def byId (id : String) : Except ConsensusError ChainParameters :=
  match ofId? id with
  | some params => .ok params
  | none => .error (.unknownNetwork id)

end ChainParameters

end ChainRules
