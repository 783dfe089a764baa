import ChainRules.Block.Transaction
import ChainRules.Parameters.Basic
import ChainRules.SoftFork.VersionTally

set_option autoImplicit false

namespace ChainRules

inductive BlockVerifyFlag where
  | heightInCoinbase
  deriving DecidableEq

inductive ScriptVerifyFlag where
  | p2sh
  | strictEnc
  | derSig
  | lowS
  | nullDummy
  | sigPushOnly
  | minimalData
  | discourageUpgradableNops
  | cleanStack
  | checkLockTimeVerify
  deriving DecidableEq

namespace ChainParameters

def enforcesHeightInCoinbase (params : ChainParameters) (tally : VersionTally) : Bool :=
  match tally.countAtOrAbove Constants.blockVersionBip34 with
  | none => false
  | some count => params.majorityEnforceBlockUpgrade.toNat ≤ count

def enforcesLockTimeVerify (params : ChainParameters) (tally : VersionTally) : Bool :=
  match tally.countAtOrAbove Constants.blockVersionBip65 with
  | none => false
  | some count => params.majorityEnforceBlockUpgrade.toNat < count

def blockVerificationFlags (params : ChainParameters) (block : BlockHeader) (tally : VersionTally)
    (_height : Option UInt32) : List BlockVerifyFlag :=
  if block.signalsHeightInCoinbase && params.enforcesHeightInCoinbase tally then [.heightInCoinbase] else []

-- Neither the transaction nor the height is looked at.
def transactionVerificationFlags (params : ChainParameters) (block : BlockHeader) (_transaction : Transaction)
    (tally : VersionTally) (_height : Option UInt32) : List ScriptVerifyFlag :=
  (if params.bip16EnforceTime ≤ block.timestamp then [.p2sh] else [])
    ++ (if block.signalsLockTimeVerify && params.enforcesLockTimeVerify tally then [.checkLockTimeVerify] else [])

end ChainParameters

end ChainRules
