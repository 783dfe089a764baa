import ChainRules.Json.Form
import ChainRules.SoftFork.Activation

set_option autoImplicit false

namespace ChainRules

namespace BlockVerifyFlag

def all : List BlockVerifyFlag := [.heightInCoinbase]

def name : BlockVerifyFlag → String
  | .heightInCoinbase => "HeightInCoinbase"

end BlockVerifyFlag

namespace ScriptVerifyFlag

def all : List ScriptVerifyFlag := [
  .p2sh, .strictEnc, .derSig, .lowS, .nullDummy, .sigPushOnly, .minimalData, .discourageUpgradableNops,
  .cleanStack, .checkLockTimeVerify]

def name : ScriptVerifyFlag → String
  | .p2sh => "P2sh"
  | .strictEnc => "StrictEnc"
  | .derSig => "DerSig"
  | .lowS => "LowS"
  | .nullDummy => "NullDummy"
  | .sigPushOnly => "SigPushOnly"
  | .minimalData => "MinimalData"
  | .discourageUpgradableNops => "DiscourageUpgradableNops"
  | .cleanStack => "CleanStack"
  | .checkLockTimeVerify => "CheckLockTimeVerify"

end ScriptVerifyFlag

namespace JsonForm

instance : JsonForm BlockVerifyFlag where
  toJson flag := Json.string flag.name
  ofJson? := Json.variant? BlockVerifyFlag.name BlockVerifyFlag.all

instance : JsonForm ScriptVerifyFlag where
  toJson flag := Json.string flag.name
  ofJson? := Json.variant? ScriptVerifyFlag.name ScriptVerifyFlag.all

end JsonForm

end ChainRules
