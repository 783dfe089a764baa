set_option autoImplicit false

namespace ChainRules

inductive Network where
  | main
  | test
  | regtest
  | unitTest
  deriving DecidableEq

namespace Network

def all : List Network := [.main, .test, .regtest, .unitTest]

def id : Network → String
  | .main => "org.ulord.production"
  | .test => "org.ulord.test"
  | .regtest => "org.ulord.regtest"
  | .unitTest => "co.usc.ulordj.unittest"

def paymentProtocolId : Network → String
  | .main => "main"
  | .test => "test"
  | .regtest => "regtest"
  | .unitTest => "unittest"

def ofId? (id : String) : Option Network :=
  all.find? (fun network => network.id == id)

def ofPaymentProtocolId? (id : String) : Option Network :=
  all.find? (fun network => network.paymentProtocolId == id)

def parse? (name : String) : Option Network :=
  (ofId? name).or (ofPaymentProtocolId? name)

end Network

inductive ProtocolVersion where
  | minimum
  | pong
  | bloomFilter
  | witnessVersion
  | current
  deriving DecidableEq

def ProtocolVersion.number : ProtocolVersion → UInt32
  | .minimum => 70103
  | .pong => 60001
  | .bloomFilter => 70201
  | .witnessVersion => 70103
  | .current => 70206

end ChainRules
