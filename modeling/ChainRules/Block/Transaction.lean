import ChainRules.Bytes.Bytes32

set_option autoImplicit false

namespace ChainRules

structure OutPoint where
  hash : Bytes32
  index : UInt32
  deriving DecidableEq

structure TransactionInput where
  previousOutput : OutPoint
  scriptSig : List UInt8
  sequence : UInt32
  deriving DecidableEq

structure TransactionOutput where
  value : Int64
  scriptPubkey : List UInt8
  deriving DecidableEq

structure Transaction where
  version : Int32
  inputs : List TransactionInput
  outputs : List TransactionOutput
  lockTime : UInt32
  deriving DecidableEq

def Transaction.empty : Transaction := ⟨1, [], [], 0⟩

end ChainRules
