import ChainRules.Bytes.Order

set_option autoImplicit false

namespace ChainRules

structure Bytes32 where
  toList : List UInt8
  length_toList : toList.length = 32
  deriving DecidableEq

namespace Bytes32

def ofList? (bytes : List UInt8) : Option Bytes32 :=
  if exact : bytes.length = 32 then some ⟨bytes, exact⟩ else none

def ofNumber (number : Nat) : Bytes32 :=
  ⟨Bytes.toLittleEndian 32 number, Bytes.length_to_little_endian 32 number⟩

def replicate (byte : UInt8) : Bytes32 :=
  ⟨List.replicate 32 byte, by simp⟩

def zero : Bytes32 := replicate 0

def reverse (bytes : Bytes32) : Bytes32 :=
  ⟨bytes.toList.reverse, by simp [bytes.length_toList]⟩

@[simp]
theorem reverse_reverse (bytes : Bytes32) : bytes.reverse.reverse = bytes := by
  simp [reverse]

@[simp]
theorem of_list_to_list (bytes : Bytes32) : ofList? bytes.toList = some bytes := by
  simp [ofList?, bytes.length_toList]

end Bytes32

end ChainRules
