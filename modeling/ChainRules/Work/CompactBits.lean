import ChainRules.Bytes.Order
import ChainRules.Bytes.Hex

set_option autoImplicit false

namespace ChainRules

structure CompactBits where
  value : UInt32
  deriving DecidableEq

namespace CompactBits

def exponent (bits : CompactBits) : Nat := bits.value.toNat / 0x1000000

def isNegative (bits : CompactBits) : Bool := bits.value.toNat / 0x800000 % 2 = 1

def mantissa (bits : CompactBits) : Nat := bits.value.toNat % 0x800000

def display (bits : CompactBits) : String :=
  Hex.encode (Bytes.toBigEndian 4 bits.value.toNat)

def debug (bits : CompactBits) : String :=
  "CompactBits(0x" ++ bits.display ++ ")"

end CompactBits

end ChainRules
