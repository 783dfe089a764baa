import ChainRules.Error

set_option autoImplicit false

namespace ChainRules.CompactBits

def overflows (exponent mantissa : Nat) : Bool :=
  34 < exponent ∨ (0xff < mantissa ∧ 33 < exponent) ∨ (0xffff < mantissa ∧ 32 < exponent)

def expand (exponent mantissa : Nat) : BitVec 256 :=
  if exponent ≤ 3 then BitVec.ofNat 256 (mantissa >>> (8 * (3 - exponent)))
  else BitVec.ofNat 256 (mantissa <<< (8 * (exponent - 3)))

def toTarget (bits : CompactBits) : Except ConsensusError Target :=
  if bits.mantissa = 0 then .ok .zero
  else if bits.isNegative then .error (.malformedCompactBits bits)
  else if overflows bits.exponent bits.mantissa then .error (.malformedCompactBits bits)
  else .ok ⟨expand bits.exponent bits.mantissa⟩

def assemble (exponent significand : Nat) : CompactBits :=
  ⟨UInt32.ofNat (significand + 0x1000000 * exponent)⟩

def leadingBytes (number size : Nat) : Nat :=
  if size ≤ 3 then number <<< (8 * (3 - size)) else number >>> (8 * (size - 3))

-- The exponent counts a leading zero byte where the top bit of the value would be taken for the sign.
def ofTarget (target : Target) : CompactBits :=
  let size := bitLength target.value / 8 + 1
  let significand := leadingBytes target.toNat size
  if significand / 0x800000 % 2 = 1 then assemble (size + 1) (significand / 256)
  else assemble size significand

end ChainRules.CompactBits
