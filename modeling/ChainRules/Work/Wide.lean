set_option autoImplicit false

/-!
Arithmetic on 512-bit words, wide enough for sums and products of 256-bit targets. An operation that has no
answer within the width is a fault, never a wrapped value.
-/

namespace ChainRules

inductive ArithmeticFault where
  | divisionByZero
  | overflow
  | emptyMedian
  deriving DecidableEq

def ArithmeticFault.message : ArithmeticFault → String
  | .divisionByZero => "division by zero"
  | .overflow => "arithmetic overflow"
  | .emptyMedian => "median of no values"

def bitLength {width : Nat} (word : BitVec width) : Nat :=
  if word.toNat = 0 then 0 else Nat.log2 word.toNat + 1

abbrev Wide := BitVec 512

namespace Wide

-- Irreducible, so that the equations of a walk that adds are found without computing `2 ^ 512`.
@[irreducible]
def add (a b : Wide) : Except ArithmeticFault Wide :=
  if BitVec.uaddOverflow a b then .error .overflow else .ok (a + b)

def mul (a b : Wide) : Except ArithmeticFault Wide :=
  if BitVec.umulOverflow a b then .error .overflow else .ok (a * b)

def div (a b : Wide) : Except ArithmeticFault Wide :=
  if b.toNat = 0 then .error .divisionByZero else .ok (a / b)

def widen (word : BitVec 256) : Wide := word.setWidth 512

def narrow? (wide : Wide) : Option (BitVec 256) :=
  if bitLength wide ≤ 256 then some (wide.setWidth 256) else none

end Wide

end ChainRules
