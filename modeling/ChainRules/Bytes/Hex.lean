set_option autoImplicit false

namespace ChainRules.Hex

inductive Obstacle where
  | oddLength
  | badDigit (byte : UInt8) (position : Nat)
  deriving DecidableEq

def byteDigits (byte : UInt8) : List Char :=
  [Nat.digitChar (byte.toNat / 16), Nat.digitChar (byte.toNat % 16)]

def digits (bytes : List UInt8) : List Char :=
  bytes.flatMap byteDigits

def encode (bytes : List UInt8) : String :=
  String.ofList (digits bytes)

def digitValue? (byte : UInt8) : Option Nat :=
  let code := byte.toNat
  if 48 ≤ code ∧ code ≤ 57 then some (code - 48)
  else if 97 ≤ code ∧ code ≤ 102 then some (code - 87)
  else if 65 ≤ code ∧ code ≤ 70 then some (code - 55)
  else none

def decodePairs : List UInt8 → Nat → Except Obstacle (List UInt8)
  | high :: low :: rest, position =>
      match digitValue? high with
      | none => .error (.badDigit high position)
      | some highValue =>
          match digitValue? low with
          | none => .error (.badDigit low (position + 1))
          | some lowValue =>
              (decodePairs rest (position + 2)).map (UInt8.ofNat (16 * highValue + lowValue) :: ·)
  | _, _ => .ok []

def decode (text : List UInt8) : Except Obstacle (List UInt8) :=
  if text.length % 2 = 1 then .error .oddLength else decodePairs text 0

end ChainRules.Hex
