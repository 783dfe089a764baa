set_option autoImplicit false

namespace ChainRules.Decimal

def isDigit (char : Char) : Bool := '0' ≤ char ∧ char ≤ '9'

def digits (number : Nat) : List Char := Nat.toDigits 10 number

def value (digits : List Char) : Nat := Nat.ofDigitChars 10 digits 0

def isCanonical : List Char → Bool
  | [] => false
  | [digit] => isDigit digit
  | first :: rest => isDigit first && first ≠ '0' && rest.all isDigit

def read? (chars : List Char) : Option Nat :=
  if isCanonical chars then some (value chars) else none

def signed : Int → List Char
  | .ofNat number => digits number
  | .negSucc number => '-' :: digits (number + 1)

end ChainRules.Decimal
