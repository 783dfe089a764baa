import ChainRules.Json.Value

set_option autoImplicit false

namespace ChainRules.Json

def isDigits (chars : List Char) : Bool := !chars.isEmpty && chars.all Decimal.isDigit

def isExponent : List Char → Bool
  | '+' :: digits => isDigits digits
  | '-' :: digits => isDigits digits
  | digits => isDigits digits

def isExponentPart : List Char → Bool
  | [] => true
  | 'e' :: exponent => isExponent exponent
  | 'E' :: exponent => isExponent exponent
  | _ => false

def isNumberTail : List Char → Bool
  | '.' :: rest =>
      isDigits (rest.takeWhile Decimal.isDigit) && isExponentPart (rest.dropWhile Decimal.isDigit)
  | rest => isExponentPart rest

def numberOf? (negative : Bool) (spelling whole tail : List Char) : Option Json :=
  match Decimal.read? whole with
  | none => none
  | some value =>
      if tail.isEmpty then
        if negative then
          if value = 0 then some (.real spelling) else some (.integer (-(value : Int)))
        else some (.integer value)
      else if isNumberTail tail then some (.real spelling)
      else none

def number? (spelling : List Char) : Option Json :=
  match spelling with
  | '-' :: rest => numberOf? true spelling (rest.takeWhile Decimal.isDigit) (rest.dropWhile Decimal.isDigit)
  | _ => numberOf? false spelling (spelling.takeWhile Decimal.isDigit) (spelling.dropWhile Decimal.isDigit)

def bareWord? (spelling : List Char) : Option Json :=
  if spelling = ['n', 'u', 'l', 'l'] then some .null
  else if spelling = ['t', 'r', 'u', 'e'] then some (.bool true)
  else if spelling = ['f', 'a', 'l', 's', 'e'] then some (.bool false)
  else number? spelling

end ChainRules.Json
