import ChainRules.Bytes.Order
import ChainRules.Bytes.Hex
import ChainRules.Json.Value

set_option autoImplicit false

namespace ChainRules.Json

def unicodeEscape (code : Nat) : List Char :=
  '\\' :: 'u' :: Hex.digits (Bytes.toBigEndian 2 code)

def escapedChar (char : Char) : List Char :=
  if char = '"' ∨ char = '\\' then ['\\', char]
  else if char = '\n' then ['\\', 'n']
  else if char = '\r' then ['\\', 'r']
  else if char = '\t' then ['\\', 't']
  else if char = Char.ofNat 8 then ['\\', 'b']
  else if char = Char.ofNat 12 then ['\\', 'f']
  else if char.toNat < 0x10000 then unicodeEscape char.toNat
  else unicodeEscape (0xd800 + (char.toNat - 0x10000) / 0x400)
    ++ unicodeEscape (0xdc00 + (char.toNat - 0x10000) % 0x400)

def unitChars : JsonUnit → List Char
  | .plain char => if JsonUnit.mustEscape char then escapedChar char else [char]
  | .escaped char => escapedChar char
  | .surrogate code => unicodeEscape code

def textChars (units : JsonText) : List Char :=
  '"' :: units.flatMap unitChars ++ ['"']

mutual

def chars : Json → List Char
  | .null => ['n', 'u', 'l', 'l']
  | .bool true => ['t', 'r', 'u', 'e']
  | .bool false => ['f', 'a', 'l', 's', 'e']
  | .integer value => Decimal.signed value
  | .real spelling => spelling
  | .text units => textChars units
  | .array [] => ['[', ']']
  | .array (first :: rest) => '[' :: chars first ++ elementChars rest
  | .object [] => ['\x7b', '\x7d']
  | .object ((name, value) :: rest) => '\x7b' :: textChars name ++ ':' :: chars value ++ memberChars rest

def elementChars : List Json → List Char
  | [] => [']']
  | element :: rest => ',' :: chars element ++ elementChars rest

def memberChars : List (JsonText × Json) → List Char
  | [] => ['\x7d']
  | (name, value) :: rest => ',' :: textChars name ++ ':' :: chars value ++ memberChars rest

end

def print (value : Json) : String := String.ofList (chars value)

end ChainRules.Json
