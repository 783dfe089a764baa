import ChainRules.Text.Decimal

set_option autoImplicit false

/-!
JSON values. A text keeps, for each character, whether it was escaped, and may hold halves of surrogate pairs
that name no character; an object keeps the order of its members and every repetition of a name. Both matter to
readers that refuse some of what is well-formed.
-/

namespace ChainRules

inductive JsonUnit where
  | plain (char : Char)
  | escaped (char : Char)
  | surrogate (code : Nat)
  deriving DecidableEq

abbrev JsonText := List JsonUnit

inductive Json where
  | null
  | bool (value : Bool)
  -- A number without fraction and exponent; a negative zero is not among these.
  | integer (value : Int)
  | real (spelling : List Char)
  | text (units : JsonText)
  | array (elements : List Json)
  | object (members : List (JsonText × Json))

namespace JsonUnit

def char? : JsonUnit → Option Char
  | .plain char => some char
  | .escaped char => some char
  | .surrogate _ => none

def plain? : JsonUnit → Option Char
  | .plain char => some char
  | _ => none

def mustEscape (char : Char) : Bool :=
  char.toNat < 32 ∨ char = '"' ∨ char = '\\'

def ofChar (char : Char) : JsonUnit :=
  if mustEscape char then .escaped char else .plain char

end JsonUnit

namespace JsonText

def ofString (text : String) : JsonText := text.toList.map JsonUnit.ofChar

def chars? (units : JsonText) : Option (List Char) := units.mapM JsonUnit.char?

def string? (units : JsonText) : Option String := (chars? units).map String.ofList

def plainChars? (units : JsonText) : Option (List Char) := units.mapM JsonUnit.plain?

end JsonText

namespace Json

def string (text : String) : Json := .text (JsonText.ofString text)

def record (members : List (String × Json)) : Json :=
  .object (members.map (fun member => (JsonText.ofString member.1, member.2)))

end Json

end ChainRules
