import ChainRules.Bytes.Hex
import ChainRules.Json.Number

set_option autoImplicit false

namespace ChainRules

inductive JsonToken where
  | openArray
  | closeArray
  | openObject
  | closeObject
  | comma
  | colon
  | scalar (value : Json)
  | text (units : JsonText)

namespace JsonToken

inductive Mode where
  | blank
  | word (spelling : List Char)
  | text (units : List JsonUnit)
  | escape (units : List JsonUnit)
  -- After a backslash, a `u` and `count` hexadecimal digits of value `code`.
  | unicode (units : List JsonUnit) (count code : Nat)

structure Scanner where
  tokens : List JsonToken
  mode : Mode

def isBlank (char : Char) : Bool :=
  char = ' ' ∨ char = '\t' ∨ char = '\n' ∨ char = '\r'

def punctuation? (char : Char) : Option JsonToken :=
  if char = '[' then some .openArray
  else if char = ']' then some .closeArray
  else if char = '\x7b' then some .openObject
  else if char = '\x7d' then some .closeObject
  else if char = ',' then some .comma
  else if char = ':' then some .colon
  else none

def isWordChar (char : Char) : Bool :=
  char.isAlphanum ∨ char = '+' ∨ char = '-' ∨ char = '.'

def escape? (char : Char) : Option Char :=
  if char = '"' ∨ char = '\\' ∨ char = '/' then some char
  else if char = 'b' then some (Char.ofNat 8)
  else if char = 'f' then some (Char.ofNat 12)
  else if char = 'n' then some '\n'
  else if char = 'r' then some '\r'
  else if char = 't' then some '\t'
  else none

def hexDigit? (char : Char) : Option Nat :=
  if char.toNat < 128 then Hex.digitValue? (UInt8.ofNat char.toNat) else none

def isHighSurrogate (code : Nat) : Bool := 0xd800 ≤ code ∧ code < 0xdc00

def isLowSurrogate (code : Nat) : Bool := 0xdc00 ≤ code ∧ code < 0xe000

-- The second half of a surrogate pair completes the character that the first half began.
def pushCode (code : Nat) : List JsonUnit → List JsonUnit
  | .surrogate high :: units =>
      if isHighSurrogate high && isLowSurrogate code then
        .escaped (Char.ofNat (0x10000 + (high - 0xd800) * 0x400 + (code - 0xdc00))) :: units
      else if isHighSurrogate code || isLowSurrogate code then
        .surrogate code :: .surrogate high :: units
      else .escaped (Char.ofNat code) :: .surrogate high :: units
  | units =>
      if isHighSurrogate code || isLowSurrogate code then .surrogate code :: units
      else .escaped (Char.ofNat code) :: units

namespace Scanner

def stepBlank (tokens : List JsonToken) (char : Char) : Option Scanner :=
  if isBlank char then some ⟨tokens, .blank⟩
  else if char = '"' then some ⟨tokens, .text []⟩
  else if isWordChar char then some ⟨tokens, .word [char]⟩
  else (punctuation? char).map (fun token => ⟨token :: tokens, .blank⟩)

def endWord (tokens : List JsonToken) (spelling : List Char) : Option (List JsonToken) :=
  (Json.bareWord? spelling.reverse).map (fun value => .scalar value :: tokens)

def step (scanner : Scanner) (char : Char) : Option Scanner :=
  match scanner.mode with
  | .blank => stepBlank scanner.tokens char
  | .word spelling =>
      if isWordChar char then some ⟨scanner.tokens, .word (char :: spelling)⟩
      else (endWord scanner.tokens spelling).bind (fun tokens => stepBlank tokens char)
  | .text units =>
      if char = '"' then some ⟨.text units.reverse :: scanner.tokens, .blank⟩
      else if char = '\\' then some ⟨scanner.tokens, .escape units⟩
      else if char.toNat < 32 then none
      else some ⟨scanner.tokens, .text (.plain char :: units)⟩
  | .escape units =>
      if char = 'u' then some ⟨scanner.tokens, .unicode units 0 0⟩
      else (escape? char).map (fun meant => ⟨scanner.tokens, .text (.escaped meant :: units)⟩)
  | .unicode units count code =>
      (hexDigit? char).map (fun digit =>
        let code := 16 * code + digit
        if count = 3 then ⟨scanner.tokens, .text (pushCode code units)⟩
        else ⟨scanner.tokens, .unicode units (count + 1) code⟩)

def finish? (scanner : Scanner) : Option (List JsonToken) :=
  match scanner.mode with
  | .blank => some scanner.tokens.reverse
  | .word spelling => (endWord scanner.tokens spelling).map List.reverse
  | _ => none

end Scanner

def scan? (chars : List Char) : Option (List JsonToken) :=
  (chars.foldlM Scanner.step ⟨[], .blank⟩).bind Scanner.finish?

end JsonToken

end ChainRules
