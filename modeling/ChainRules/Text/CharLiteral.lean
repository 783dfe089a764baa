set_option autoImplicit false

namespace ChainRules.Text

-- Control characters, the no-break space and the soft hyphen are not written as themselves.
def isPrintable (code : Nat) : Bool :=
  32 ≤ code ∧ code < 127 ∨ 160 < code ∧ code ≠ 173

def literalBody (byte : UInt8) : List Char :=
  let code := byte.toNat
  if code = 0 then ['\\', '0']
  else if code = 9 then ['\\', 't']
  else if code = 10 then ['\\', 'n']
  else if code = 13 then ['\\', 'r']
  else if code = 39 then ['\\', '\'']
  else if code = 92 then ['\\', '\\']
  else if isPrintable code then [Char.ofNat code]
  else ['\\', 'u', '\x7b'] ++ Nat.toDigits 16 code ++ ['\x7d']

def charLiteral (byte : UInt8) : String :=
  String.ofList ('\'' :: literalBody byte ++ ['\''])

end ChainRules.Text
