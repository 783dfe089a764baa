import ChainRules.Bytes.Bytes32
import ChainRules.Bytes.Hex
import ChainRules.Text.Utf8

set_option autoImplicit false

namespace ChainRules

structure BlockHash where
  bytes : Bytes32
  deriving DecidableEq

namespace BlockHash

def ofNumber (number : Nat) : BlockHash := ⟨Bytes32.ofNumber number⟩

def zero : BlockHash := ⟨Bytes32.zero⟩

def display (hash : BlockHash) : String :=
  Hex.encode hash.bytes.reverse.toList

def parse? (text : String) : Option BlockHash :=
  match Hex.decode (Text.utf8 text) with
  | .error _ => none
  | .ok bytes => (Bytes32.ofList? bytes).map (⟨·.reverse⟩)

end BlockHash

end ChainRules
