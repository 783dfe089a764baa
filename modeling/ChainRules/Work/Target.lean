import ChainRules.Bytes.Bytes32
import ChainRules.Bytes.Hex
import ChainRules.Text.Utf8
import ChainRules.Work.Wide

set_option autoImplicit false

namespace ChainRules

structure Target where
  value : BitVec 256
  deriving DecidableEq

namespace Target

def toNat (target : Target) : Nat := target.value.toNat

instance : LE Target := ⟨fun a b => a.toNat ≤ b.toNat⟩

instance : LT Target := ⟨fun a b => a.toNat < b.toNat⟩

instance (a b : Target) : Decidable (a ≤ b) := inferInstanceAs (Decidable (a.toNat ≤ b.toNat))

instance (a b : Target) : Decidable (a < b) := inferInstanceAs (Decidable (a.toNat < b.toNat))

def zero : Target := ⟨0⟩

def isZero (target : Target) : Bool := target.toNat = 0

def widen (target : Target) : Wide := Wide.widen target.value

def cappedAt (limit : Target) (wide : Wide) : Target :=
  match Wide.narrow? wide with
  | some value => if (⟨value⟩ : Target) ≤ limit then ⟨value⟩ else limit
  | none => limit

def ofHashBytes (bytes : Bytes32) : Target :=
  ⟨BitVec.ofNat 256 (Bytes.littleEndian bytes.toList)⟩

def toBytes (target : Target) : List UInt8 :=
  Bytes.toBigEndian 32 target.toNat

def display (target : Target) : String := Hex.encode target.toBytes

def debug (target : Target) : String :=
  "Target(\"" ++ target.display ++ "\")"

inductive TextFault where
  | notHex (obstacle : Hex.Obstacle)
  | tooWide
  deriving DecidableEq

def ofHex (text : String) : Except TextFault Target :=
  match Hex.decode (Text.utf8 text) with
  | .error obstacle => .error (.notHex obstacle)
  | .ok bytes =>
      if bytes.length ≤ 32 then .ok ⟨BitVec.ofNat 256 (Bytes.bigEndian bytes)⟩ else .error .tooWide

end Target

end ChainRules
