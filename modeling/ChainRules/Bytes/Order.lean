set_option autoImplicit false

namespace ChainRules.Bytes

def bigEndian (bytes : List UInt8) : Nat :=
  bytes.foldl (fun total byte => total * 256 + byte.toNat) 0

def littleEndian : List UInt8 → Nat
  | [] => 0
  | byte :: rest => byte.toNat + 256 * littleEndian rest

def toLittleEndian : Nat → Nat → List UInt8
  | 0, _ => []
  | width + 1, number => UInt8.ofNat number :: toLittleEndian width (number / 256)

def toBigEndian (width number : Nat) : List UInt8 :=
  (toLittleEndian width number).reverse

@[simp]
theorem length_to_little_endian (width number : Nat) : (toLittleEndian width number).length = width := by
  induction width generalizing number with
  | zero => rfl
  | succ width ih => simp [toLittleEndian, ih]

@[simp]
theorem length_to_big_endian (width number : Nat) : (toBigEndian width number).length = width := by
  simp [toBigEndian]

end ChainRules.Bytes
