import ChainRules.Block.Stored

set_option autoImplicit false

namespace ChainRules

structure Blueprint where
  height : Option UInt32
  version : Option Int32
  previous : Option String
  merkleRoot : Option String
  timestamp : Option Int64
  spacing : Option Int64
  bits : Option CompactBits
  nonce : Option Bytes32
  hash : Option String
  deriving DecidableEq

namespace Blueprint

def hashOr? (fallback : BlockHash) : Option String → Option BlockHash
  | none => some fallback
  | some text => BlockHash.parse? text

def heightOn (blueprint : Blueprint) : Option StoredBlock → UInt32
  | none => blueprint.height.getD 0
  | some parent => blueprint.height.getD (parent.height + 1)

def timestampOn (blueprint : Blueprint) : Option StoredBlock → Int64
  | none => blueprint.timestamp.getD 0
  | some parent => blueprint.timestamp.getD (parent.header.timestamp + blueprint.spacing.getD 150)

def bitsOn (blueprint : Blueprint) : Option StoredBlock → CompactBits
  | none => blueprint.bits.getD ⟨0x207fffff⟩
  | some parent => blueprint.bits.getD parent.header.bits

def parentHash : Option StoredBlock → BlockHash
  | none => .zero
  | some parent => parent.hash

def build? (blueprint : Blueprint) (parent : Option StoredBlock) : Option StoredBlock := do
  let previous ← hashOr? (parentHash parent) blueprint.previous
  let merkleRoot ← hashOr? ⟨Bytes32.replicate 0x11⟩ blueprint.merkleRoot
  let height := blueprint.heightOn parent
  let header : BlockHeader :=
    { version := blueprint.version.getD 1
      previous := previous
      merkleRoot := merkleRoot
      timestamp := blueprint.timestampOn parent
      bits := blueprint.bitsOn parent
      nonce := blueprint.nonce.getD (Bytes32.ofNumber height.toNat)
      hash := .zero }
  match blueprint.hash with
  | none => return ⟨header.withHashFrom BlockHeader.doubleSha256, height⟩
  | some text =>
      let hash ← BlockHash.parse? text
      return ⟨{ header with hash := hash }, height⟩

end Blueprint

structure BlueprintCycle where
  height : List (Option UInt32)
  version : List (Option Int32)
  previous : List (Option String)
  merkleRoot : List (Option String)
  timestamp : List (Option Int64)
  spacing : List (Option Int64)
  bits : List (Option CompactBits)
  nonce : List (Option Bytes32)
  hash : List (Option String)

namespace BlueprintCycle

def choice {α : Type} (choices : List (Option α)) (index : Nat) : Option α :=
  (choices[index % choices.length]?).join

def blueprint (cycle : BlueprintCycle) (index : Nat) : Blueprint where
  height := choice cycle.height index
  version := choice cycle.version index
  previous := choice cycle.previous index
  merkleRoot := choice cycle.merkleRoot index
  timestamp := choice cycle.timestamp index
  spacing := choice cycle.spacing index
  bits := choice cycle.bits index
  nonce := choice cycle.nonce index
  hash := choice cycle.hash index

end BlueprintCycle

end ChainRules
