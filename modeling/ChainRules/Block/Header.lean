import ChainRules.Constants
import ChainRules.Digest.Sha256
import ChainRules.Work.Encoding

set_option autoImplicit false

namespace ChainRules

-- A header with the hash it carries. The hash is not part of the serialisation.
structure BlockHeader where
  version : Int32
  previous : BlockHash
  merkleRoot : BlockHash
  timestamp : Int64
  bits : CompactBits
  nonce : Bytes32
  hash : BlockHash
  deriving DecidableEq

abbrev HeaderHasher := BlockHeader → BlockHash

namespace BlockHeader

def serializedSize : Nat := 108

-- The timestamp is written modulo `2 ^ 32`.
def serialize (header : BlockHeader) : List UInt8 :=
  Bytes.toLittleEndian 4 header.version.toUInt32.toNat
    ++ header.previous.bytes.toList
    ++ header.merkleRoot.bytes.toList
    ++ Bytes.toLittleEndian 4 header.timestamp.toUInt64.toNat
    ++ Bytes.toLittleEndian 4 header.bits.value.toNat
    ++ header.nonce.toList

def doubleSha256 : HeaderHasher := fun header => ⟨Sha256.doubleDigest header.serialize⟩

def withHashFrom (hasher : HeaderHasher) (header : BlockHeader) : BlockHeader :=
  { header with hash := hasher header }

def target (header : BlockHeader) : Except ConsensusError Target := header.bits.toTarget

def checkProofOfWork (header : BlockHeader) : Except ConsensusError Bool :=
  header.target.map (fun target => decide (Target.ofHashBytes header.hash.bytes ≤ target))

def signalsHeightInCoinbase (header : BlockHeader) : Bool := Constants.blockVersionBip34 ≤ header.version

def signalsLockTimeVerify (header : BlockHeader) : Bool :=
  Constants.blockVersionBip65 ≤ header.version

end BlockHeader

end ChainRules
