import ChainRules.Block.Hash
import ChainRules.Network
import ChainRules.Text.CharLiteral
import ChainRules.Work.CompactBits
import ChainRules.Work.Target

set_option autoImplicit false

namespace ChainRules

inductive StoreError where
  | backend (detail : String)
  deriving DecidableEq

def StoreError.message : StoreError → String
  | .backend detail => "Block store backend error: " ++ detail

inductive LookupFailure where
  | unreadable (error : StoreError)
  | missingBlock (hash : BlockHash)
  | missingPredecessor (predecessor block : BlockHash) (height : UInt32)
  deriving DecidableEq

def LookupFailure.message : LookupFailure → String
  | .unreadable error => error.message
  | .missingBlock hash => "block " ++ hash.display ++ " is not stored"
  | .missingPredecessor predecessor block height =>
      "predecessor " ++ predecessor.display ++ " of block " ++ block.display ++ " at height "
        ++ toString height.toNat ++ " is not stored"

def Hex.Obstacle.message : Hex.Obstacle → String
  | .oddLength => "Odd number of digits"
  | .badDigit byte position =>
      "Invalid character " ++ Text.charLiteral byte ++ " at position " ++ toString position

structure CheckpointConflict where
  height : UInt32
  bound : BlockHash
  offered : BlockHash
  deriving DecidableEq

inductive ConfigFault where
  | badTarget (text : String) (fault : Target.TextFault)
  | checkpointConflict (conflict : CheckpointConflict)
  | invalid
  | unreadable
  deriving DecidableEq

def ConfigFault.message : ConfigFault → String
  | .badTarget text (.notHex obstacle) => "invalid target hex " ++ text ++ ": " ++ obstacle.message
  | .badTarget text .tooWide => "target " ++ text ++ " is wider than 256 bits"
  | .checkpointConflict conflict =>
      "checkpoint at height " ++ toString conflict.height.toNat ++ " conflicts: " ++ conflict.bound.display
        ++ " vs " ++ conflict.offered.display
  | .invalid => "invalid config"
  | .unreadable => "cannot read"

inductive ConsensusError where
  | difficultyMismatch (expected actual : CompactBits)
  | ancestorLookupFailed (failure : LookupFailure)
  | malformedCompactBits (bits : CompactBits)
  | genesisMismatch (network : Network) (expected actual : BlockHash)
  | unknownNetwork (name : String)
  | config (fault : ConfigFault)
  | arithmetic (fault : ArithmeticFault)
  deriving DecidableEq

def ConsensusError.message : ConsensusError → String
  | .difficultyMismatch expected actual =>
      "Network provided difficulty bits do not match what was calculated: " ++ expected.display ++ " vs "
        ++ actual.display
  | .ancestorLookupFailed failure => "Ancestor lookup failed: " ++ failure.message
  | .malformedCompactBits bits => "Malformed compact bits: 0x" ++ bits.display
  | .genesisMismatch network expected actual =>
      "Genesis block of " ++ network.id ++ " hashes to " ++ actual.display ++ ", checkpoint is "
        ++ expected.display
  | .unknownNetwork name => "Unknown network: " ++ name
  | .config fault => "Configuration error: " ++ fault.message
  | .arithmetic fault => fault.message

end ChainRules
