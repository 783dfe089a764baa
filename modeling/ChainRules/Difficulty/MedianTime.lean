import ChainRules.Block.Stored
import ChainRules.Constants

set_option autoImplicit false

namespace ChainRules

-- An ancestor that cannot be had is a failure, never the end of the chain.
def recentTimestamps (store : BlockStore) : Nat → StoredBlock → Except ConsensusError (List Int64)
  | 0, block => .ok [block.header.timestamp]
  | count + 1, block =>
      if block.isGenesis then .ok [block.header.timestamp]
      else
        match store.requirePrevious block with
        | .error error => .error error
        | .ok previous => (recentTimestamps store count previous).map (block.header.timestamp :: ·)

def insertAscending (time : Int64) : List Int64 → List Int64
  | [] => [time]
  | first :: rest => if time ≤ first then time :: first :: rest else first :: insertAscending time rest

def sortAscending : List Int64 → List Int64
  | [] => []
  | time :: rest => insertAscending time (sortAscending rest)

def lowerMedian (times : List Int64) : Except ArithmeticFault Int64 :=
  match (sortAscending times)[(times.length - 1) / 2]? with
  | some time => .ok time
  | none => .error .emptyMedian

def medianTimePast (store : BlockStore) (block : StoredBlock) : Except ConsensusError Int64 :=
  match recentTimestamps store (Constants.medianTimeSpan - 1) block with
  | .error error => .error error
  | .ok times => (lowerMedian times).mapError .arithmetic

end ChainRules
