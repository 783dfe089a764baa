import ChainRules.Block.Stored

set_option autoImplicit false

namespace ChainRules

structure WindowSum where
  total : Wide
  before : StoredBlock
  deriving DecidableEq

-- There is no window where the genesis block comes first, since that block is never part of one.
def sumWindow (store : BlockStore) : Nat → StoredBlock → Wide → Except ConsensusError (Option WindowSum)
  | 0, cursor, total => .ok (some ⟨total, cursor⟩)
  | count + 1, cursor, total =>
      if cursor.isGenesis then .ok none
      else
        match cursor.header.target with
        | .error error => .error error
        | .ok target =>
            match Wide.add total target.widen with
            | .error fault => .error (.arithmetic fault)
            | .ok sum =>
                match store.requirePrevious cursor with
                | .error error => .error error
                | .ok previous => sumWindow store count previous sum

end ChainRules
