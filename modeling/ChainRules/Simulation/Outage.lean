import ChainRules.Block.Stored

set_option autoImplicit false

namespace ChainRules

structure Outage where
  everything : Bool
  hashes : List BlockHash
  detail : String
  deriving DecidableEq

namespace Outage

def none : Outage := ⟨false, [], ""⟩

def applied (outage : Outage) (store : BlockStore) : BlockStore where
  get hash :=
    if outage.everything || outage.hashes.contains hash then .error (.backend outage.detail)
    else store.get hash

end Outage

end ChainRules
