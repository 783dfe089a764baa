import ChainRules.Block.Header

set_option autoImplicit false

namespace ChainRules

structure StoredBlock where
  header : BlockHeader
  height : UInt32
  deriving DecidableEq

namespace StoredBlock

def hash (block : StoredBlock) : BlockHash := block.header.hash

def isGenesis (block : StoredBlock) : Bool := block.height = 0

end StoredBlock

structure BlockStore where
  get : BlockHash → Except StoreError (Option StoredBlock)

namespace BlockStore

def getPrevious (store : BlockStore) (block : StoredBlock) : Except StoreError (Option StoredBlock) :=
  store.get block.header.previous

def require (answer : Except StoreError (Option StoredBlock)) (absent : LookupFailure) :
    Except ConsensusError StoredBlock :=
  match answer with
  | .ok (some block) => .ok block
  | .ok none => .error (.ancestorLookupFailed absent)
  | .error error => .error (.ancestorLookupFailed (.unreadable error))

def requireBlock (store : BlockStore) (hash : BlockHash) : Except ConsensusError StoredBlock :=
  require (store.get hash) (.missingBlock hash)

def requirePrevious (store : BlockStore) (block : StoredBlock) : Except ConsensusError StoredBlock :=
  require (store.getPrevious block) (.missingPredecessor block.header.previous block.hash block.height)

end BlockStore

def StoredBlock.predecessor (block : StoredBlock) (store : BlockStore) : Except StoreError (Option StoredBlock) :=
  store.get block.header.previous

end ChainRules
