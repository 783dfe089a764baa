import ChainRules.Block.MemoryStore
import ChainRules.Difficulty.Retarget
import ChainRules.Simulation.Blueprint
import ChainRules.Simulation.Outage
import ChainRules.SoftFork.Activation

set_option autoImplicit false

/-!
Sessions: chains are built block by block in a memory store whose reads can be made to fail, and the rules are
asked about them on the way. A step that fails keeps what it has done so far.
-/

namespace ChainRules

structure Session where
  params : ChainParameters
  store : MemoryStore
  outage : Outage
  blocks : Array StoredBlock
  tally : VersionTally

inductive SessionError where
  | consensus (error : ConsensusError)
  | store (error : StoreError)
  | badHash
  | noSuchBlock
  deriving DecidableEq

abbrev SessionStep (α : Type) := Session → Except SessionError α × Session

namespace Session

def start (params : ChainParameters) : Session where
  params := params
  store := .empty
  outage := .none
  blocks := #[]
  tally := .new params.majorityWindow.toNat

def reader (session : Session) : BlockStore := session.outage.applied session.store.reader

def block? (session : Session) : Option Nat → Option StoredBlock
  | none => session.blocks.back?
  | some index => session.blocks[index]?

def record (session : Session) (block : StoredBlock) (stored : Bool) : Session :=
  { session with
    blocks := session.blocks.push block
    store := if stored then session.store.put block else session.store }

def addGenesis (session : Session) : Session :=
  session.record ⟨session.params.genesis.header BlockHeader.doubleSha256, 0⟩ true

def push (parent : Option StoredBlock) (blueprint : Blueprint) (stored : Bool) : SessionStep Unit :=
  fun session =>
    match blueprint.build? parent with
    | none => (.error .badHash, session)
    | some block => (.ok (), session.record block stored)

def extendFrom (cycle : BlueprintCycle) (stored : Bool) : Nat → Nat → SessionStep Unit
  | 0, _, session => (.ok (), session)
  | count + 1, index, session =>
      match push session.blocks.back? (cycle.blueprint index) stored session with
      | (.error error, after) => (.error error, after)
      | (.ok (), after) => extendFrom cycle stored count (index + 1) after

def extend (cycle : BlueprintCycle) (stored : Bool) (count : Nat) : SessionStep Unit :=
  extendFrom cycle stored count 0

def expectedBits (session : Session) (parent : StoredBlock) (blueprint : Blueprint) :
    Except SessionError (Option CompactBits) :=
  match blueprint.build? (some parent) with
  | none => .error .badHash
  | some candidate =>
      (session.params.expectedNextBits session.reader parent candidate.header).mapError .consensus

def checkBits (session : Session) (parent : StoredBlock) (blueprint : Blueprint) : Except SessionError Unit :=
  match blueprint.build? (some parent) with
  | none => .error .badHash
  | some candidate =>
      (session.params.checkDifficultyTransitions session.reader parent candidate.header).mapError .consensus

def mined (session : Session) (parent : StoredBlock) (blueprint : Blueprint) :
    Except SessionError (Option CompactBits × StoredBlock) :=
  match session.expectedBits parent blueprint with
  | .error error => .error error
  | .ok expected =>
      let honest := { blueprint with bits := expected.or blueprint.bits }
      match session.checkBits parent honest with
      | .error error => .error error
      | .ok () =>
          match honest.build? (some parent) with
          | none => .error .badHash
          | some block => .ok (expected, block)

def mineFrom (cycle : BlueprintCycle) : Nat → Nat → SessionStep (List (Option CompactBits))
  | 0, _, session => (.ok [], session)
  | count + 1, index, session =>
      match session.blocks.back? with
      | none => (.error .noSuchBlock, session)
      | some parent =>
          match session.mined parent (cycle.blueprint index) with
          | .error error => (.error error, session)
          | .ok (expected, block) =>
              match mineFrom cycle count (index + 1) (session.record block true) with
              | (.error error, after) => (.error error, after)
              | (.ok later, after) => (.ok (expected :: later), after)

def mine (cycle : BlueprintCycle) (count : Nat) : SessionStep (List (Option CompactBits)) :=
  mineFrom cycle count 0

def medianTimePast (session : Session) (block : StoredBlock) : Except SessionError Int64 :=
  (ChainRules.medianTimePast session.reader block).mapError .consensus

def get (session : Session) (hash : BlockHash) : Except SessionError (Option StoredBlock) :=
  (session.reader.get hash).mapError .store

def breakReads (session : Session) (outage : Outage) : Session :=
  { session with outage := outage }

def setTally (session : Session) (tally : VersionTally) : Session :=
  { session with tally := tally }

def refillTally (head : StoredBlock) : SessionStep Unit :=
  fun session =>
    let (outcome, tally) := session.tally.refill session.reader head
    (outcome.mapError .consensus, session.setTally tally)

end Session

end ChainRules
