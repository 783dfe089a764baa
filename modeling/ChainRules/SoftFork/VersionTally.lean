import ChainRules.Block.Stored

set_option autoImplicit false

namespace ChainRules

structure VersionTally where
  window : Nat
  latest : List Int32
  deriving DecidableEq

namespace VersionTally

def new (window : Nat) : VersionTally := ⟨window, []⟩

def recorded (tally : VersionTally) : List Int32 := tally.latest.reverse

def add (tally : VersionTally) (version : Int32) : VersionTally :=
  { tally with latest := (version :: tally.latest).take tally.window }

def addAll (tally : VersionTally) (versions : List Int32) : VersionTally :=
  versions.foldl add tally

def countAtOrAbove (tally : VersionTally) (version : Int32) : Option Nat :=
  if tally.latest.length < tally.window then none
  else some (tally.latest.countP (fun recorded => decide (version ≤ recorded)))

def size (tally : VersionTally) : Nat := tally.window

def length (tally : VersionTally) : Nat := tally.latest.length

def isEmpty (tally : VersionTally) : Bool := tally.latest.isEmpty

-- No ancestor is read that is not recorded.
def recentVersions (store : BlockStore) : Nat → StoredBlock → Except ConsensusError (List Int32)
  | 0, _ => .ok []
  | 1, block => .ok [block.header.version]
  | count + 2, block =>
      if block.isGenesis then .ok [block.header.version]
      else
        match store.requirePrevious block with
        | .error error => .error error
        | .ok previous => (recentVersions store (count + 1) previous).map (block.header.version :: ·)

-- Where the walk fails, the tally afterwards is the one before.
def refill (tally : VersionTally) (store : BlockStore) (head : StoredBlock) :
    Except ConsensusError Unit × VersionTally :=
  match recentVersions store tally.window head with
  | .error error => (.error error, tally)
  | .ok versions => (.ok (), (new tally.window).addAll versions.reverse)

end VersionTally

end ChainRules
