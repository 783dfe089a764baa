import ChainRules.Difficulty.MedianTime
import ChainRules.Difficulty.Window
import ChainRules.Parameters.Basic

set_option autoImplicit false

namespace ChainRules

def saturatingSub (a b : Int64) : Int64 := Int64.ofIntClamp (a.toInt - b.toInt)

def checkedAdd (a b : Int64) : Except ArithmeticFault Int64 :=
  let sum := a.toInt + b.toInt
  if Int64.minValue.toInt ≤ sum ∧ sum ≤ Int64.maxValue.toInt then .ok (Int64.ofInt sum) else .error .overflow

def unsignedWide (n : Int64) : Wide := BitVec.ofNat 512 n.toUInt64.toNat

namespace ChainParameters

def countedTimespan (params : ChainParameters) (actual : Int64) : Except ArithmeticFault Int64 :=
  let nominal := params.averagingWindowTimespan
  (checkedAdd nominal (saturatingSub actual nominal / 4)).map
    (fun damped => min (max damped params.minActualTimespan) params.maxActualTimespan)

-- The average is divided by the nominal timespan before it is multiplied by the time that counts.
def nextTarget (params : ChainParameters) (total : Wide) (actual : Int64) : Except ArithmeticFault Target := do
  let average ← Wide.div total (BitVec.ofNat 512 params.averagingWindow.toNat)
  let timespan ← params.countedTimespan actual
  let perSecond ← Wide.div average (unsignedWide params.averagingWindowTimespan)
  let expected ← Wide.mul perSecond (unsignedWide timespan)
  return Target.cappedAt params.powLimit expected

def nextBits (params : ChainParameters) (total : Wide) (actual : Int64) : Except ConsensusError CompactBits :=
  ((params.nextTarget total actual).map CompactBits.ofTarget).mapError .arithmetic

def bitsFromMedians (params : ChainParameters) (store : BlockStore) (previous : StoredBlock)
    (window : WindowSum) : Except ConsensusError CompactBits :=
  match medianTimePast store previous with
  | .error error => .error error
  | .ok last =>
      match medianTimePast store window.before with
      | .error error => .error error
      | .ok first => params.nextBits window.total (saturatingSub last first)

def expectedAtWindowEnds (params : ChainParameters) (store : BlockStore) (previous : StoredBlock)
    (candidate : BlockHeader) : Except ConsensusError (Option CompactBits) :=
  if params.averagingWindow.toNat = 0 then .error (.arithmetic .divisionByZero)
  else if (previous.height.toNat + 1) % params.averagingWindow.toNat ≠ 0 then .ok none
  else
    match store.requireBlock candidate.previous with
    | .error error => .error error
    | .ok parent =>
        match sumWindow store params.averagingWindow.toNat parent 0 with
        | .error error => .error error
        | .ok none => .ok none
        | .ok (some window) => (params.bitsFromMedians store previous window).map some

def expectedAtEveryBlock (params : ChainParameters) (store : BlockStore) (previous : StoredBlock) :
    Except ConsensusError (Option CompactBits) :=
  match store.requireBlock previous.hash with
  | .error error => .error error
  | .ok tip =>
      match sumWindow store params.averagingWindow.toNat tip 0 with
      | .error error => .error error
      | .ok none => .ok (some previous.header.bits)
      | .ok (some window) =>
          (params.nextBits window.total
            (saturatingSub previous.header.timestamp window.before.header.timestamp)).map some

def expectedNextBits (params : ChainParameters) (store : BlockStore) (previous : StoredBlock)
    (candidate : BlockHeader) : Except ConsensusError (Option CompactBits) :=
  match params.retargetRule with
  | .averagingWindowMedianTime => params.expectedAtWindowEnds store previous candidate
  | .everyBlockRawTimespan => params.expectedAtEveryBlock store previous

def checkDifficultyTransitions (params : ChainParameters) (store : BlockStore) (previous : StoredBlock)
    (candidate : BlockHeader) : Except ConsensusError Unit :=
  match params.expectedNextBits store previous candidate with
  | .error error => .error error
  | .ok none => .ok ()
  | .ok (some expected) =>
      if expected = candidate.bits then .ok () else .error (.difficultyMismatch expected candidate.bits)

end ChainParameters

end ChainRules
