import Mathlib
import TruthFingerprint.Lib.Loops
import TruthFingerprint.Abci.Types

/-!
# Evaluation of one round

`evaluateRound` compares the states of the participating edges pair by pair, excludes the edges
that too few others agree with, and averages the rest when they reach the quorum. It fails only
while it fills the map of pairwise distances, so it is that loop (`pairwiseDistances`) followed by
a total function of the map (`committedRound`).

The map has one string key for a pair of edges, `pairKey`.
-/

namespace TruthFingerprint.Abci

section Constants

variable {F : Type} [FloatArith F]

def pairwiseConsistencyThreshold : F := 0.35
def suspectedByzantineThreshold : F := 0.75

def sensorScales : Finmap fun _ : String => F :=
  [⟨"temperature", 20.0⟩, ⟨"pressure", 3.0⟩, ⟨"rpm", 600.0⟩].toFinmap

/-- The zero value of a sensor, which a lookup of a missing key returns. -/
def SensorValue.zero : SensorValue F := ⟨0.0, ""⟩

def ReplicatedState.zero : ReplicatedState F := ⟨"", none⟩

end Constants

variable {F : Type} [GoArith F]

/-- Three decimals, ties away from zero. -/
def round (value : F) : F := GoArith.mathRound (value * 1000.0) / 1000.0

/-- The last state of each owner. -/
def stateByEdge (states : List (ReplicatedState F)) : Finmap fun _ : String => ReplicatedState F :=
  Finmap.insertAll ReplicatedState.ownerEdgeID id states ∅

/-- `stateByEdge[edgeID]` -/
def stateOf (tx : RoundInputTx F) (edgeID : String) : ReplicatedState F :=
  ((stateByEdge tx.replicatedStates.elems).lookup edgeID).getD .zero

/-- `state.SensorValues[sensorName]` -/
def ReplicatedState.sensor (state : ReplicatedState F) (sensorName : String) : SensorValue F :=
  (state.sensorValues.lookup sensorName).getD .zero

/-! ## Pairwise distances -/

def missingSensor (sensorName : String) (state : ReplicatedState F) : String :=
  "missing sensor " ++ sensorName ++ " for " ++ state.ownerEdgeID

/-- The reading of a sensor that must be there. -/
def ReplicatedState.requireSensor (state : ReplicatedState F) (sensorName : String) :
    Except String (SensorValue F) :=
  match state.sensorValues.lookup sensorName with
  | some sensor => .ok sensor
  | none => .error (missingSensor sensorName state)

/-- One sensor of `normalizedPairDistance`. -/
def addSensorDistance (left right : ReplicatedState F) (acc : F × F) (sensorName : String) :
    Except String (F × F) := do
  let scale := ((sensorScales (F := F)).lookup sensorName).getD 0.0
  let leftSensor ← left.requireSensor sensorName
  let rightSensor ← right.requireSensor sensorName
  pure (acc.1 + FloatArith.abs (leftSensor.value - rightSensor.value) / scale, acc.2 + 1.0)

def normalizedPairDistance (left right : ReplicatedState F) : Except String F := do
  let (total, count) ←
    (sensorScales (F := F)).sortedKeys.foldlM (addSensorDistance left right) (0.0, 0.0)
  pure (total / count)

/-- The key of a pair in the map of pairwise distances. -/
def pairKey (pair : String × String) : String := pair.1 ++ "->" ++ pair.2

def pairDistance (tx : RoundInputTx F) (pair : String × String) : Except String F :=
  normalizedPairDistance (stateOf tx pair.1) (stateOf tx pair.2)

def pairwiseDistances (tx : RoundInputTx F) : Except String (Finmap fun _ : String => F) :=
  Finmap.insertAllM pairKey (pairDistance tx) tx.participatingEdges.elems.orderedPairs ∅

/-- `pairwise[edgeID+"->"+peerID]` -/
def pairwiseAt (pairwise : Finmap fun _ : String => F) (edgeID peerID : String) : F :=
  (pairwise.lookup (pairKey (edgeID, peerID))).getD 0.0

/-! ## Evidence and exclusions -/

def peerIDs (edges : List String) (edgeID : String) : List String :=
  (edges.filter (· ≠ edgeID)).insertionSort (· ≤ ·)

def sensorDistance (tx : RoundInputTx F) (edgeID sensorName peerID : String) : F :=
  FloatArith.abs
    (((stateOf tx edgeID).sensor sensorName).value - ((stateOf tx peerID).sensor sensorName).value)

/-- The sum of a list as a loop from zero adds it up. -/
def total (values : List F) : F := values.foldl (· + ·) 0.0

def sensorDeviation (tx : RoundInputTx F) (edgeID sensorName : String) :
    SensorDeviationEvidence F where
  sensorName := sensorName
  deviationValue :=
    let peers := peerIDs tx.participatingEdges.elems edgeID
    round (total (peers.map (sensorDistance tx edgeID sensorName)) /
      FloatArith.ofNat peers.length)
  unit := ((stateOf tx edgeID).sensor sensorName).unit

def sensorDeviations (tx : RoundInputTx F) (edgeID : String) : List (SensorDeviationEvidence F) :=
  (stateOf tx edgeID).sensorValues.sortedKeys.map (sensorDeviation tx edgeID)

def peerDistances (tx : RoundInputTx F) (edgeID : String) : List (PairwiseDistanceEvidence F) :=
  (stateOf tx edgeID).sensorValues.sortedKeys.flatMap fun sensorName =>
    (peerIDs tx.participatingEdges.elems edgeID).map fun peerID =>
      { peerEdgeID := peerID
        sensorName := sensorName
        distanceValue := round (sensorDistance tx edgeID sensorName peerID)
        unit := ((stateOf tx edgeID).sensor sensorName).unit }

section Pairwise

variable (tx : RoundInputTx F) (pairwise : Finmap fun _ : String => F) (edgeID : String)

def compatiblePeers : Nat :=
  (peerIDs tx.participatingEdges.elems edgeID).countP fun peerID =>
    FloatArith.le (pairwiseAt pairwise edgeID peerID) pairwiseConsistencyThreshold

def overallDeviation : F :=
  let peers := peerIDs tx.participatingEdges.elems edgeID
  round (total (peers.map (pairwiseAt pairwise edgeID)) / FloatArith.ofNat peers.length)

def score : F := round (1.0 / (1.0 + overallDeviation tx pairwise edgeID))

def trustEvidence : PerEdgeTrustEvidence F where
  edgeID := edgeID
  score := score tx pairwise edgeID
  compatiblePeerCount := compatiblePeers tx pairwise edgeID
  overallNormalizedDeviation := overallDeviation tx pairwise edgeID
  sensorDeviations := some (sensorDeviations tx edgeID)
  pairwiseDistances := some (peerDistances tx edgeID)

def quorum : Nat := tx.participatingEdges.elems.length / 2 + 1

def exclusionReason : ExclusionReason :=
  if FloatArith.le suspectedByzantineThreshold (overallDeviation tx pairwise edgeID) then
    .suspectedByzantine
  else .inconsistentView

def deviationDetail (deviation : SensorDeviationEvidence F) : String :=
  let scale := ((sensorScales (F := F)).lookup deviation.sensorName).getD 0.0
  deviation.sensorName ++ ":" ++ GoArith.sprintf3 deviation.deviationValue ++ deviation.unit ++
    "(norm=" ++ GoArith.sprintf3 (deviation.deviationValue / scale) ++ ")"

def exclusionDetails : List String :=
  ("compatible_peers=" ++ toString (compatiblePeers tx pairwise edgeID)) ::
  ("overall_normalized_deviation=" ++ GoArith.sprintf3 (overallDeviation tx pairwise edgeID)) ::
  (sensorDeviations tx edgeID).map deviationDetail

/-- The decision on an edge, if it is excluded. -/
def exclusion : Option ExclusionDecision :=
  if compatiblePeers tx pairwise edgeID + 1 < quorum tx then
    some { edgeID := edgeID
           reason := exclusionReason tx pairwise edgeID
           detail := ", ".intercalate (exclusionDetails tx pairwise edgeID) }
  else none

end Pairwise

/-! ## The committed round -/

/-- The order of the ranking: the higher score first, and the smaller id first at one score. -/
def RankedBefore (left right : TrustRankEntry F) : Prop :=
  if FloatArith.eq left.score right.score then left.edgeID ≤ right.edgeID
  else FloatArith.lt right.score left.score = true

instance : DecidableRel (RankedBefore (F := F)) := fun left right =>
  inferInstanceAs (Decidable (if FloatArith.eq left.score right.score then
    left.edgeID ≤ right.edgeID else FloatArith.lt right.score left.score = true))

def buildValidState (tx : RoundInputTx F) (validEdges : List String) :
    ConsensusedValidState F where
  sourceEdges := Slice.appendToNil (some validEdges)
  sensorValues := some <| Finmap.insertAll id
    (fun sensorName => round
      (total (validEdges.map fun edgeID => ((stateOf tx edgeID).sensor sensorName).value) /
        FloatArith.ofNat validEdges.length))
    (sensorScales (F := F)).sortedKeys ∅

section Round

variable (tx : RoundInputTx F) (pairwise : Finmap fun _ : String => F)

def trustRanking : List (TrustRankEntry F) :=
  (tx.participatingEdges.elems.map fun edgeID =>
    { edgeID, score := score tx pairwise edgeID }).insertionSort RankedBefore

def exclusions : List ExclusionDecision :=
  (tx.participatingEdges.elems.filterMap (exclusion tx pairwise)).insertionSort
    (·.edgeID ≤ ·.edgeID)

def validEdges : List String :=
  (tx.participatingEdges.elems.filter
    (· ∉ (exclusions tx pairwise).map (·.edgeID))).insertionSort (· ≤ ·)

/-- What `evaluateRound` returns once the pairwise distances are known. -/
def committedRound (height : Int) : CommittedRound F where
  roundID := tx.roundID
  windowStartedAt := tx.windowStartedAt
  windowEndedAt := tx.windowEndedAt
  participatingEdges := tx.participatingEdges.appendToNil
  replicatedStates := tx.replicatedStates.appendToNil
  trustRanking := some (trustRanking tx pairwise)
  exclusions := some (exclusions tx pairwise)
  trustEvidence := some <|
    (tx.participatingEdges.elems.map (trustEvidence tx pairwise)).insertionSort
      (·.edgeID ≤ ·.edgeID)
  finalStatus :=
    if quorum tx ≤ (validEdges tx pairwise).length then .success else .failedConsensus
  consensusedValidState :=
    if quorum tx ≤ (validEdges tx pairwise).length then
      some (buildValidState tx (validEdges tx pairwise))
    else none
  commitHeight := height

end Round

def evaluateRound (tx : RoundInputTx F) (height : Int) : Except String (CommittedRound F) := do
  let pairwise ← pairwiseDistances tx
  pure (committedRound tx pairwise height)

end TruthFingerprint.Abci
