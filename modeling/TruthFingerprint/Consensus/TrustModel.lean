import Mathlib
import TruthFingerprint.Lib.FinmapLoops
import TruthFingerprint.Lib.Loops
import TruthFingerprint.Consensus.Contracts

/-!
# Trust evaluation

`evaluateTrust` compares the last state of every participating edge with those of its peers. It
raises a `KeyError` where a state or a sensor is missing, and a `ZeroDivisionError` for an edge
without a peer. The distances of an edge are collected first (`EdgeComparison`); its evidence and
its exclusion are functions of them.
-/

namespace TruthFingerprint.Consensus

variable {F : Type} [PyArith F]

/-- `SENSOR_SCALES`, in the order of the dictionary. -/
def sensorScales : List (String × F) := [("temperature", 20.0), ("pressure", 3.0), ("rpm", 600.0)]

def pairwiseConsistencyThreshold : F := 0.35
def suspectedByzantineThreshold : F := 0.75

/-- `d[key]` for what `d` holds under the key. -/
def getItem (found : Option V) (key : List String) : Except PyError V :=
  match found with
  | some value => .ok value
  | none => .error (.keyError key)

/-- `sum(values) / len(values)` -/
def mean (values : List F) : Except PyError F :=
  if values.length = 0 then .error .zeroDivisionError
  else .ok (PyArith.sum values / FloatArith.ofNat values.length)

/-- `x / y` of two floats -/
def divide (x y : F) : Except PyError F :=
  if FloatArith.eq y 0.0 then .error .zeroDivisionError else .ok (x / y)

/-- The states by owner; the last state of an owner counts. -/
def byEdge (replicatedStates : List (EdgeLocalReplicatedState F)) :
    Finmap fun _ : String => EdgeLocalReplicatedState F :=
  Finmap.insertAll EdgeLocalReplicatedState.ownerEdgeID id replicatedStates ∅

def sensorValue (state : EdgeLocalReplicatedState F) (sensorName : String) : Except PyError F := do
  let payload ← getItem (state.observationsBySensor.lookup sensorName) [sensorName]
  pure payload.value

/-! ## Distances -/

/-- One sensor of two states. -/
def normalizedDistance (left right : EdgeLocalReplicatedState F) (scale : String × F) :
    Except PyError F := do
  let leftValue ← sensorValue left scale.1
  let rightValue ← sensorValue right scale.1
  pure (FloatArith.abs (leftValue - rightValue) / scale.2)

def normalizedPairDistance (left right : EdgeLocalReplicatedState F) : Except PyError F := do
  let normalizedDistances ← sensorScales.mapM (normalizedDistance left right)
  mean normalizedDistances

section Compare

variable (states : Finmap fun _ : String => EdgeLocalReplicatedState F)

def pairDistance (pair : String × String) : Except PyError F := do
  let left ← getItem (states.lookup pair.1) [pair.1]
  let right ← getItem (states.lookup pair.2) [pair.2]
  normalizedPairDistance left right

def pairwiseDistances (participatingEdges : List String) :
    Except PyError (Finmap fun _ : String × String => F) :=
  Finmap.insertAllM id (pairDistance states) participatingEdges.orderedPairs ∅

/-- One sensor of an edge, compared with its peers. -/
structure SensorComparison (F : Type) where
  sensorName : String
  unit : String
  peerDistances : List (String × F)
  meanDistance : F

def peerDistance (sensorName : String) (payload : ProcessVariable F) (peerEdgeID : String) :
    Except PyError (String × F) := do
  let peerState ← getItem (states.lookup peerEdgeID) [peerEdgeID]
  let peerPayload ← getItem (peerState.observationsBySensor.lookup sensorName) [sensorName]
  pure (peerEdgeID, FloatArith.abs (payload.value - peerPayload.value))

def compareSensor (state : EdgeLocalReplicatedState F) (peerEdges : List String)
    (sensorName : String) : Except PyError (SensorComparison F) := do
  let payload ← getItem (state.observationsBySensor.lookup sensorName) [sensorName]
  let peerDistances ← peerEdges.mapM (peerDistance states sensorName payload)
  let meanDistance ← mean (peerDistances.map (·.2))
  pure { sensorName, unit := payload.unit, peerDistances, meanDistance }

/-- An edge, compared with its peers. `inverse` is the score before it is rounded. -/
structure EdgeComparison (F : Type) where
  edgeID : String
  sensors : List (SensorComparison F)
  pairDistances : List F
  meanDistance : F
  inverse : F

def compareEdge (participatingEdges : List String) (pairwise : Finmap fun _ : String × String => F)
    (edgeID : String) : Except PyError (EdgeComparison F) := do
  let state ← getItem (states.lookup edgeID) [edgeID]
  let peerEdges := participatingEdges.filter (· ≠ edgeID)
  let sensors ← (sensorScales (F := F)).mapM fun scale => compareSensor states state peerEdges scale.1
  let pairDistances ← peerEdges.mapM fun peerEdgeID =>
    getItem (pairwise.lookup (edgeID, peerEdgeID)) [edgeID, peerEdgeID]
  let meanDistance ← mean pairDistances
  let inverse ← divide 1.0 (1.0 + PyArith.round3 meanDistance)
  pure { edgeID, sensors, pairDistances, meanDistance, inverse }

end Compare

/-! ## Evidence and exclusions -/

def SensorComparison.deviation (sensor : SensorComparison F) : SensorDeviationEvidence F where
  sensorName := sensor.sensorName
  deviationValue := PyArith.round3 sensor.meanDistance
  unit := sensor.unit

def SensorComparison.pairwiseDistances (sensor : SensorComparison F) :
    List (PairwiseDistanceEvidence F) :=
  sensor.peerDistances.map fun peer =>
    { peerEdgeID := peer.1
      sensorName := sensor.sensorName
      distanceValue := PyArith.round3 peer.2
      unit := sensor.unit }

def deviationDetail (deviation : SensorDeviationEvidence F) : String :=
  let normalized := deviation.deviationValue / (sensorScales.lookup deviation.sensorName).getD 0.0
  deviation.sensorName ++ ":" ++ PyArith.format3 deviation.deviationValue ++ deviation.unit ++
    "(norm=" ++ PyArith.format3 normalized ++ ")"

namespace EdgeComparison

variable (edge : EdgeComparison F)

def compatiblePeerCount : Nat :=
  edge.pairDistances.countP (FloatArith.le · pairwiseConsistencyThreshold)

def overallNormalizedDeviation : F := PyArith.round3 edge.meanDistance

def score : F := PyArith.round3 edge.inverse

def sensorDeviations : List (SensorDeviationEvidence F) := edge.sensors.map (·.deviation)

def evidence (roundIdentity : RoundIdentity) : PerEdgeTrustEvidence F where
  roundIdentity := roundIdentity
  edgeID := edge.edgeID
  score := edge.score
  compatiblePeerCount := edge.compatiblePeerCount
  overallNormalizedDeviation := edge.overallNormalizedDeviation
  sensorDeviations := edge.sensorDeviations
  pairwiseDistances := edge.sensors.flatMap (·.pairwiseDistances)

def primaryReason : ExclusionReason :=
  if FloatArith.le suspectedByzantineThreshold edge.overallNormalizedDeviation then
    .suspectedByzantineBehavior
  else .inconsistentView

def detail : String :=
  "compatible_peers=" ++ toString edge.compatiblePeerCount ++ ", overall_normalized_deviation=" ++
    PyArith.format3 edge.overallNormalizedDeviation ++ ", " ++
    ", ".intercalate (edge.sensorDeviations.map deviationDetail)

/-- The decision on an edge, if it is excluded. -/
def exclusion (roundIdentity : RoundIdentity) (quorum : Nat) : Option ExclusionDecision :=
  if edge.compatiblePeerCount + 1 < quorum then
    some { roundIdentity, edgeID := edge.edgeID, reason := edge.primaryReason,
           detail := some edge.detail }
  else none

end EdgeComparison

def trustRanking (roundIdentity : RoundIdentity) (participatingEdges : List String)
    (edges : List (EdgeComparison F)) : TrustRanking F where
  roundIdentity := roundIdentity
  participatingEdges := participatingEdges
  entries := edges.map fun edge => { edgeID := edge.edgeID, score := edge.score }

def evaluateTrust (roundIdentity : RoundIdentity) (participatingEdges : List String)
    (replicatedStates : List (EdgeLocalReplicatedState F)) :
    Except PyError (TrustRanking F × List ExclusionDecision × List (PerEdgeTrustEvidence F)) := do
  let states := byEdge replicatedStates
  let pairwise ← pairwiseDistances states participatingEdges
  let quorum := participatingEdges.length / 2 + 1
  let edges ← participatingEdges.mapM (compareEdge states participatingEdges pairwise)
  let ranking := trustRanking roundIdentity participatingEdges edges
  ranking.postInit
  pure (ranking, edges.filterMap (·.exclusion roundIdentity quorum),
    edges.map (·.evidence roundIdentity))

end TruthFingerprint.Consensus
