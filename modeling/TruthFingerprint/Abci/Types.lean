import Mathlib
import TruthFingerprint.Arith
import TruthFingerprint.Lib.FinmapLoops

/-!
# Data of the consensus application

The records of `types.go`, over the type `F` of their numbers. A Go slice or map that is nil is
`none`: the state file distinguishes it from one that is empty. Reading treats the two alike
(`Slice.elems`, `GoMap.lookup`). The texts that the application writes as a final status and as an
exclusion reason are enumerations.
-/

namespace TruthFingerprint.Abci

/-- A Go slice: nil, or the elements. -/
abbrev Slice (α : Type) := Option (List α)

/-- The elements that a loop over the slice sees. -/
def Slice.elems (s : Slice α) : List α := s.getD []

/-- `append([]T(nil), s...)`: an empty slice becomes nil. -/
def Slice.appendToNil (s : Slice α) : Slice α := if s.elems = [] then none else some s.elems

@[simp] theorem Slice.elems_some (l : List α) : Slice.elems (some l) = l := rfl

@[simp] theorem Slice.elems_none : Slice.elems (none : Slice α) = [] := rfl

@[simp] theorem Slice.elems_appendToNil (s : Slice α) : s.appendToNil.elems = s.elems := by
  rw [Slice.appendToNil]
  split
  · rename_i h
    rw [h, Slice.elems_none]
  · rfl

/-- A Go map with string keys: nil, or the entries. -/
abbrev GoMap (V : Type) := Option (Finmap fun _ : String => V)

def GoMap.lookup (m : GoMap V) (key : String) : Option V := m.bind (·.lookup key)

/-- The keys of a loop over the map, once they are sorted. -/
def GoMap.sortedKeys (m : GoMap V) : List String := (m.map Finmap.sortedKeys).getD []

structure SensorValue (F : Type) where
  value : F
  unit : String
deriving DecidableEq

structure ReplicatedState (F : Type) where
  ownerEdgeID : String
  sensorValues : GoMap (SensorValue F)
deriving DecidableEq

structure RoundInputTx (F : Type) where
  roundID : String
  windowStartedAt : String
  windowEndedAt : String
  participatingEdges : Slice String
  replicatedStates : Slice (ReplicatedState F)
deriving DecidableEq

structure TrustRankEntry (F : Type) where
  edgeID : String
  score : F
deriving DecidableEq

inductive ExclusionReason where
  | inconsistentView
  | suspectedByzantine
deriving DecidableEq

def ExclusionReason.text : ExclusionReason → String
  | .inconsistentView => "inconsistent_view"
  | .suspectedByzantine => "suspected_byzantine_behavior"

structure ExclusionDecision where
  edgeID : String
  reason : ExclusionReason
  detail : String
deriving DecidableEq

structure SensorDeviationEvidence (F : Type) where
  sensorName : String
  deviationValue : F
  unit : String
deriving DecidableEq

structure PairwiseDistanceEvidence (F : Type) where
  peerEdgeID : String
  sensorName : String
  distanceValue : F
  unit : String
deriving DecidableEq

structure PerEdgeTrustEvidence (F : Type) where
  edgeID : String
  score : F
  compatiblePeerCount : Nat
  overallNormalizedDeviation : F
  sensorDeviations : Slice (SensorDeviationEvidence F)
  pairwiseDistances : Slice (PairwiseDistanceEvidence F)
deriving DecidableEq

structure ConsensusedValidState (F : Type) where
  sourceEdges : Slice String
  sensorValues : GoMap F
deriving DecidableEq

inductive FinalStatus where
  | success
  | failedConsensus
deriving DecidableEq

def FinalStatus.text : FinalStatus → String
  | .success => "success"
  | .failedConsensus => "failed_consensus"

structure CommittedRound (F : Type) where
  roundID : String
  windowStartedAt : String
  windowEndedAt : String
  participatingEdges : Slice String
  replicatedStates : Slice (ReplicatedState F)
  trustRanking : Slice (TrustRankEntry F)
  exclusions : Slice ExclusionDecision
  trustEvidence : Slice (PerEdgeTrustEvidence F)
  finalStatus : FinalStatus
  consensusedValidState : Option (ConsensusedValidState F)
  commitHeight : Int
deriving DecidableEq

/-- The committed rounds, by round id. -/
abbrev Rounds (F : Type) := Finmap fun _ : String => CommittedRound F

structure PersistedState (F : Type) where
  lastBlockHeight : Int
  lastAppHash : Slice UInt8
  rounds : GoMap (CommittedRound F)
deriving DecidableEq

end TruthFingerprint.Abci
