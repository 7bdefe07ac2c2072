import Mathlib
import TruthFingerprint.Consensus.TrustModel

/-!
# The consensus engine

`evaluate` averages the states whose owner is not excluded, when they reach the quorum of the
participating edges.
-/

namespace TruthFingerprint.Consensus

variable {F : Type} [PyArith F]

/-- The strict majority quorum. -/
def requiredQuorum (participantCount : Nat) : Except PyError Nat :=
  if participantCount ≤ 0 then .error (.valueError "Participant count must be positive.")
  else .ok (participantCount / 2 + 1)

/-- The average of one sensor over the valid states. -/
def averageValue (validStates : List (EdgeLocalReplicatedState F)) (sensorName : String) :
    Except PyError F := do
  let values ← validStates.mapM (sensorValue · sensorName)
  let average ← mean values
  pure (PyArith.round3 average)

def buildConsensusedValidState (roundIdentity : RoundIdentity)
    (validStates : List (EdgeLocalReplicatedState F)) :
    Except PyError (ConsensusedValidState F) := do
  let sensorValues ←
    Finmap.insertAllM id (averageValue validStates) ["temperature", "pressure", "rpm"] ∅
  pure { roundIdentity, sourceEdges := validStates.map (·.ownerEdgeID), sensorValues }

/-- The valid state and the status, for the states that are left. -/
def conclude (roundIdentity : RoundIdentity) (quorum : Nat)
    (validStates : List (EdgeLocalReplicatedState F)) :
    Except PyError (Option (ConsensusedValidState F) × ConsensusStatus) :=
  if quorum ≤ validStates.length then do
    let validState ← buildConsensusedValidState roundIdentity validStates
    pure (some validState, .success)
  else pure (none, .failedConsensus)

def evaluate [DecidableEq F] (roundInput : ConsensusRoundInput F) :
    Except PyError (ConsensusAuditPackage F) := do
  let (trustRanking, exclusions, trustEvidence) ← evaluateTrust roundInput.roundIdentity
    roundInput.participatingEdges roundInput.replicatedStates
  let excludedEdges := exclusions.map (·.edgeID)
  let validStates := roundInput.replicatedStates.filter (·.ownerEdgeID ∉ excludedEdges)
  let quorum ← requiredQuorum roundInput.participatingEdges.length
  let (consensusedValidState, status) ← conclude roundInput.roundIdentity quorum validStates
  let consensusResult : ConsensusResult F :=
    { roundIdentity := roundInput.roundIdentity
      status, participatingEdges := roundInput.participatingEdges, trustRanking, exclusions
      consensusedValidState }
  consensusResult.postInit
  let package : ConsensusAuditPackage F :=
    { roundInput, trustRanking, exclusions, trustEvidence, finalStatus := status, consensusResult
      consensusedValidState }
  package.postInit
  pure package

end TruthFingerprint.Consensus
