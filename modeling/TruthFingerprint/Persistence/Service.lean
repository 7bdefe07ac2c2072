import Mathlib
import TruthFingerprint.Comparison.Service
import TruthFingerprint.Lstm.DatasetBuilder

/-!
# Persistence of valid artifacts

A round is persisted if its consensus succeeded, under a key that is its identifier. The artifact
keeps the view of the first source edge, and the label that it is given.
-/

namespace TruthFingerprint.Persistence

open Consensus (ConsensusStatus ConsensusedValidState PyError RoundIdentity)
open Lstm (DatasetContext LoopPayload StoredArtifact ValidArtifact)
open Scada (SourcePayload)

variable {F : Type}

/-- The view of an edge, with what later stages read of its payloads -/
structure ReplicatedState (F : Type) where
  ownerEdgeId : String
  observationsBySensor : AList fun _ : String => SourcePayload F

/-- What a cycle reads of an audit package -/
structure AuditPackage (F : Type) where
  /-- The identity of the round input -/
  roundIdentity : RoundIdentity
  replicatedStates : List (ReplicatedState F)
  finalStatus : ConsensusStatus
  consensusedValidState : Option (ConsensusedValidState F)

inductive PersistenceError where
  /-- `PersistenceBlockedError` -/
  | blocked (message : String)
  | raised (error : PyError)

/-- The first view of a source edge -/
def selectSourceState (audit : AuditPackage F) (sourceEdges : List String) :
    Option (ReplicatedState F) :=
  audit.replicatedStates.find? fun state => state.ownerEdgeId ∈ sourceEdges

/-- `_build_validated_payload_snapshot`, and of each payload what the datasets read. The process
value of a payload is replaced, so there has to be one for its sensor. -/
def buildValidatedPayloadSnapshot (audit : AuditPackage F) (validState : ConsensusedValidState F) :
    Except PersistenceError (List (Text × LoopPayload F)) :=
  match selectSourceState audit validState.sourceEdges with
  | none => .error (.blocked
      "Validated payload snapshot could not find a source edge view inside the round input.")
  | some state =>
    (state.observationsBySensor.entries.insertionSort (·.1 ≤ ·.1)).mapM fun observation =>
      match validState.sensorValues.lookup observation.1 with
      | none => .error (.raised (.keyError [observation.1]))
      | some _ => .ok (text observation.1,
          { loopCurrentMa := observation.2.loopCurrentMa
            fieldDeviceMalfunction := observation.2.fieldDeviceMalfunction
            loopCurrentSaturated := observation.2.loopCurrentSaturated
            coldStart := observation.2.coldStart })

def artifactKey (roundId : String) : Text :=
  Lstm.validArtifactPrefix ++ text roundId ++ text ".json"

/-- `persist_valid_consensus_artifact`: the artifact that is saved, with its key -/
def persistValidConsensusArtifact (audit : AuditPackage F)
    (comparison : Comparison.ScadaComparisonOutput F) (datasetContext : DatasetContext) :
    Except PersistenceError (StoredArtifact F) := do
  if audit.finalStatus ≠ .success then
    throw (.blocked "Valid artifact persistence is blocked because consensus did not succeed.")
  let some validState := audit.consensusedValidState
    | throw (.blocked
        "Valid artifact persistence is blocked because no consensused valid state exists.")
  if !audit.roundIdentity.eq comparison.roundIdentity then
    throw (.raised (.valueError "Persistence inputs must share the same round identity."))
  let payloadsBySensor ← buildValidatedPayloadSnapshot audit validState
  pure (artifactKey validState.roundIdentity.roundID,
    { finalConsensusStatus := text audit.finalStatus.text
      roundId := text validState.roundIdentity.roundID
      windowEndedAt := text validState.roundIdentity.windowEndedAt.isoformat
      datasetContext := some datasetContext
      hasScadaDivergence := !comparison.divergentSensors.isEmpty
      payloadsBySensor })

/-- What is persisted: the round of a success, under its key and its label. -/
theorem persist_eq_ok {audit : AuditPackage F} {comparison : Comparison.ScadaComparisonOutput F}
    {datasetContext : DatasetContext} {stored : StoredArtifact F}
    (h : persistValidConsensusArtifact audit comparison datasetContext = .ok stored) :
    audit.finalStatus = .success ∧ ∃ validState, audit.consensusedValidState = some validState ∧
      stored.1 = artifactKey validState.roundIdentity.roundID ∧
      stored.2.roundId = text validState.roundIdentity.roundID ∧
      stored.2.windowEndedAt = text validState.roundIdentity.windowEndedAt.isoformat ∧
      stored.2.finalConsensusStatus = text "success" ∧
      stored.2.datasetContext = some datasetContext ∧
      stored.2.hasScadaDivergence = !comparison.divergentSensors.isEmpty := by
  rw [persistValidConsensusArtifact] at h
  by_cases hstatus : audit.finalStatus = .success
  · cases hvalid : audit.consensusedValidState with
    | none =>
      rw [hvalid, if_neg (not_not.mpr hstatus)] at h
      cases h
    | some validState =>
      rw [hvalid, if_neg (not_not.mpr hstatus)] at h
      by_cases hround : audit.roundIdentity.eq comparison.roundIdentity
      · cases hsnapshot : buildValidatedPayloadSnapshot audit validState with
        | error error =>
          simp [hround, hsnapshot, Except.bind, bind] at h
        | ok payloads =>
          simp only [hround, hsnapshot, bind, Except.bind, pure, Except.pure, Bool.not_true,
            Bool.false_eq_true, if_false] at h
          refine ⟨hstatus, validState, rfl, ?_⟩
          generalize validState.roundIdentity.windowEndedAt.isoformat = windowEndedAt at h ⊢
          cases h
          exact ⟨rfl, rfl, rfl, by rw [hstatus]; rfl, rfl, rfl⟩
      · simp [hround, bind, Except.bind, throw, throwThe, MonadExceptOf.throw] at h
  · rw [if_pos hstatus] at h
    cases h

end TruthFingerprint.Persistence
