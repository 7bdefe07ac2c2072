import Mathlib
import TruthFingerprint.Lstm.Lifecycle
import TruthFingerprint.Persistence.Service
import TruthFingerprint.ScenarioControl.Runtime

/-!
# Cycles of the demo

A cycle resolves its scenario, commits a round, configures the SCADA side, compares, persists and
runs the fingerprint pipeline. The committed round is given, or what was raised before it; the
pipeline saves datasets and models.
-/

namespace TruthFingerprint.Demo

open Consensus (ConsensusStatus PyError)
open Lstm (ArtifactStore DatasetContext Numerics StoredArtifact TrainingDatasetManifest
  TrainingWindow)
open Persistence (AuditPackage)
open Scada (ScadaReplayRuntimeStage Sensor)
open ScenarioControl (RuntimeConfig RuntimeScenarioControlStage)

def modeText : Scada.ScadaMode → String
  | .none => "none"
  | .matching => "match"
  | .offset => "offset"
  | .freeze => "freeze"
  | .replay => "replay"
  | .other name => name

def datasetContextOf (scenarioLabel trainingLabel : String) (trainingEligible : Bool)
    (trainingEligibilityReason : String) : DatasetContext :=
  ⟨text scenarioLabel, text trainingLabel, trainingEligible, text trainingEligibilityReason⟩

/-- `build_dataset_context` for a cycle with both stages -/
def buildDatasetContext (faultMode : String) (divergentSensors : List Sensor)
    (scenarioControlStage : RuntimeScenarioControlStage)
    (scadaReplayStage : ScadaReplayRuntimeStage) : DatasetContext :=
  let ofStage := datasetContextOf scenarioControlStage.scenarioLabel
    scenarioControlStage.trainingLabel scenarioControlStage.trainingEligible
    scenarioControlStage.trainingEligibilityReason
  let scada := "scada_" ++ modeText scadaReplayStage.mode
  if !scenarioControlStage.trainingEligible then ofStage
  else if scadaReplayStage.active then datasetContextOf scada "non_normal" false scada
  else if divergentSensors ≠ [] then
    datasetContextOf "scada_divergence" "non_normal" false "scada_divergence"
  else if faultMode = "none" then ofStage
  else if faultMode = "single_edge_exclusion" then
    datasetContextOf "faulty_edge_exclusion" "non_normal" false "faulty_edge_exclusion"
  else datasetContextOf faultMode "non_normal" false ("scenario:" ++ faultMode)

/-! ## Comparison and persistence -/

inductive PersistenceStage (F : Type) where
  | persisted (stored : StoredArtifact F)
  | blocked (blockedByStage : String)
  | error

variable {F A : Type} [Scada.BehavioralArith F]

structure DemoState (F A : Type) where
  service : Scada.Service F
  store : ArtifactStore F A

/-- What the comparison and the persistence of a cycle have found -/
structure Validation (F : Type) where
  divergentSensors : List Sensor
  persistenceStage : PersistenceStage F

omit [Scada.BehavioralArith F] in
/-- The persistence of a cycle without a divergent sensor -/
def persistStage (store : ArtifactStore F A) (audit : AuditPackage F)
    (comparison : Comparison.ScadaComparisonOutput F) (datasetContext : DatasetContext)
    (storeAccepts : Bool) : ArtifactStore F A × PersistenceStage F :=
  match Persistence.persistValidConsensusArtifact audit comparison datasetContext with
  | .ok stored =>
    if storeAccepts then (store.save stored.1 (.artifact stored.2), .persisted stored)
    else (store, .error)
  | .error (.blocked _) => (store, .blocked "persistence")
  | .error (.raised _) => (store, .error)

/-- `run_scada_comparison_and_persistence` -/
def runScadaComparisonAndPersistence (state : DemoState F A) (audit : AuditPackage F)
    (faultMode : String) (scenarioControlStage : RuntimeScenarioControlStage)
    (scadaReplayStage : ScadaReplayRuntimeStage) (storeAccepts : Bool) :
    DemoState F A × Except PyError (Validation F) :=
  match audit.consensusedValidState with
  | none => (state, .ok ⟨[], .blocked "consensus"⟩)
  | some validState =>
    match Persistence.selectSourceState audit validState.sourceEdges with
    | none => (state, .error (.valueError ("SCADA projection could not find a validated source " ++
        "edge view inside the current round input.")))
    | some source =>
      match state.service.updateFromConsensusedState validState
          (some fun sensor => source.observationsBySensor.lookup sensor.name) with
      | .error error => (state, .error error)
      | .ok (scadaState, service) =>
        match Comparison.compareConsensusedToScada validState scadaState with
        | .error error => ({ state with service }, .error error)
        | .ok comparison =>
          let divergentSensors := comparison.divergentSensors
          if divergentSensors ≠ [] then
            ({ state with service }, .ok ⟨divergentSensors, .blocked "scada_comparison"⟩)
          else
            let (store, stage) := persistStage state.store audit comparison
              (buildDatasetContext faultMode divergentSensors scenarioControlStage
                scadaReplayStage) storeAccepts
            (⟨service, store⟩, .ok ⟨divergentSensors, stage⟩)

/-! ## Cycles -/

/-- What a cycle is given: its index and configuration, the audit package of its committed round
unless something has raised before, the time, whether the store accepts an artifact, and the dataset
that the replay detection persists, if any. -/
structure CycleInput (F : Type) where
  cycleIndex : Int
  config : RuntimeConfig F
  audit : Except PyError (AuditPackage F)
  now : Text
  storeAccepts : Bool
  replayDataset : Option (List (TrainingWindow F) × TrainingDatasetManifest)

/-- What a cycle has done before the fingerprint pipeline, and whether it returns -/
structure CycleResult (F : Type) where
  cycleConfig : RuntimeConfig F
  finalStatus : ConsensusStatus
  validation : Validation F
  returns : Bool

def lifecycleOf (numerics : Numerics F A) (config : RuntimeConfig F) : Lstm.LifecycleConfig F A :=
  ⟨numerics, config.demoFingerprintSequenceLength, config.demoTrainAfterEligibleCycles⟩

/-- `execute_fingerprint_pipeline_for_cycle`: the store that it leaves, and whether it returns. What
the lifecycle and the replay detection raise is caught. -/
def executeFingerprintPipeline (numerics : Numerics F A) (store : ArtifactStore F A)
    (input : CycleInput F) (persisted : Bool) : ArtifactStore F A × Bool :=
  let lifecycle := lifecycleOf numerics input.config
  if !persisted || input.config.demoDisableRuntimeAutoencoder then
    (store, (lifecycle.trainingDataset store).isSome)
  else
    let call := lifecycle.executeDeferredFingerprintLifecycle store input.cycleIndex input.now
    match call.stage, input.replayDataset with
    | some _, some dataset =>
      ((Lstm.persistTrainingDatasetArtifacts numerics call.store dataset input.now
        Lstm.datasetPrefix).1, true)
    | _, _ => (call.store, true)

omit [Scada.BehavioralArith F] in
def PersistenceStage.stored : PersistenceStage F → Option (StoredArtifact F)
  | .persisted stored => some stored
  | _ => none

/-- `execute_demo_cycle` -/
def executeDemoCycle (numerics : Numerics F A) (state : DemoState F A) (input : CycleInput F) :
    DemoState F A × Except PyError (CycleResult F) :=
  match ScenarioControl.resolveRuntimeScenarioControlStage input.config input.cycleIndex with
  | .error error => (state, .error error)
  | .ok scenarioControlStage =>
    let cycleConfig :=
      ScenarioControl.applyRuntimeScenarioControl input.config scenarioControlStage
    match input.audit with
    | .error error => (state, .error error)
    | .ok audit =>
      let (scadaReplayStage, service) := Scada.configureScadaReplayRuntimeStage state.service
        cycleConfig.scada input.cycleIndex
      match runScadaComparisonAndPersistence { state with service } audit
          cycleConfig.demoFaultMode scenarioControlStage scadaReplayStage input.storeAccepts with
      | (state, .error error) => (state, .error error)
      | (state, .ok validation) =>
        let (store, returns) := executeFingerprintPipeline numerics state.store input
          validation.persistenceStage.stored.isSome
        ({ state with store },
          .ok ⟨cycleConfig, audit.finalStatus, validation, returns⟩)

/-- The cycles of a run, one after the other, whether they raise or not. -/
def runDemo (numerics : Numerics F A) (state : DemoState F A) :
    List (CycleInput F) → DemoState F A × List (Except PyError (CycleResult F))
  | [] => (state, [])
  | input :: inputs =>
    let (state, result) := executeDemoCycle numerics state input
    let (state, results) := runDemo numerics state inputs
    (state, result :: results)

end TruthFingerprint.Demo
