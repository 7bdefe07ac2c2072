import Mathlib
import TruthFingerprint.Lstm.DatasetArtifacts

/-!
# The deferred fingerprint lifecycle

A call defers, trains or reuses. Without a model it defers until the eligible history reaches the
threshold, and then trains on the dataset that it has persisted. With a model it persists the
training dataset again, persists the evaluation dataset and runs the inference, which loads the
dataset that the metadata of the model names.
-/

namespace TruthFingerprint.Lstm

variable {F A : Type}

def runtimeValidLimitationNote : Text :=
  text "The fingerprint pipeline is running correctly on a runtime-valid but not yet " ++
    text "meaningfully fingerprint-valid dataset because the current normal-history data " ++
    text "still falls below the approved adequacy floor of 30 eligible artifacts and " ++
    text "20 generated windows."

def limitationNoteOf (validationLevel : Text) : Option Text :=
  if validationLevel = meaningful then none else some runtimeValidLimitationNote

/-! ## Training -/

def modelPrefix : Text := text "fingerprint-models/"

/-- `replace("::", "-")` -/
def replaceColons : Text → Text
  | c :: d :: rest =>
    if c = ':'.codePoint ∧ d = ':'.codePoint then '-'.codePoint :: replaceColons rest
    else c :: replaceColons (d :: rest)
  | rest => rest

/-- `_build_model_id`: without colons, the time has no `+00:00` left to replace. -/
def buildModelId (datasetId createdAt : Text) : Text :=
  text "lstm-fingerprint-" ++ replaceColons datasetId ++ text "-" ++
    createdAt.filter fun c => c ∉ text "-:."

def metadataKey (modelId : Text) : Text := modelPrefix ++ modelId ++ text ".json"

def weightsKey (modelId : Text) : Text := modelPrefix ++ modelId ++ text ".keras"

/-- The windows have one schema and one length, and rows of the width of the schema. -/
def uniformWindows (schema : List Text) (sequenceLength : Nat) (windows : List (TrainingWindow F)) :
    Bool :=
  windows.all fun window => window.featureSchema = schema &&
    window.featureMatrix.length = sequenceLength &&
    window.featureMatrix.all fun row => row.length = schema.length

/-- `train_and_save_lstm_fingerprint_from_persisted_dataset`: the store that it leaves, and, unless
it raises, the metadata and the windows that it has trained on. -/
def trainAndSaveFromPersistedDataset (numerics : Numerics F A) (store : ArtifactStore F A)
    (manifestObjectKey createdAt : Text) :
    ArtifactStore F A × Option (FingerprintModelArtifact × List (TrainingWindow F)) :=
  match loadPersistedTrainingDatasetArtifacts numerics store manifestObjectKey with
  | none => (store, none)
  | some ([], _) => (store, none)
  | some (first :: rest, manifest) =>
    if !uniformWindows first.featureSchema first.featureMatrix.length (first :: rest) then
      (store, none)
    else match numerics.fit (first :: rest) with
      | none => (store, none)
      | some weights =>
        let modelId := buildModelId manifest.datasetId createdAt
        let metadata : FingerprintModelArtifact :=
          { modelId := modelId
            createdAt := createdAt
            sourceDatasetId := manifest.datasetId
            featureSchema := first.featureSchema
            sequenceLength := first.featureMatrix.length
            trainingWindowCount := (first :: rest).length
            modelObjectKey := weightsKey modelId
            metadataObjectKey := metadataKey modelId }
        ((store.save (weightsKey modelId) (.weights weights)).save (metadataKey modelId)
          (.metadata metadata), some (metadata, first :: rest))

/-! ## Inference -/

inductive FingerprintInferenceClassification where
  | normal
  | anomalous
deriving DecidableEq

structure FingerprintInferenceResult (F : Type) where
  modelId : Text
  sourceDatasetId : Text
  inferenceDatasetId : Text
  sourceDatasetValidationLevel : Text
  limitationNote : Option Text
  windowId : Text
  artifactKeys : List Text
  roundIds : List Text
  timestamps : List Text
  anomalyScore : F
  classificationThreshold : F
  classification : FingerprintInferenceClassification

/-- `_validate_model_compatibility` -/
def compatible (metadata : FingerprintModelArtifact) (source : PersistedTrainingDatasetArtifact)
    (inference : TrainingDatasetManifest) : Bool :=
  source.featureSchema = metadata.featureSchema &&
    source.sequenceLength = metadata.sequenceLength &&
    inference.featureSchema = metadata.featureSchema &&
    inference.sequenceLength = metadata.sequenceLength

/-- The source windows that an inference has loaded, and its results, unless it has raised. -/
structure Inference (F : Type) where
  source : Option (List (TrainingWindow F))
  results : Option (List (FingerprintInferenceResult F))

variable [FloatArith F]

def inferenceResults (numerics : Numerics F A) (store : ArtifactStore F A)
    (metadata : FingerprintModelArtifact) (source : PersistedTrainingDatasetArtifact)
    (sourceWindows : List (TrainingWindow F))
    (inference : List (TrainingWindow F) × TrainingDatasetManifest) :
    Option (List (FingerprintInferenceResult F)) :=
  if !compatible metadata source inference.2 then none
  else match store.load metadata.modelObjectKey with
    | some (.weights weights) => do
      let baseline ← numerics.reconstructionErrors weights sourceWindows
      let errors ← numerics.reconstructionErrors weights inference.1
      let threshold := numerics.anomalyThreshold baseline
      some ((inference.1.zip errors).map fun scored =>
        { modelId := metadata.modelId
          sourceDatasetId := metadata.sourceDatasetId
          inferenceDatasetId := inference.2.datasetId
          sourceDatasetValidationLevel := source.adequacyAssessment.validationLevel
          limitationNote := limitationNoteOf source.adequacyAssessment.validationLevel
          windowId := scored.1.windowId
          artifactKeys := scored.1.artifactKeys
          roundIds := scored.1.roundIds
          timestamps := scored.1.timestamps
          anomalyScore := scored.2
          classificationThreshold := threshold
          classification := if FloatArith.le scored.2 threshold then .normal else .anomalous })
    | _ => none

/-- `run_lstm_fingerprint_inference_from_persisted_dataset` -/
def runInferenceFromPersistedDataset (numerics : Numerics F A) (store : ArtifactStore F A)
    (modelMetadataObjectKey inferenceManifestObjectKey : Text) : Inference F :=
  match store.load modelMetadataObjectKey with
  | some (.metadata metadata) =>
    let sourceKey := manifestKey datasetPrefix metadata.sourceDatasetId
    match store.load sourceKey, loadPersistedTrainingDatasetArtifacts numerics store sourceKey with
    | some (.dataset source), some (sourceWindows, _) =>
      match loadPersistedTrainingDatasetArtifacts numerics store inferenceManifestObjectKey with
      | none => ⟨some sourceWindows, none⟩
      | some inference =>
        ⟨some sourceWindows,
          inferenceResults numerics store metadata source sourceWindows inference⟩
    | _, _ => ⟨none, none⟩
  | _ => ⟨none, none⟩

/-! ## Calls -/

structure FingerprintLifecycleStage where
  cycleIndex : Int
  validArtifactCount : Nat
  eligibleHistoryCount : Nat
  eligibleHistoryThreshold : Int
  windowCount : Nat
  latestValidArtifactKey : Option Text
  modelStatus : Text
  trainingEvents : List Text
  inferenceStatus : Text
  inferenceResultCount : Nat
  datasetManifestObjectKey : Option Text
  modelMetadataObjectKey : Option Text
  sourceDatasetValidationLevel : Option Text
  limitationNote : Option Text

/-- What a call has done: the store that it leaves, the stage that it returns unless it raises, the
windows that it has trained on and the inference that it has run. -/
structure Call (F A : Type) where
  store : ArtifactStore F A
  stage : Option FingerprintLifecycleStage
  trainedOn : Option (List (TrainingWindow F))
  inference : Option (Inference F)

/-- The arguments that a sequence of calls keeps, and `numpy` and `keras` -/
structure LifecycleConfig (F A : Type) where
  numerics : Numerics F A
  sequenceLength : Int
  trainAfterEligibleCycles : Int

namespace LifecycleConfig

variable (config : LifecycleConfig F A) (store : ArtifactStore F A) (cycleIndex : Int)

omit [FloatArith F] in
def latestModelMetadataKey : Option Text := (store.listJsonObjects modelPrefix).getLast?

omit [FloatArith F] in
/-- The fields that every stage has -/
def stageOf (manifest : TrainingDatasetManifest)
    (modelStatus trainingEvent inferenceStatus : Text) : FingerprintLifecycleStage where
  cycleIndex := cycleIndex
  validArtifactCount := (store.listJsonObjects validArtifactPrefix).length
  eligibleHistoryCount := manifest.eligibleRecordCount
  eligibleHistoryThreshold := config.trainAfterEligibleCycles
  windowCount := manifest.windowCount
  latestValidArtifactKey := (store.listJsonObjects validArtifactPrefix).getLast?
  modelStatus := modelStatus
  trainingEvents := [trainingEvent]
  inferenceStatus := inferenceStatus
  inferenceResultCount := 0
  datasetManifestObjectKey := none
  modelMetadataObjectKey := none
  sourceDatasetValidationLevel := none
  limitationNote := none

omit [FloatArith F] in
def deferredCall (manifest : TrainingDatasetManifest) : Call F A :=
  ⟨store, some { config.stageOf store cycleIndex manifest (text "no_model_yet") (text "deferred")
      (text "skipped_no_model") with limitationNote := some runtimeValidLimitationNote },
    none, none⟩

omit [FloatArith F] in
def trainingCall (now : Text) (training : List (TrainingWindow F) × TrainingDatasetManifest) :
    Call F A :=
  match persistTrainingDatasetArtifacts config.numerics store training now datasetPrefix with
  | (store₁, none) => ⟨store₁, none, none, none⟩
  | (store₁, some persisted) =>
    match trainAndSaveFromPersistedDataset config.numerics store₁ persisted.manifestObjectKey
        now with
    | (store₂, none) => ⟨store₂, none, none, none⟩
    | (store₂, some (metadata, windows)) =>
      let validationLevel := persisted.adequacyAssessment.validationLevel
      ⟨store₂, some { config.stageOf store cycleIndex training.2 (text "model_available")
          (text "started") (text "skipped_until_next_cycle") with
            trainingEvents := [text "started", text "completed"]
            datasetManifestObjectKey := some persisted.manifestObjectKey
            modelMetadataObjectKey := some metadata.metadataObjectKey
            sourceDatasetValidationLevel := some validationLevel
            limitationNote := limitationNoteOf validationLevel },
        some windows, none⟩

/-- The inference of a call, once both datasets are persisted -/
def inferenceCall (store₂ : ArtifactStore F A) (modelKey : Text)
    (training : List (TrainingWindow F) × TrainingDatasetManifest)
    (evaluation : PersistedTrainingDatasetArtifact) : Call F A :=
  let inference := runInferenceFromPersistedDataset config.numerics store₂ modelKey
    evaluation.manifestObjectKey
  ⟨store₂, inference.results.map fun results =>
      { config.stageOf store cycleIndex training.2 (text "model_available") (text "reused")
          (text "completed") with
        inferenceResultCount := results.length
        datasetManifestObjectKey := some evaluation.manifestObjectKey
        modelMetadataObjectKey := some modelKey
        sourceDatasetValidationLevel := results.head?.map (·.sourceDatasetValidationLevel)
        limitationNote := results.head?.bind (·.limitationNote) },
    none, some inference⟩

def reusingCall (now modelKey : Text)
    (training : List (TrainingWindow F) × TrainingDatasetManifest) : Call F A :=
  match persistTrainingDatasetArtifacts config.numerics store training now datasetPrefix with
  | (store₁, none) => ⟨store₁, none, none, none⟩
  | (store₁, some persisted) =>
    match store₁.validArtifacts with
    | none => ⟨store₁, none, none, none⟩
    | some artifacts =>
      let evaluation := buildEvaluationWindows store₁.bucket config.sequenceLength.toNat artifacts
      match persistTrainingDatasetArtifacts config.numerics store₁ evaluation now
          (datasetPrefix ++ text "evaluation/") with
      | (store₂, none) => ⟨store₂, none, none, none⟩
      | (store₂, some persistedEvaluation) =>
        if evaluation.1.isEmpty then
          let validationLevel := persisted.adequacyAssessment.validationLevel
          ⟨store₂, some { config.stageOf store cycleIndex training.2 (text "model_available")
              (text "reused") (text "skipped_no_windows") with
                datasetManifestObjectKey := some persistedEvaluation.manifestObjectKey
                modelMetadataObjectKey := some modelKey
                sourceDatasetValidationLevel := some validationLevel
                limitationNote := limitationNoteOf validationLevel },
            none, none⟩
        else config.inferenceCall store cycleIndex store₂ modelKey training persistedEvaluation

/-- The training dataset of a store, unless it cannot be built. -/
def trainingDataset : Option (List (TrainingWindow F) × TrainingDatasetManifest) :=
  if config.sequenceLength ≤ 0 then none
  else store.validArtifacts.map
    (buildNormalTrainingWindows store.bucket config.sequenceLength.toNat)

/-- The eligible history reaches the threshold and has a window. -/
def reaches (manifest : TrainingDatasetManifest) : Bool :=
  config.trainAfterEligibleCycles ≤ manifest.eligibleRecordCount && manifest.windowCount ≠ 0

/-- `execute_deferred_fingerprint_lifecycle` -/
def executeDeferredFingerprintLifecycle (now : Text) : Call F A :=
  match config.trainingDataset store with
  | none => ⟨store, none, none, none⟩
  | some training =>
    match latestModelMetadataKey store with
    | none =>
      if !config.reaches training.2 then config.deferredCall store cycleIndex training.2
      else config.trainingCall store cycleIndex now training
    | some modelKey => config.reusingCall store cycleIndex now modelKey training

end LifecycleConfig

end TruthFingerprint.Lstm
