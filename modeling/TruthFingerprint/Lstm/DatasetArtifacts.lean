import Mathlib
import TruthFingerprint.Lib.Bucket
import TruthFingerprint.Lstm.DatasetBuilder

/-!
# The artifact store and its datasets

A dataset is persisted as a manifest and an archive of its windows, under keys made of its
identifier. What `numpy` and `keras` do is a parameter: archives that are written and read, weights
that are fitted and errors that they leave.
-/

namespace TruthFingerprint.Lstm

variable {F A : Type}

/-! ## Persisted datasets -/

structure DatasetAdequacyAssessment where
  validationLevel : Text
  adequacyMet : Bool
  statusReason : Text
  minimumEligibleArtifactCount : Nat
  minimumWindowCount : Nat
  eligibleArtifactCount : Nat
  windowCount : Nat
  eligibleArtifactFloorMet : Bool
  windowFloorMet : Bool

def defaultMinEligibleArtifactCount : Nat := 30

def defaultMinWindowCount : Nat := 20

def meaningful : Text := text "meaningful_fingerprint_valid"

/-- `evaluate_training_dataset_adequacy` with the default floors -/
def evaluateTrainingDatasetAdequacy (eligibleArtifactCount windowCount : Nat) :
    DatasetAdequacyAssessment :=
  let eligibleArtifactFloorMet := defaultMinEligibleArtifactCount ≤ eligibleArtifactCount
  let windowFloorMet := defaultMinWindowCount ≤ windowCount
  let adequacyMet := eligibleArtifactFloorMet ∧ windowFloorMet
  { validationLevel := if adequacyMet then meaningful else text "runtime_valid_only"
    adequacyMet := adequacyMet
    statusReason :=
      if adequacyMet then text "adequacy_floor_met" else text "below_default_adequacy_floor"
    minimumEligibleArtifactCount := defaultMinEligibleArtifactCount
    minimumWindowCount := defaultMinWindowCount
    eligibleArtifactCount := eligibleArtifactCount
    windowCount := windowCount
    eligibleArtifactFloorMet := eligibleArtifactFloorMet
    windowFloorMet := windowFloorMet }

structure PersistedTrainingDatasetArtifact where
  datasetId : Text
  createdAt : Text
  sourceBucket : Text
  sourcePrefix : Text
  manifestObjectKey : Text
  windowsObjectKey : Text
  chronologicalOrderingRule : Text
  sequenceLength : Nat
  stride : Nat
  overlapBehavior : Text
  featureSchema : List Text
  selectedArtifactKeys : List Text
  skippedArtifacts : List (Text × Text)
  eligibleArtifactCount : Nat
  windowCount : Nat
  tensorShape : Nat × Nat × Nat
  trainingLabel : Text
  adequacyAssessment : DatasetAdequacyAssessment

/-- What later calls read of the metadata of a model -/
structure FingerprintModelArtifact where
  modelId : Text
  createdAt : Text
  sourceDatasetId : Text
  featureSchema : List Text
  sequenceLength : Nat
  trainingWindowCount : Nat
  modelObjectKey : Text
  metadataObjectKey : Text

/-! ## The store -/

/-- What is stored under a key: a JSON object of one of three kinds, an archive of windows, the
weights of a model, or something else. -/
inductive StoredObject (F A : Type) where
  | artifact (artifact : ValidArtifact F)
  | dataset (dataset : PersistedTrainingDatasetArtifact)
  | metadata (metadata : FingerprintModelArtifact)
  | archive (archive : A)
  | weights (weights : Bytes)
  | other

structure ArtifactStore (F A : Type) where
  bucket : Text
  objects : AList fun _ : Text => StoredObject F A

namespace ArtifactStore

def load (store : ArtifactStore F A) (key : Text) : Option (StoredObject F A) :=
  store.objects.lookup key

def save (store : ArtifactStore F A) (key : Text) (object : StoredObject F A) :
    ArtifactStore F A :=
  { store with objects := store.objects.insert key object }

/-- The key of a JSON object under a prefix -/
def isJsonKey (start key : Text) : Bool := start.isPrefixOf key && (text ".json").isSuffixOf key

def listJsonObjects (store : ArtifactStore F A) (start : Text) : List Text :=
  Bucket.listing store.objects (isJsonKey start)

def loadArtifact (store : ArtifactStore F A) (key : Text) : Option (StoredArtifact F) :=
  match store.load key with
  | some (.artifact artifact) => some (key, artifact)
  | _ => none

/-- All valid artifacts in the order of their keys, if nothing else is among them. -/
def validArtifacts (store : ArtifactStore F A) : Option (List (StoredArtifact F)) :=
  (store.listJsonObjects validArtifactPrefix).mapM store.loadArtifact

end ArtifactStore

/-! ## `numpy` and `keras` -/

/-- Archives, models and errors. Writing an archive fails for rows of different lengths. -/
structure Numerics (F A : Type) where
  savez : List (TrainingWindow F) → Nat → Nat → Option A
  loadArchive : A → List Text → Option (List (TrainingWindow F))
  fit : List (TrainingWindow F) → Option Bytes
  reconstructionErrors : Bytes → List (TrainingWindow F) → Option (List F)
  anomalyThreshold : List F → F

/-! ## Datasets in the store -/

def datasetPrefix : Text := text "fingerprint-datasets/"

def manifestKey (start datasetId : Text) : Text := start ++ datasetId ++ text ".manifest.json"

def windowsKey (start datasetId : Text) : Text := start ++ datasetId ++ text ".windows.npz"

def persistedArtifact (windows : List (TrainingWindow F)) (manifest : TrainingDatasetManifest)
    (createdAt start : Text) : PersistedTrainingDatasetArtifact where
  datasetId := manifest.datasetId
  createdAt := createdAt
  sourceBucket := manifest.sourceBucket
  sourcePrefix := manifest.sourcePrefix
  manifestObjectKey := manifestKey start manifest.datasetId
  windowsObjectKey := windowsKey start manifest.datasetId
  chronologicalOrderingRule := text "round_identity.window_ended_at_then_artifact_key"
  sequenceLength := manifest.sequenceLength
  stride := 1
  overlapBehavior :=
    if 1 < manifest.sequenceLength then text "sliding_stride_1" else text "non_overlapping"
  featureSchema := manifest.featureSchema
  selectedArtifactKeys := manifest.selectedArtifactKeys
  skippedArtifacts := manifest.skippedArtifacts
  eligibleArtifactCount := manifest.eligibleRecordCount
  windowCount := manifest.windowCount
  tensorShape := (windows.length, manifest.sequenceLength, manifest.featureSchema.length)
  trainingLabel := manifest.trainingLabel
  adequacyAssessment :=
    evaluateTrainingDatasetAdequacy manifest.eligibleRecordCount manifest.windowCount

/-- `_serialize_training_windows_npz` -/
def serializeTrainingWindows (numerics : Numerics F A) (windows : List (TrainingWindow F))
    (sequenceLength featureCount : Nat) : Option A :=
  match windows with
  | [] => numerics.savez [] sequenceLength featureCount
  | first :: _ => numerics.savez windows first.artifactKeys.length first.featureSchema.length

/-- `persist_training_dataset_artifacts`: the store that it leaves, and the persisted artifact
unless the archive cannot be written. -/
def persistTrainingDatasetArtifacts (numerics : Numerics F A) (store : ArtifactStore F A)
    (dataset : List (TrainingWindow F) × TrainingDatasetManifest) (createdAt start : Text) :
    ArtifactStore F A × Option PersistedTrainingDatasetArtifact :=
  let persisted := persistedArtifact dataset.1 dataset.2 createdAt start
  let store := store.save persisted.manifestObjectKey (.dataset persisted)
  match serializeTrainingWindows numerics dataset.1 dataset.2.sequenceLength
      dataset.2.featureSchema.length with
  | none => (store, none)
  | some archive => (store.save persisted.windowsObjectKey (.archive archive), some persisted)

/-- `load_persisted_training_dataset_artifacts` without another key for the windows -/
def loadPersistedTrainingDatasetArtifacts (numerics : Numerics F A) (store : ArtifactStore F A)
    (manifestObjectKey : Text) : Option (List (TrainingWindow F) × TrainingDatasetManifest) :=
  match store.load manifestObjectKey with
  | some (.dataset persisted) =>
    match store.load persisted.windowsObjectKey with
    | some (.archive archive) =>
      (numerics.loadArchive archive persisted.featureSchema).map fun windows =>
        (windows,
          { datasetId := persisted.datasetId
            sourceBucket := persisted.sourceBucket
            sourcePrefix := persisted.sourcePrefix
            sequenceLength := persisted.sequenceLength
            featureSchema := persisted.featureSchema
            selectedArtifactKeys := persisted.selectedArtifactKeys
            skippedArtifacts := persisted.skippedArtifacts
            eligibleRecordCount := persisted.eligibleArtifactCount
            windowCount := persisted.windowCount
            trainingLabel := persisted.trainingLabel })
    | _ => none
  | _ => none

end TruthFingerprint.Lstm
