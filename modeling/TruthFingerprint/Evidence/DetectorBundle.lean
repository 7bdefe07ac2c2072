import Mathlib
import TruthFingerprint.Evidence.Records

/-!
# Detector bundles and thresholds

A bundle binds the frozen components of a detector by their identities. Loading compares it with a
declared environment and with the hashes that a resolver returns for its components.
-/

namespace TruthFingerprint.Evidence

open Document (texts record)

/-- `valid_component_slot`, the full match of `[a-z][a-z0-9_]*` -/
def validComponentSlot : Text → Bool
  | [] => false
  | c :: cs =>
    let letter (d : CodePoint) : Bool := 'a'.codePoint ≤ d && d ≤ 'z'.codePoint
    letter c && cs.all fun d =>
      letter d || ('0'.codePoint ≤ d && d ≤ '9'.codePoint) || d = '_'.codePoint

/-- The exact serialized hash of a named immutable bundle component. -/
structure BundleComponentHash where
  name : Text
  artifactId : Text
  serializedSha256 : Text

structure DetectorBundle where
  schemaVersion : Text
  modelFamily : Text
  modelContractVersion : Text
  architectureId : Text
  weightsId : Text
  featureSchemaId : Text
  featureSchemaVersion : Text
  orderedFeatureNames : List Text
  preprocessingStateId : Text
  trainingDatasetId : Text
  trainingSplitId : Text
  calibrationDatasetId : Text
  calibrationSplitId : Text
  calibrationArtifactId : Text
  thresholdId : Text
  thresholdDerivationId : Text
  scoreDirection : Text
  profileCompatibilityId : Text
  codeIdentity : Text
  dependencyLockSha256 : Text
  runtimeIdentity : Text
  componentHashes : List BundleComponentHash
  bundleId : Text
  authorizationEffect : Text

/-- Exact declared load environment. -/
structure DeclaredBundleEnvironment where
  modelContractVersion : Text
  featureSchemaId : Text
  featureSchemaVersion : Text
  orderedFeatureNames : List Text
  profileCompatibilityId : Text
  codeIdentity : Text
  dependencyLockSha256 : Text
  runtimeIdentity : Text

abbrev ComponentResolver := Text → Option Text

def BundleComponentHash.toDict (component : BundleComponentHash) : Document :=
  record [("name", .str component.name), ("artifact_id", .str component.artifactId),
    ("serialized_sha256", .str component.serializedSha256)]

namespace DetectorBundle

def toDict (bundle : DetectorBundle) : Document :=
  record [("schema_version", .str bundle.schemaVersion), ("model_family", .str bundle.modelFamily),
    ("model_contract_version", .str bundle.modelContractVersion),
    ("architecture_id", .str bundle.architectureId), ("weights_id", .str bundle.weightsId),
    ("feature_schema_id", .str bundle.featureSchemaId),
    ("feature_schema_version", .str bundle.featureSchemaVersion),
    ("ordered_feature_names", texts bundle.orderedFeatureNames),
    ("preprocessing_state_id", .str bundle.preprocessingStateId),
    ("training_dataset_id", .str bundle.trainingDatasetId),
    ("training_split_id", .str bundle.trainingSplitId),
    ("calibration_dataset_id", .str bundle.calibrationDatasetId),
    ("calibration_split_id", .str bundle.calibrationSplitId),
    ("calibration_artifact_id", .str bundle.calibrationArtifactId),
    ("threshold_id", .str bundle.thresholdId),
    ("threshold_derivation_id", .str bundle.thresholdDerivationId),
    ("score_direction", .str bundle.scoreDirection),
    ("profile_compatibility_id", .str bundle.profileCompatibilityId),
    ("code_identity", .str bundle.codeIdentity),
    ("dependency_lock_sha256", .str bundle.dependencyLockSha256),
    ("runtime_identity", .str bundle.runtimeIdentity),
    ("component_hashes", .arr (bundle.componentHashes.map BundleComponentHash.toDict)),
    ("bundle_id", .str bundle.bundleId), ("authorization_effect", .str bundle.authorizationEffect)]

def componentIds (bundle : DetectorBundle) : List (Text × Text) :=
  [(text "architecture", bundle.architectureId), (text "weights", bundle.weightsId),
    (text "feature_schema", bundle.featureSchemaId),
    (text "preprocessing", bundle.preprocessingStateId),
    (text "training_dataset", bundle.trainingDatasetId),
    (text "training_split", bundle.trainingSplitId),
    (text "calibration_dataset", bundle.calibrationDatasetId),
    (text "calibration_split", bundle.calibrationSplitId),
    (text "calibration_artifact", bundle.calibrationArtifactId),
    (text "threshold", bundle.thresholdId),
    (text "threshold_derivation", bundle.thresholdDerivationId),
    (text "profile_compatibility", bundle.profileCompatibilityId),
    (text "code", bundle.codeIdentity), (text "dependency_lock", bundle.dependencyLockSha256),
    (text "runtime", bundle.runtimeIdentity)]

/-- `_REQUIRED_COMPONENTS` -/
def requiredComponents : List Text :=
  [text "architecture", text "weights", text "feature_schema", text "preprocessing",
    text "training_dataset", text "training_split", text "calibration_dataset",
    text "calibration_split", text "calibration_artifact", text "threshold",
    text "threshold_derivation", text "profile_compatibility", text "code",
    text "dependency_lock", text "runtime"]

/-- The digest of the canonical text, which ends with a newline. -/
def identity (bundle : DetectorBundle) : Text :=
  sha256Id (Python.canonicalText { bundle with bundleId := [] }.toDict ++ text "\n")

/-- `_component_closure` -/
def componentClosure (bundle : DetectorBundle) : List Text :=
  let names := bundle.componentHashes.map (·.name)
  check (decide names.Nodup && names.toFinset = requiredComponents.toFinset)
    "DB13_COMPONENT_CLOSURE_INVALID" ++
  check (names = names.insertionSort (· ≤ ·)) "DB13_COMPONENT_ORDER_NONCANONICAL" ++
  bundle.componentHashes.flatMap fun component =>
    if !validComponentSlot component.name || !isImmutableId component.artifactId ||
        !isImmutableId component.serializedSha256 then
      [text "DB13_COMPONENT_HASH_INVALID"]
    else check (bundle.componentIds.lookup component.name = some component.artifactId)
      "DB13_COMPONENT_BINDING_MISMATCH"

/-- `validate_detector_bundle` -/
def validate (bundle : DetectorBundle) : CodeValidation :=
  codesResult <|
    check (bundle.schemaVersion = text "DetectorBundle.v1") "DB13_SCHEMA_UNSUPPORTED" ++
    check (bundle.modelContractVersion = text "PhysicalDetectorModel.v2")
      "DB13_MODEL_CONTRACT_INCOMPATIBLE" ++
    check (bundle.featureSchemaVersion = text "PhysicalFeatureSchema.v2")
      "DB13_FEATURE_SCHEMA_INCOMPATIBLE" ++
    check (bundle.scoreDirection ∈ [text "higher_anomalous", text "lower_anomalous"])
      "DB13_SCORE_DIRECTION_INVALID" ++
    check (validComponentSlot bundle.modelFamily) "DB13_MODEL_FAMILY_INVALID" ++
    check (!bundle.orderedFeatureNames.isEmpty &&
      bundle.orderedFeatureNames.all validComponentSlot &&
      decide bundle.orderedFeatureNames.Nodup) "DB13_FEATURE_ORDER_INVALID" ++
    check (bundle.authorizationEffect = text "none") "DB13_AUTHORIZATION_EFFECT_FORBIDDEN" ++
    check (bundle.bundleId = bundle.identity) "DB13_BUNDLE_ID_MISMATCH" ++
    check (bundle.componentIds.all fun component => isImmutableId component.2)
      "DB13_COMPONENT_ID_INVALID" ++
    bundle.componentClosure

/-- `load_detector_bundle` -/
def load (bundle : DetectorBundle) (environment : DeclaredBundleEnvironment)
    (componentResolver : ComponentResolver) : CodeValidation :=
  codesResult <|
    bundle.validate.diagnosticCodes ++
    check (environment.modelContractVersion = bundle.modelContractVersion)
      "DB13_ENVIRONMENT_MODEL_CONTRACT_MISMATCH" ++
    check (environment.featureSchemaId = bundle.featureSchemaId &&
      environment.featureSchemaVersion = bundle.featureSchemaVersion)
      "DB13_ENVIRONMENT_SCHEMA_MISMATCH" ++
    check (environment.orderedFeatureNames = bundle.orderedFeatureNames)
      "DB13_ENVIRONMENT_FEATURE_ORDER_MISMATCH" ++
    check (environment.profileCompatibilityId = bundle.profileCompatibilityId)
      "DB13_ENVIRONMENT_PROFILE_MISMATCH" ++
    check (environment.codeIdentity = bundle.codeIdentity) "DB13_ENVIRONMENT_CODE_MISMATCH" ++
    check (environment.dependencyLockSha256 = bundle.dependencyLockSha256)
      "DB13_ENVIRONMENT_DEPENDENCY_MISMATCH" ++
    check (environment.runtimeIdentity = bundle.runtimeIdentity)
      "DB13_ENVIRONMENT_RUNTIME_MISMATCH" ++
    bundle.componentHashes.flatMap fun component =>
      match componentResolver component.artifactId with
      | none => [text "DB13_COMPONENT_UNAVAILABLE"]
      | some observed =>
        check (observed = component.serializedSha256) "DB13_COMPONENT_HASH_MISMATCH"

end DetectorBundle

/-! ## Physical thresholds -/

structure PhysicalThreshold where
  candidateId : Text
  preprocessingId : Text
  featureSchemaId : Text
  calibrationPartitionId : Text
  calibrationScoreIds : List Text
  methodId : Text
  scoreDirection : Text
  thresholdValue : Text
  thresholdUnit : Text
  parameterGateId : Text
  codeIdentity : Text
  runtimeIdentity : Text
  createdAt : Text
  contentId : Text
  authorizationEffect : Text

namespace PhysicalThreshold

/-- The digest of the record without its content identity -/
def computedId (threshold : PhysicalThreshold) : Text :=
  recordId <| record [("candidate_id", .str threshold.candidateId),
    ("preprocessing_id", .str threshold.preprocessingId),
    ("feature_schema_id", .str threshold.featureSchemaId),
    ("calibration_partition_id", .str threshold.calibrationPartitionId),
    ("calibration_score_ids", texts threshold.calibrationScoreIds),
    ("method_id", .str threshold.methodId), ("score_direction", .str threshold.scoreDirection),
    ("threshold_value", .str threshold.thresholdValue),
    ("threshold_unit", .str threshold.thresholdUnit),
    ("parameter_gate_id", .str threshold.parameterGateId),
    ("code_identity", .str threshold.codeIdentity),
    ("runtime_identity", .str threshold.runtimeIdentity), ("created_at", .str threshold.createdAt),
    ("authorization_effect", .str threshold.authorizationEffect)]

/-- `_id` of a threshold: the digits are not checked. -/
def looksLikeId (value : Text) : Bool := (text "sha256:").isPrefixOf value && value.length = 71

/-- The message that `validate` raises, if it raises one -/
def validate (threshold : PhysicalThreshold) : Option Text :=
  if threshold.scoreDirection ∉ [text "higher_anomalous", text "lower_anomalous"] ∨
      threshold.thresholdValue = [] ∨ threshold.thresholdUnit = [] ∨
      threshold.createdAt.getLast? ≠ some 'Z'.codePoint then some (text "PTHRESH-SCHEMA")
  else if ¬([threshold.candidateId, threshold.preprocessingId, threshold.featureSchemaId,
      threshold.calibrationPartitionId, threshold.methodId, threshold.parameterGateId,
      threshold.codeIdentity, threshold.runtimeIdentity] ++
        threshold.calibrationScoreIds).all looksLikeId then some (text "PTHRESH-IDENTITY")
  else if threshold.contentId ≠ [] ∧ threshold.contentId ≠ threshold.computedId then
    some (text "PTHRESH-CONTENT")
  else none

/-- `load_frozen_threshold`: the reason why the threshold is not loaded, if there is one -/
def loadFrozen (threshold : PhysicalThreshold)
    (candidateId preprocessingId featureSchemaId : Text) : Option Text :=
  match threshold.validate with
  | some reason => some reason
  | none =>
    if threshold.candidateId = candidateId ∧ threshold.preprocessingId = preprocessingId ∧
        threshold.featureSchemaId = featureSchemaId then none
    else some (text "PTHRESH-COMPATIBILITY")

end PhysicalThreshold

/-! ## Syscall bundles -/

/-- Immutable categorical syscall detector bundle. -/
structure SyscallDetectorBundle where
  modelId : Text
  vocabularyId : Text
  preprocessingId : Text
  trainingPartitionId : Text
  calibrationPartitionId : Text
  thresholdId : Text
  capturePolicyId : Text
  codeId : Text
  dependencyId : Text
  runtimeId : Text
  contentId : Text
  authorizationEffect : Text

namespace SyscallDetectorBundle

/-- The fields but the content identity -/
def fields (bundle : SyscallDetectorBundle) : List (String × Text) :=
  [("model_id", bundle.modelId), ("vocabulary_id", bundle.vocabularyId),
    ("preprocessing_id", bundle.preprocessingId),
    ("training_partition_id", bundle.trainingPartitionId),
    ("calibration_partition_id", bundle.calibrationPartitionId),
    ("threshold_id", bundle.thresholdId), ("capture_policy_id", bundle.capturePolicyId),
    ("code_id", bundle.codeId), ("dependency_id", bundle.dependencyId),
    ("runtime_id", bundle.runtimeId), ("authorization_effect", bundle.authorizationEffect)]

def computedId (bundle : SyscallDetectorBundle) : Text :=
  recordId (record (bundle.fields.map fun field => (field.1, .str field.2)))

/-- `validate` raises nothing. Empty fields and `none` are not looked at. -/
def Valid (bundle : SyscallDetectorBundle) : Prop :=
  (bundle.authorizationEffect = text "none" ∧
    ∀ value ∈ bundle.contentId :: bundle.fields.map Prod.snd, value ≠ [] → value ≠ text "none" →
      text "sha256:" <+: value) ∧
  (bundle.contentId ≠ [] → bundle.contentId = bundle.computedId)

instance (bundle : SyscallDetectorBundle) : Decidable bundle.Valid :=
  inferInstanceAs (Decidable ((_ ∧ ∀ value ∈ bundle.contentId :: _, _) ∧ _))

end SyscallDetectorBundle

end TruthFingerprint.Evidence
