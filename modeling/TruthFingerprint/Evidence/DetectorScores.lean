import Mathlib
import TruthFingerprint.Evidence.Records

/-!
# Detector scores and their manifests

A score is the frozen outcome of a detector for one test window, a manifest the scores of one window
inventory. Physical and syscall scores differ in their fields, and their manifests are validated
alike: a contract says what the validation reads of a score.
-/

namespace TruthFingerprint.Evidence

inductive ScoreDecision where
  | normal
  | anomalous
  | unavailable
  | invalid
deriving DecidableEq

def ScoreDecision.value : ScoreDecision → Text
  | .normal => text "normal"
  | .anomalous => text "anomalous"
  | .unavailable => text "unavailable"
  | .invalid => text "invalid"

/-- What a predictor returns, `InferenceResult` and `SyscallInferenceResult`. -/
structure InferenceResult where
  rawScore : Option Text
  calibratedScore : Option Text
  decision : Text
  latencyEvidenceId : Option Text
  unavailabilityReasonId : Option Text

namespace InferenceResult

def Unavailable (outcome : InferenceResult) : Prop :=
  outcome.decision ∈ [ScoreDecision.unavailable.value, ScoreDecision.invalid.value]

def Scored (outcome : InferenceResult) : Prop :=
  outcome.decision ∈ [ScoreDecision.normal.value, ScoreDecision.anomalous.value]

instance : DecidablePred Unavailable := fun _ => inferInstanceAs (Decidable (_ ∈ _))

instance : DecidablePred Scored := fun _ => inferInstanceAs (Decidable (_ ∈ _))

theorem Scored.not_unavailable {outcome : InferenceResult} (h : outcome.Scored) :
    ¬outcome.Unavailable := by
  intro hunavailable
  rcases List.mem_pair.mp h with hscored | hscored <;>
    rw [Unavailable, hscored] at hunavailable <;> exact absurd hunavailable (by decide)

end InferenceResult

/-! ## The records -/

/-- One immutable score or explicitly retained unavailable outcome. -/
structure DetectorScore where
  schemaVersion : Text
  bundleId : Text
  windowId : Text
  inputHash : Text
  rawScore : Option Text
  calibratedScore : Option Text
  scoreDirection : Text
  thresholdId : Text
  decision : Text
  latencyEvidenceId : Option Text
  missingnessId : Text
  inputQualityId : Text
  profileId : Text
  runCorrelationId : Text
  codeIdentity : Text
  runtimeIdentity : Text
  unavailabilityReasonId : Option Text
  scoreId : Text
  authorizationEffect : Text
deriving DecidableEq

structure SyscallDetectorScore where
  schemaVersion : Text
  bundleId : Text
  windowId : Text
  inputHash : Text
  rawScore : Option Text
  calibratedScore : Option Text
  scoreDirection : Text
  thresholdId : Text
  decision : Text
  latencyEvidenceId : Option Text
  missingnessId : Text
  captureQualityId : Text
  captureContextId : Text
  runCorrelationId : Text
  workloadCorrelationId : Text
  codeIdentity : Text
  runtimeIdentity : Text
  unavailabilityReasonId : Option Text
  scoreId : Text
  authorizationEffect : Text
deriving DecidableEq

/-- `PhysicalScoreManifest` and `SyscallScoreManifest` -/
structure ScoreManifest (S : Type) where
  schemaVersion : Text
  bundleId : Text
  partitionId : Text
  plannedWindowIds : List Text
  scores : List S
  resourceEvidenceIds : List Text
  failureEvidenceIds : List Text
  codeIdentity : Text
  runtimeIdentity : Text
  manifestId : Text
  authorizationEffect : Text

abbrev PhysicalScoreManifest := ScoreManifest DetectorScore

abbrev SyscallScoreManifest := ScoreManifest SyscallDetectorScore

open Document (optional texts record)

def DetectorScore.toDict (score : DetectorScore) : Document :=
  record [("schema_version", .str score.schemaVersion), ("bundle_id", .str score.bundleId),
    ("window_id", .str score.windowId), ("input_hash", .str score.inputHash),
    ("raw_score", optional score.rawScore), ("calibrated_score", optional score.calibratedScore),
    ("score_direction", .str score.scoreDirection), ("threshold_id", .str score.thresholdId),
    ("decision", .str score.decision), ("latency_evidence_id", optional score.latencyEvidenceId),
    ("missingness_id", .str score.missingnessId), ("input_quality_id", .str score.inputQualityId),
    ("profile_id", .str score.profileId), ("run_correlation_id", .str score.runCorrelationId),
    ("code_identity", .str score.codeIdentity), ("runtime_identity", .str score.runtimeIdentity),
    ("unavailability_reason_id", optional score.unavailabilityReasonId),
    ("score_id", .str score.scoreId), ("authorization_effect", .str score.authorizationEffect)]

def SyscallDetectorScore.toDict (score : SyscallDetectorScore) : Document :=
  record [("schema_version", .str score.schemaVersion), ("bundle_id", .str score.bundleId),
    ("window_id", .str score.windowId), ("input_hash", .str score.inputHash),
    ("raw_score", optional score.rawScore), ("calibrated_score", optional score.calibratedScore),
    ("score_direction", .str score.scoreDirection), ("threshold_id", .str score.thresholdId),
    ("decision", .str score.decision), ("latency_evidence_id", optional score.latencyEvidenceId),
    ("missingness_id", .str score.missingnessId),
    ("capture_quality_id", .str score.captureQualityId),
    ("capture_context_id", .str score.captureContextId),
    ("run_correlation_id", .str score.runCorrelationId),
    ("workload_correlation_id", .str score.workloadCorrelationId),
    ("code_identity", .str score.codeIdentity), ("runtime_identity", .str score.runtimeIdentity),
    ("unavailability_reason_id", optional score.unavailabilityReasonId),
    ("score_id", .str score.scoreId), ("authorization_effect", .str score.authorizationEffect)]

/-- The digest of the record without its identity -/
def detectorScoreIdentity (score : DetectorScore) : Text :=
  recordId { score with scoreId := [] }.toDict

def syscallDetectorScoreIdentity (score : SyscallDetectorScore) : Text :=
  recordId { score with scoreId := [] }.toDict

def finalizeDetectorScore (score : DetectorScore) : DetectorScore :=
  { score with scoreId := detectorScoreIdentity { score with scoreId := [] } }

def finalizeSyscallDetectorScore (score : SyscallDetectorScore) : SyscallDetectorScore :=
  { score with scoreId := syscallDetectorScoreIdentity { score with scoreId := [] } }

/-! ## Contracts -/

/-- What the validation of a manifest reads of a score, and the names that it uses. -/
structure ScoreContract (S : Type) where
  family : String
  manifestSchema : String
  scoreSchema : String
  schemaVersion : S → Text
  windowId : S → Text
  scoreId : S → Text
  identity : S → Text
  bundleId : S → Text
  codeIdentity : S → Text
  runtimeIdentity : S → Text
  references : S → List Text
  outcome : S → InferenceResult
  toDict : S → Document

def physicalContract : ScoreContract DetectorScore where
  family := "PBS13"
  manifestSchema := "PhysicalScoreManifest.v1"
  scoreSchema := "DetectorScore.v1"
  schemaVersion := (·.schemaVersion)
  windowId := (·.windowId)
  scoreId := (·.scoreId)
  identity := detectorScoreIdentity
  bundleId := (·.bundleId)
  codeIdentity := (·.codeIdentity)
  runtimeIdentity := (·.runtimeIdentity)
  references := fun score => [score.bundleId, score.inputHash, score.thresholdId,
    score.missingnessId, score.inputQualityId, score.profileId, score.runCorrelationId,
    score.codeIdentity, score.runtimeIdentity]
  outcome := fun score => ⟨score.rawScore, score.calibratedScore, score.decision,
    score.latencyEvidenceId, score.unavailabilityReasonId⟩
  toDict := DetectorScore.toDict

def syscallContract : ScoreContract SyscallDetectorScore where
  family := "SBS14"
  manifestSchema := "SyscallScoreManifest.v1"
  scoreSchema := "DetectorScore.v1"
  schemaVersion := (·.schemaVersion)
  windowId := (·.windowId)
  scoreId := (·.scoreId)
  identity := syscallDetectorScoreIdentity
  bundleId := (·.bundleId)
  codeIdentity := (·.codeIdentity)
  runtimeIdentity := (·.runtimeIdentity)
  references := fun score => [score.bundleId, score.inputHash, score.thresholdId,
    score.missingnessId, score.captureQualityId, score.captureContextId, score.runCorrelationId,
    score.workloadCorrelationId, score.codeIdentity, score.runtimeIdentity]
  outcome := fun score => ⟨score.rawScore, score.calibratedScore, score.decision,
    score.latencyEvidenceId, score.unavailabilityReasonId⟩
  toDict := SyscallDetectorScore.toDict

variable {S : Type}

def ScoreManifest.toDict (contract : ScoreContract S) (manifest : ScoreManifest S) : Document :=
  record [("schema_version", .str manifest.schemaVersion), ("bundle_id", .str manifest.bundleId),
    ("partition_id", .str manifest.partitionId),
    ("planned_window_ids", texts manifest.plannedWindowIds),
    ("scores", .arr (manifest.scores.map contract.toDict)),
    ("resource_evidence_ids", texts manifest.resourceEvidenceIds),
    ("failure_evidence_ids", texts manifest.failureEvidenceIds),
    ("code_identity", .str manifest.codeIdentity),
    ("runtime_identity", .str manifest.runtimeIdentity),
    ("manifest_id", .str manifest.manifestId),
    ("authorization_effect", .str manifest.authorizationEffect)]

def scoreManifestIdentity (contract : ScoreContract S) (manifest : ScoreManifest S) : Text :=
  recordId ({ manifest with manifestId := [] }.toDict contract)

def finalizeScoreManifest (contract : ScoreContract S) (manifest : ScoreManifest S) :
    ScoreManifest S :=
  { manifest with manifestId := scoreManifestIdentity contract { manifest with manifestId := [] } }

/-! ## Validation -/

/-- The outcome is unavailable for a reason that resolves, and without scores. -/
def unavailableValid (resolver : ImmutableResolver) (outcome : InferenceResult) : Bool :=
  decide (outcome.Unavailable ↔ outcome.rawScore = none ∧ outcome.calibratedScore = none) &&
    (!decide outcome.Unavailable || resolves resolver outcome.unavailabilityReasonId)

/-- An available outcome has two scores and the evidence of its latency. Empty scores count as
none. -/
def completeValid (resolver : ImmutableResolver) (outcome : InferenceResult) : Bool :=
  decide outcome.Unavailable || (!(outcome.rawScore.getD []).isEmpty &&
    !(outcome.calibratedScore.getD []).isEmpty && resolves resolver outcome.latencyEvidenceId)

/-- What the validation of a manifest finds about one of its scores. -/
def scoreCodes (contract : ScoreContract S) (resolver : ImmutableResolver)
    (manifest : ScoreManifest S) (score : S) : List Text :=
  check (contract.schemaVersion score = text contract.scoreSchema &&
    contract.scoreId score = contract.identity score)
    (contract.family ++ "_SCORE_IMMUTABILITY_INVALID") ++
  check (contract.bundleId score = manifest.bundleId &&
    contract.codeIdentity score = manifest.codeIdentity &&
    contract.runtimeIdentity score = manifest.runtimeIdentity)
    (contract.family ++ "_SCORE_MANIFEST_BINDING_MISMATCH") ++
  check ((contract.references score).all (immutable resolver))
    (contract.family ++ "_SCORE_REFERENCE_UNRESOLVED") ++
  check (unavailableValid resolver (contract.outcome score))
    (contract.family ++ "_UNAVAILABLE_OUTCOME_INVALID") ++
  check (completeValid resolver (contract.outcome score))
    (contract.family ++ "_COMPLETE_SCORE_INVALID")

/-- The identities of a manifest that have to resolve. -/
def ScoreManifest.references (manifest : ScoreManifest S) : List Text :=
  [manifest.bundleId, manifest.partitionId, manifest.codeIdentity, manifest.runtimeIdentity] ++
    manifest.resourceEvidenceIds ++ manifest.failureEvidenceIds

/-- Both `validate_physical_score_manifest` and `validate_syscall_score_manifest` -/
def validateScoreManifest (contract : ScoreContract S) (manifest : ScoreManifest S)
    (resolver : ImmutableResolver) : CodeValidation :=
  let windows := manifest.scores.map contract.windowId
  codesResult <|
    check (manifest.schemaVersion = text contract.manifestSchema)
      (contract.family ++ "_MANIFEST_SCHEMA_UNSUPPORTED") ++
    check (manifest.authorizationEffect = text "none")
      (contract.family ++ "_MANIFEST_AUTHORIZATION_EFFECT_FORBIDDEN") ++
    check (!manifest.plannedWindowIds.isEmpty)
      (contract.family ++ "_MANIFEST_WINDOW_INVENTORY_EMPTY") ++
    check (decide windows.Nodup && windows.toFinset = manifest.plannedWindowIds.toFinset)
      (contract.family ++ "_MANIFEST_WINDOW_CLOSURE_INCOMPLETE") ++
    check (manifest.references.all (immutable resolver))
      (contract.family ++ "_MANIFEST_REFERENCE_UNRESOLVED") ++
    manifest.scores.flatMap (scoreCodes contract resolver manifest) ++
    check (manifest.manifestId = scoreManifestIdentity contract manifest)
      (contract.family ++ "_MANIFEST_IMMUTABILITY_INVALID")

def validatePhysicalScoreManifest (manifest : PhysicalScoreManifest)
    (resolver : ImmutableResolver) : CodeValidation :=
  validateScoreManifest physicalContract manifest resolver

def validateSyscallScoreManifest (manifest : SyscallScoreManifest)
    (resolver : ImmutableResolver) : CodeValidation :=
  validateScoreManifest syscallContract manifest resolver

/-- The windows of an accepted manifest are scored once. -/
theorem nodup_windows_of_accepted {contract : ScoreContract S} {manifest : ScoreManifest S}
    {resolver : ImmutableResolver}
    (h : (validateScoreManifest contract manifest resolver).diagnosticCodes = []) :
    (manifest.scores.map contract.windowId).Nodup := by
  rw [validateScoreManifest, diagnosticCodes_eq_nil] at h
  simp only [List.append_eq_nil_iff, check_eq_nil, Bool.and_eq_true, decide_eq_true_eq] at h
  obtain ⟨⟨⟨⟨-, hnodup, -⟩, -⟩, -⟩, -⟩ := h
  exact hnodup

end TruthFingerprint.Evidence
