import Mathlib
import TruthFingerprint.Evidence.DetectorBundle
import TruthFingerprint.Evidence.DetectorScores
import TruthFingerprint.Evidence.SyscallPartitions

/-!
# Blind scoring

A window is scored when its context and the window itself have no blocking code. The outcome of the
predictor is then kept or replaced by an invalid one. A manifest asks more of a score than the
scoring asks of an outcome: the scores may not be empty, and their latency must have evidence. The
score of a predictor is acceptable exactly when the outcome meets these conditions where it is kept
(`normalized_valid_iff`), and the identities that no validation resolves do resolve.
-/

namespace TruthFingerprint.Evidence

abbrev AuthorizationCheck := Text → Text → Text → Bool

/-! ## Outcomes -/

namespace InferenceResult

/-- An outcome with a decision and two scores. -/
def Complete (outcome : InferenceResult) : Prop :=
  outcome.Scored ∧ outcome.rawScore ≠ none ∧ outcome.calibratedScore ≠ none

/-- An unavailable outcome with a reason that resolves. -/
def Excused (resolver : ImmutableResolver) (outcome : InferenceResult) : Prop :=
  outcome.Unavailable ∧ resolves resolver outcome.unavailabilityReasonId

instance : DecidablePred Complete := fun _ => inferInstanceAs (Decidable (_ ∧ _))

instance (resolver : ImmutableResolver) : DecidablePred (Excused resolver) :=
  fun _ => inferInstanceAs (Decidable (_ ∧ _))

/-- What the scoring makes of an outcome: the scores of an unavailable outcome are dropped, and an
outcome that is neither complete nor excused is replaced by an invalid one. -/
def normalized (resolver : ImmutableResolver) (fallbackReason : Text) (outcome : InferenceResult) :
    InferenceResult :=
  let kept :=
    if outcome.Unavailable then { outcome with rawScore := none, calibratedScore := none }
    else outcome
  if (¬outcome.Unavailable ∧ (kept.rawScore = none ∨ kept.calibratedScore = none)) ∨
      (outcome.Unavailable ∧ ¬resolves resolver kept.unavailabilityReasonId) ∨
      (¬outcome.Unavailable ∧ ¬kept.Scored) then
    ⟨none, none, ScoreDecision.invalid.value, kept.latencyEvidenceId, some fallbackReason⟩
  else kept

/-- The scores are not empty, and the latency has evidence that resolves. -/
def Evidenced (resolver : ImmutableResolver) (outcome : InferenceResult) : Prop :=
  outcome.rawScore ≠ some [] ∧ outcome.calibratedScore ≠ some [] ∧
    resolves resolver outcome.latencyEvidenceId

variable {resolver : ImmutableResolver} {fallbackReason : Text} {outcome : InferenceResult}

theorem normalized_of_complete (h : outcome.Complete) :
    outcome.normalized resolver fallbackReason = outcome := by
  obtain ⟨hscored, hraw, hcalibrated⟩ := h
  have hunavailable := hscored.not_unavailable
  simp [normalized, hunavailable, hscored, hraw, hcalibrated]

theorem normalized_of_excused (h : outcome.Excused resolver) :
    outcome.normalized resolver fallbackReason =
      { outcome with rawScore := none, calibratedScore := none } := by
  obtain ⟨hunavailable, hreason⟩ := h
  simp [normalized, hunavailable, hreason]

theorem normalized_of_rejected (hcomplete : ¬outcome.Complete)
    (hexcused : ¬outcome.Excused resolver) :
    outcome.normalized resolver fallbackReason =
      ⟨none, none, ScoreDecision.invalid.value, outcome.latencyEvidenceId,
        some fallbackReason⟩ := by
  by_cases hunavailable : outcome.Unavailable
  · have hreason : ¬resolves resolver outcome.unavailabilityReasonId :=
      fun h => hexcused ⟨hunavailable, h⟩
    simp [normalized, hunavailable, hreason]
  · have hmissing : (outcome.rawScore = none ∨ outcome.calibratedScore = none) ∨
        ¬outcome.Scored := by
      by_contra hkept
      rw [not_or, not_or, not_not] at hkept
      exact hcomplete ⟨hkept.2, hkept.1.1, hkept.1.2⟩
    rw [normalized]
    simp only [hunavailable, if_false]
    rw [if_pos]
    rcases hmissing with hmissing | hmissing
    · exact .inl ⟨not_false, hmissing⟩
    · exact .inr (.inr ⟨not_false, hmissing⟩)

end InferenceResult

theorem completeValid_of_unavailable {resolver : ImmutableResolver} {outcome : InferenceResult}
    (h : outcome.Unavailable) : completeValid resolver outcome := by
  simp [completeValid, h]

/-- A manifest accepts the outcome that is stored exactly when a complete outcome is evidenced, and
the reason that replaces a rejected one resolves. -/
theorem normalized_valid_iff {resolver : ImmutableResolver} {fallbackReason : Text}
    {outcome : InferenceResult} :
    (unavailableValid resolver (outcome.normalized resolver fallbackReason) ∧
      completeValid resolver (outcome.normalized resolver fallbackReason)) ↔
    (outcome.Complete → outcome.Evidenced resolver) ∧
      (¬outcome.Complete → ¬outcome.Excused resolver → immutable resolver fallbackReason) := by
  by_cases hcomplete : outcome.Complete
  · obtain ⟨hscored, hraw, hcalibrated⟩ := id hcomplete
    obtain ⟨raw, hraw⟩ := Option.ne_none_iff_exists'.mp hraw
    obtain ⟨calibrated, hcalibrated⟩ := Option.ne_none_iff_exists'.mp hcalibrated
    have hunavailable := hscored.not_unavailable
    rw [InferenceResult.normalized_of_complete hcomplete]
    simp [unavailableValid, completeValid, hunavailable, hraw, hcalibrated, hcomplete,
      InferenceResult.Evidenced, and_assoc]
  · by_cases hexcused : outcome.Excused resolver
    · obtain ⟨hunavailable, hreason⟩ := id hexcused
      have hkept : InferenceResult.Unavailable
          { outcome with rawScore := none, calibratedScore := none } := hunavailable
      rw [InferenceResult.normalized_of_excused hexcused]
      simp [unavailableValid, completeValid_of_unavailable hkept, hkept, hreason, hcomplete,
        hexcused]
    · have hinvalid : InferenceResult.Unavailable ⟨none, none, ScoreDecision.invalid.value,
          outcome.latencyEvidenceId, some fallbackReason⟩ :=
        List.mem_cons_of_mem _ (List.mem_singleton_self _)
      rw [InferenceResult.normalized_of_rejected hcomplete hexcused]
      simp [unavailableValid, completeValid_of_unavailable hinvalid, hinvalid, resolves, hcomplete,
        hexcused]

/-! ## Physical windows -/

structure PhysicalWindow where
  windowId : Text
  sourceRunId : Text
  observationIds : List Text
  observationStart : Int
  observationEnd : Int
  partitionId : Text
  featureSchemaId : Text
  preprocessingId : Text
  qualityIds : List Text
  exclusionIds : List Text
  authorizationEffect : Text

structure PreprocessingFit where
  preprocessingId : Text
  partitionId : Text
  trainingRunIds : List Text
  schemaId : Text
  profileId : Text
  featureOrder : List Text
  missingnessPolicyId : Text
  algorithmId : Text
  parameterEvidenceIds : List Text
  outputHash : Text
  authorizationEffect : Text

structure BlindPhysicalScoringContext where
  bundle : DetectorBundle
  environment : DeclaredBundleEnvironment
  partition : PhysicalPartition
  preprocessing : PreprocessingFit
  threshold : PhysicalThreshold
  profileId : Text
  codeIdentity : Text
  runtimeIdentity : Text
  authorizationId : Text
  authorizationEffect : Text

structure PhysicalInferenceInput where
  window : PhysicalWindow
  inputHash : Text
  missingnessId : Text
  inputQualityId : Text
  runCorrelationId : Text

/-- `validate_preprocessing_fit`: fit state may be learned only from declared normal training
runs. -/
def validatePreprocessingFit (fit : PreprocessingFit) (partition : PhysicalPartition)
    (resolver : ImmutableResolver) : Validation :=
  let allowed := (partition.members.filter fun member =>
    member.role = text "train" && member.normalEligible).map (·.runId)
  result <|
    finding (validatePhysicalPartition partition resolver).accepted "PPV1_FIT_PARTITION_INVALID"
      partition.partitionId ++
    finding (!fit.trainingRunIds.isEmpty && fit.trainingRunIds.toFinset = allowed.toFinset)
      "PPV1_FIT_TRAINING_CLOSURE_INVALID" fit.preprocessingId ++
    finding (fit.partitionId = partition.partitionId && fit.schemaId = partition.featureSchemaId)
      "PPV1_FIT_PARTITION_OR_SCHEMA_MISMATCH" fit.preprocessingId ++
    finding (!fit.featureOrder.isEmpty && decide fit.featureOrder.Nodup)
      "PPV1_FIT_FEATURE_ORDER_INVALID" fit.preprocessingId ++
    ([fit.preprocessingId, fit.partitionId, fit.schemaId, fit.profileId, fit.missingnessPolicyId,
      fit.algorithmId, fit.outputHash] ++ fit.trainingRunIds ++ fit.parameterEvidenceIds).flatMap
        fun identity =>
          finding (immutable resolver identity) "PPV1_FIT_REFERENCE_UNRESOLVED" identity

/-- `validate_frozen_preprocessing_application` -/
def validateFrozenPreprocessingApplication (fit : PreprocessingFit) (partition : PhysicalPartition)
    (role schemaId profileId : Text) (featureOrder : List Text)
    (missingnessPolicyId outputHash : Text) (resolver : ImmutableResolver) : Validation :=
  result <|
    (validatePreprocessingFit fit partition resolver).diagnostics ++
    finding (role ∈ [text "validation", text "calibration", text "test", text "live"])
      "PPV1_APPLY_ROLE_INVALID" role ++
    finding (schemaId = fit.schemaId && profileId = fit.profileId &&
      featureOrder = fit.featureOrder && missingnessPolicyId = fit.missingnessPolicyId &&
      outputHash = fit.outputHash) "PPV1_FROZEN_PREPROCESSING_MISMATCH" fit.preprocessingId

def validateBlindPhysicalScoringContext (context : BlindPhysicalScoringContext)
    (componentResolver : ComponentResolver) (resolver : ImmutableResolver)
    (authorized : AuthorizationCheck) : CodeValidation :=
  let bundle := context.bundle
  codesResult <|
    check (context.authorizationEffect = text "none")
      "PBS13_CONTEXT_AUTHORIZATION_EFFECT_FORBIDDEN" ++
    (bundle.load context.environment componentResolver).diagnosticCodes ++
    (validatePhysicalPartition context.partition resolver).diagnostics.map (·.code) ++
    (validateFrozenPreprocessingApplication context.preprocessing context.partition (text "test")
      bundle.featureSchemaId context.profileId bundle.orderedFeatureNames
      context.preprocessing.missingnessPolicyId context.preprocessing.outputHash
      resolver).diagnostics.map (·.code) ++
    (context.threshold.loadFrozen bundle.weightsId bundle.preprocessingStateId
      bundle.featureSchemaId).toList ++
    check ([context.profileId, context.codeIdentity, context.runtimeIdentity,
      context.authorizationId, bundle.bundleId].all (immutable resolver))
      "PBS13_CONTEXT_IDENTITY_UNRESOLVED" ++
    check (context.codeIdentity = bundle.codeIdentity &&
      context.runtimeIdentity = bundle.runtimeIdentity) "PBS13_CODE_OR_RUNTIME_MISMATCH" ++
    check (authorized (text "blind_scoring") context.authorizationId context.partition.partitionId)
      "PBS13_AUTHORIZATION_DENIED"

def PhysicalInferenceInput.references (item : PhysicalInferenceInput) : List Text :=
  [item.inputHash, item.missingnessId, item.inputQualityId, item.runCorrelationId,
    item.window.sourceRunId] ++ item.window.observationIds ++ item.window.qualityIds

/-- `_window_codes` of a physical window -/
def physicalWindowCodes (context : BlindPhysicalScoringContext) (item : PhysicalInferenceInput)
    (resolver : ImmutableResolver) : List Text :=
  let testRuns := (context.partition.members.filter (·.role = text "test")).map (·.runId)
  check (item.window.sourceRunId ∈ testRuns &&
    item.window.partitionId = context.partition.partitionId) "PBS13_WINDOW_NOT_ELIGIBLE_TEST" ++
  check (item.window.featureSchemaId = context.bundle.featureSchemaId &&
    item.window.preprocessingId = context.bundle.preprocessingStateId)
    "PBS13_WINDOW_COMPATIBILITY_MISMATCH" ++
  check (item.window.authorizationEffect = text "none" && !item.window.windowId.isEmpty)
    "PBS13_WINDOW_SHAPE_INVALID" ++
  check (item.references.all (immutable resolver)) "PBS13_INPUT_OR_PROVENANCE_UNRESOLVED"

/-- `codes` of `score_blind_physical_window` -/
def physicalScoringCodes (context : BlindPhysicalScoringContext) (item : PhysicalInferenceInput)
    (componentResolver : ComponentResolver) (resolver : ImmutableResolver)
    (authorized : AuthorizationCheck) : List Text :=
  (validateBlindPhysicalScoringContext context componentResolver resolver
    authorized).diagnosticCodes ++ physicalWindowCodes context item resolver

/-- The score of a physical window with the given outcome. -/
def physicalScore (context : BlindPhysicalScoringContext) (item : PhysicalInferenceInput)
    (outcome : InferenceResult) : DetectorScore :=
  finalizeDetectorScore ⟨text "DetectorScore.v1", context.bundle.bundleId, item.window.windowId,
    item.inputHash, outcome.rawScore, outcome.calibratedScore, context.bundle.scoreDirection,
    context.bundle.thresholdId, outcome.decision, outcome.latencyEvidenceId, item.missingnessId,
    item.inputQualityId, context.profileId, item.runCorrelationId, context.codeIdentity,
    context.runtimeIdentity, outcome.unavailabilityReasonId, [], text "none"⟩

def scoreBlindPhysicalWindow (context : BlindPhysicalScoringContext) (item : PhysicalInferenceInput)
    (componentResolver : ComponentResolver) (resolver : ImmutableResolver)
    (authorized : AuthorizationCheck) (predictor : PhysicalInferenceInput → InferenceResult) :
    DetectorScore :=
  if physicalScoringCodes context item componentResolver resolver authorized ≠ [] then
    physicalScore context item ⟨none, none, ScoreDecision.invalid.value, none,
      [item.inputQualityId, item.missingnessId].find? (immutable resolver)⟩
  else
    physicalScore context item ((predictor item).normalized resolver item.inputQualityId)

/-! ## Syscall windows -/

/-- Lineage-only detector input. -/
structure CategoricalSyscallWindow where
  windowId : Text
  sourceRunId : Text
  eventIds : List Text
  batchIds : List Text
  rawSegmentIds : List Text
  eventStart : Int
  eventEnd : Int
  partitionId : Text
  featureSchemaId : Text
  preprocessingId : Text
  qualityIds : List Text
  exclusionIds : List Text
  authorizationEffect : Text

structure BlindSyscallScoringContext where
  bundle : SyscallDetectorBundle
  partition : SyscallPartition
  preprocessing : SyscallPreprocessingFit
  metricPolicyId : Text
  captureContextId : Text
  codeIdentity : Text
  runtimeIdentity : Text
  authorizationId : Text
  authorizationEffect : Text

structure SyscallInferenceInput where
  window : CategoricalSyscallWindow
  inputHash : Text
  missingnessId : Text
  captureQualityId : Text
  runCorrelationId : Text
  workloadCorrelationId : Text
  failureReasonId : Option Text

def validateBlindSyscallScoringContext (context : BlindSyscallScoringContext)
    (resolver : ImmutableResolver) (authorized : AuthorizationCheck) : CodeValidation :=
  let bundle := context.bundle
  codesResult <|
    check (context.authorizationEffect = text "none")
      "SBS14_CONTEXT_AUTHORIZATION_EFFECT_FORBIDDEN" ++
    check bundle.Valid "SBS14_BUNDLE_INVALID" ++
    check (!bundle.contentId.isEmpty && bundle.contentId = bundle.computedId)
      "SBS14_BUNDLE_NOT_FROZEN" ++
    (validateSyscallPartition context.partition resolver).diagnostics.map (·.code) ++
    (validateSyscallPreprocessingFit context.preprocessing context.partition
      resolver).diagnostics.map (·.code) ++
    check (context.partition.members.any (·.role = text "test")) "SBS14_TEST_PARTITION_MISSING" ++
    check (bundle.vocabularyId = context.preprocessing.vocabularyId &&
      bundle.preprocessingId = context.preprocessing.preprocessingId)
      "SBS14_BUNDLE_PREPROCESSING_MISMATCH" ++
    check (bundle.capturePolicyId = context.captureContextId) "SBS14_CAPTURE_CONTEXT_MISMATCH" ++
    check (bundle.codeId = context.codeIdentity && bundle.runtimeId = context.runtimeIdentity)
      "SBS14_CODE_OR_RUNTIME_MISMATCH" ++
    check ([bundle.contentId, context.metricPolicyId, context.captureContextId,
      context.codeIdentity, context.runtimeIdentity, context.authorizationId].all
        (immutable resolver)) "SBS14_CONTEXT_IDENTITY_UNRESOLVED" ++
    check (authorized (text "blind_syscall_scoring") context.authorizationId
      context.partition.partitionId) "SBS14_AUTHORIZATION_DENIED"

def SyscallInferenceInput.references (item : SyscallInferenceInput) : List Text :=
  [item.inputHash, item.missingnessId, item.captureQualityId, item.runCorrelationId,
    item.workloadCorrelationId, item.window.sourceRunId] ++ item.window.eventIds ++
    item.window.batchIds ++ item.window.rawSegmentIds ++ item.window.qualityIds ++
    item.window.exclusionIds

/-- `_window_codes` of a syscall window -/
def syscallWindowCodes (context : BlindSyscallScoringContext) (item : SyscallInferenceInput)
    (resolver : ImmutableResolver) : List Text :=
  let testRuns := (context.partition.members.filter (·.role = text "test")).map (·.runId)
  check (item.window.sourceRunId ∈ testRuns &&
    item.window.partitionId = context.partition.partitionId) "SBS14_WINDOW_NOT_ELIGIBLE_TEST" ++
  check (item.window.featureSchemaId = context.partition.featureSchemaId &&
    item.window.preprocessingId = context.bundle.preprocessingId)
    "SBS14_WINDOW_COMPATIBILITY_MISMATCH" ++
  check (item.window.authorizationEffect = text "none" && !item.window.windowId.isEmpty &&
    !item.window.eventIds.isEmpty) "SBS14_WINDOW_SHAPE_INVALID" ++
  check (item.references.all (immutable resolver)) "SBS14_INPUT_OR_CAPTURE_PROVENANCE_UNRESOLVED"

/-- `codes` of `score_blind_syscall_window` -/
def syscallScoringCodes (context : BlindSyscallScoringContext) (item : SyscallInferenceInput)
    (resolver : ImmutableResolver) (authorized : AuthorizationCheck) : List Text :=
  (validateBlindSyscallScoringContext context resolver authorized).diagnosticCodes ++
    syscallWindowCodes context item resolver

/-- The score of a syscall window with the given outcome. -/
def syscallScore (context : BlindSyscallScoringContext) (item : SyscallInferenceInput)
    (outcome : InferenceResult) : SyscallDetectorScore :=
  finalizeSyscallDetectorScore ⟨text "DetectorScore.v1", context.bundle.contentId,
    item.window.windowId, item.inputHash, outcome.rawScore, outcome.calibratedScore,
    text "higher_anomalous", context.bundle.thresholdId, outcome.decision,
    outcome.latencyEvidenceId, item.missingnessId, item.captureQualityId, context.captureContextId,
    item.runCorrelationId, item.workloadCorrelationId, context.codeIdentity,
    context.runtimeIdentity, outcome.unavailabilityReasonId, [], text "none"⟩

/-- `item.failure_reason_id or item.capture_quality_id` -/
def SyscallInferenceInput.fallbackReason (item : SyscallInferenceInput) : Text :=
  if item.failureReasonId.getD [] = [] then item.captureQualityId else item.failureReasonId.getD []

def scoreBlindSyscallWindow (context : BlindSyscallScoringContext) (item : SyscallInferenceInput)
    (resolver : ImmutableResolver) (authorized : AuthorizationCheck)
    (predictor : SyscallInferenceInput → InferenceResult) : SyscallDetectorScore :=
  if syscallScoringCodes context item resolver authorized ≠ [] then
    syscallScore context item ⟨none, none, ScoreDecision.invalid.value, none,
      (item.failureReasonId.toList ++ [item.captureQualityId, item.missingnessId]).find?
        (immutable resolver)⟩
  else
    syscallScore context item ((predictor item).normalized resolver item.fallbackReason)

/-! ## What a manifest finds about a score -/

/-- No manifest with the bundle, the code and the runtime of a score finds anything about it. -/
def AcceptedByManifests {S : Type} (contract : ScoreContract S) (resolver : ImmutableResolver)
    (score : S) : Prop :=
  ∀ manifest : ScoreManifest S, score ∈ manifest.scores →
    manifest.bundleId = contract.bundleId score →
    manifest.codeIdentity = contract.codeIdentity score →
    manifest.runtimeIdentity = contract.runtimeIdentity score →
      scoreCodes contract resolver manifest score = []

/-- A frozen score is accepted exactly when its references resolve and its outcome is valid. -/
theorem acceptedByManifests_iff {S : Type} {contract : ScoreContract S}
    {resolver : ImmutableResolver} {score : S}
    (hschema : contract.schemaVersion score = text contract.scoreSchema)
    (hid : contract.scoreId score = contract.identity score) :
    AcceptedByManifests contract resolver score ↔
      (contract.references score).all (immutable resolver) ∧
      unavailableValid resolver (contract.outcome score) ∧
      completeValid resolver (contract.outcome score) := by
  constructor
  · intro h
    have hcodes := h ⟨[], contract.bundleId score, [], [], [score], [], [],
      contract.codeIdentity score, contract.runtimeIdentity score, [], []⟩
      (List.mem_singleton_self _) rfl rfl rfl
    simp only [scoreCodes, List.append_eq_nil_iff, check_eq_nil] at hcodes
    obtain ⟨⟨⟨-, hreferences⟩, hunavailable⟩, hcomplete⟩ := hcodes
    exact ⟨hreferences, hunavailable, hcomplete⟩
  · rintro ⟨hreferences, hunavailable, hcomplete⟩ manifest - hbundle hcode hruntime
    simp only [scoreCodes, List.append_eq_nil_iff, check_eq_nil]
    refine ⟨⟨⟨⟨?_, ?_⟩, hreferences⟩, hunavailable⟩, hcomplete⟩
    · simp [hschema, hid]
    · simp [hbundle, hcode, hruntime]

theorem physicalScore_accepted_iff {context : BlindPhysicalScoringContext}
    {item : PhysicalInferenceInput} {componentResolver : ComponentResolver}
    {resolver : ImmutableResolver} {authorized : AuthorizationCheck}
    {predictor : PhysicalInferenceInput → InferenceResult}
    (h : physicalScoringCodes context item componentResolver resolver authorized = []) :
    AcceptedByManifests physicalContract resolver (scoreBlindPhysicalWindow context item
      componentResolver resolver authorized predictor) ↔
    immutable resolver context.bundle.thresholdId ∧
      ((predictor item).Complete → (predictor item).Evidenced resolver) := by
  have hcodes := h
  rw [physicalScoringCodes, List.append_eq_nil_iff, validateBlindPhysicalScoringContext,
    diagnosticCodes_eq_nil, physicalWindowCodes] at hcodes
  simp only [List.append_eq_nil_iff, check_eq_nil, PhysicalInferenceInput.references,
    List.all_append, List.all_cons, List.all_nil, Bool.and_eq_true, Bool.and_true] at hcodes
  obtain ⟨⟨⟨⟨-, hprofile, hcode, hruntime, -, hbundle⟩, -⟩, -⟩, -,
    ⟨⟨hinput, hmissingness, hquality, hcorrelation, -⟩, -⟩, -⟩ := hcodes
  have hreferences (outcome : InferenceResult) :
      ((physicalContract.references (physicalScore context item outcome)).all
        (immutable resolver)) ↔ immutable resolver context.bundle.thresholdId := by
    simp [physicalContract, physicalScore, finalizeDetectorScore, hprofile, hcode, hruntime,
      hbundle, hinput, hmissingness, hquality, hcorrelation]
  rw [scoreBlindPhysicalWindow, if_neg (not_not.mpr h), acceptedByManifests_iff rfl rfl,
    hreferences]
  refine and_congr_right fun _ => normalized_valid_iff.trans ?_
  simp [hquality]

/-- A reason that the input names for its failure resolves where it replaces the outcome. -/
def FailureResolves (resolver : ImmutableResolver) (item : SyscallInferenceInput)
    (outcome : InferenceResult) : Prop :=
  ¬outcome.Complete → ¬outcome.Excused resolver → ∀ reason ∈ item.failureReasonId, reason ≠ [] →
    immutable resolver reason

theorem immutable_fallbackReason {resolver : ImmutableResolver} {item : SyscallInferenceInput}
    (hquality : immutable resolver item.captureQualityId) :
    immutable resolver item.fallbackReason ↔
      ∀ reason ∈ item.failureReasonId, reason ≠ [] → immutable resolver reason := by
  rw [SyscallInferenceInput.fallbackReason]
  cases item.failureReasonId with
  | none => simp [hquality]
  | some reason => by_cases hreason : reason = [] <;> simp [hreason, hquality]

theorem syscallScore_accepted_iff {context : BlindSyscallScoringContext}
    {item : SyscallInferenceInput} {resolver : ImmutableResolver}
    {authorized : AuthorizationCheck} {predictor : SyscallInferenceInput → InferenceResult}
    (h : syscallScoringCodes context item resolver authorized = []) :
    AcceptedByManifests syscallContract resolver (scoreBlindSyscallWindow context item resolver
      authorized predictor) ↔
    immutable resolver context.bundle.thresholdId ∧
      ((predictor item).Complete → (predictor item).Evidenced resolver) ∧
      FailureResolves resolver item (predictor item) := by
  have hcodes := h
  rw [syscallScoringCodes, List.append_eq_nil_iff, validateBlindSyscallScoringContext,
    diagnosticCodes_eq_nil, syscallWindowCodes] at hcodes
  simp only [List.append_eq_nil_iff, check_eq_nil, SyscallInferenceInput.references,
    List.all_append, List.all_cons, List.all_nil, Bool.and_eq_true, Bool.and_true] at hcodes
  obtain ⟨⟨⟨-, hbundle, -, hcapture, hcode, hruntime, -⟩, -⟩, -,
    ⟨⟨⟨⟨⟨hinput, hmissingness, hquality, hcorrelation, hworkload, -⟩, -⟩, -⟩, -⟩, -⟩, -⟩ := hcodes
  have hreferences (outcome : InferenceResult) :
      ((syscallContract.references (syscallScore context item outcome)).all
        (immutable resolver)) ↔ immutable resolver context.bundle.thresholdId := by
    simp [syscallContract, syscallScore, finalizeSyscallDetectorScore, hcapture, hcode, hruntime,
      hbundle, hinput, hmissingness, hquality, hcorrelation, hworkload]
  rw [scoreBlindSyscallWindow, if_neg (not_not.mpr h), acceptedByManifests_iff rfl rfl,
    hreferences, FailureResolves]
  refine and_congr_right fun _ => normalized_valid_iff.trans ?_
  rw [immutable_fallbackReason hquality]

/-- The scores of windows without a blocking code are accepted exactly when the identities that are
not validated before resolve and a complete outcome is evidenced. -/
theorem blindScores_accepted_iff (context : BlindPhysicalScoringContext)
    (syscallContext : BlindSyscallScoringContext) (item : PhysicalInferenceInput)
    (syscallItem : SyscallInferenceInput) (componentResolver : ComponentResolver)
    (resolver : ImmutableResolver) (authorized : AuthorizationCheck)
    (predictor : PhysicalInferenceInput → InferenceResult)
    (syscallPredictor : SyscallInferenceInput → InferenceResult) :
    (physicalScoringCodes context item componentResolver resolver authorized = [] →
      (AcceptedByManifests physicalContract resolver (scoreBlindPhysicalWindow context item
          componentResolver resolver authorized predictor) ↔
        immutable resolver context.bundle.thresholdId ∧
          ((predictor item).Complete → (predictor item).Evidenced resolver))) ∧
    (syscallScoringCodes syscallContext syscallItem resolver authorized = [] →
      (AcceptedByManifests syscallContract resolver (scoreBlindSyscallWindow syscallContext
          syscallItem resolver authorized syscallPredictor) ↔
        immutable resolver syscallContext.bundle.thresholdId ∧
          ((syscallPredictor syscallItem).Complete →
            (syscallPredictor syscallItem).Evidenced resolver) ∧
          FailureResolves resolver syscallItem (syscallPredictor syscallItem))) :=
  ⟨fun h => physicalScore_accepted_iff h, fun h => syscallScore_accepted_iff h⟩

/-! ## Scores without evidence of their latency -/

/-- A bundle whose components all have identity 1. -/
def sampleBundle : DetectorBundle :=
  let one := (sampleId 1).val
  let bundle : DetectorBundle := ⟨text "DetectorBundle.v1", text "lstm_ae",
    text "PhysicalDetectorModel.v2", one, one, one, text "PhysicalFeatureSchema.v2",
    [text "current"], one, one, one, one, one, one, one, one, text "higher_anomalous", one, one,
    one, one, (DetectorBundle.requiredComponents.insertionSort (· ≤ ·)).map fun name =>
      ⟨name, one, (sampleId 2).val⟩, [], text "none"⟩
  { bundle with bundleId := bundle.identity }

/-- Run 3 is for training, run 4 for testing. -/
def samplePhysicalPartition : PhysicalPartition :=
  ⟨(sampleId 5).val, (sampleId 1).val, [],
    [⟨(sampleId 3).val, text "train", true, (sampleId 6).val⟩,
    ⟨(sampleId 4).val, text "test", false, (sampleId 6).val⟩], text "none"⟩

def samplePhysicalContext : BlindPhysicalScoringContext where
  bundle := sampleBundle
  environment := ⟨text "PhysicalDetectorModel.v2", (sampleId 1).val,
    text "PhysicalFeatureSchema.v2", [text "current"], (sampleId 1).val, (sampleId 1).val,
    (sampleId 1).val, (sampleId 1).val⟩
  partition := samplePhysicalPartition
  preprocessing := ⟨(sampleId 1).val, (sampleId 5).val, [(sampleId 3).val], (sampleId 1).val,
    (sampleId 7).val, [text "current"], (sampleId 8).val, (sampleId 8).val, [], (sampleId 8).val,
    text "none"⟩
  threshold := ⟨(sampleId 1).val, (sampleId 1).val, (sampleId 1).val, (sampleId 8).val, [],
    (sampleId 8).val, text "higher_anomalous", text "frozen", text "opaque", (sampleId 8).val,
    (sampleId 1).val, (sampleId 1).val, text "2026-01-01T00:00:00Z", [], text "none"⟩
  profileId := (sampleId 7).val
  codeIdentity := (sampleId 1).val
  runtimeIdentity := (sampleId 1).val
  authorizationId := (sampleId 9).val
  authorizationEffect := text "none"

def samplePhysicalInput : PhysicalInferenceInput :=
  ⟨⟨text "window", (sampleId 4).val, [], 1, 2, (sampleId 5).val, (sampleId 1).val, (sampleId 1).val,
    [], [], text "none"⟩, (sampleId 10).val, (sampleId 11).val, (sampleId 12).val,
    (sampleId 13).val⟩

/-- The components of the sample bundles are stored as declared. -/
def sampleComponentResolver : ComponentResolver := fun _ => some (sampleId 2).val

theorem sampleBundle_load : (sampleBundle.load samplePhysicalContext.environment
    sampleComponentResolver).diagnosticCodes = [] := by
  have hvalid : sampleBundle.validate.diagnosticCodes = [] := by
    rw [DetectorBundle.validate, diagnosticCodes_eq_nil]
    simp only [List.append_eq_nil_iff, check_eq_nil]
    refine ⟨⟨⟨⟨⟨⟨⟨⟨⟨?_, ?_⟩, ?_⟩, ?_⟩, ?_⟩, ?_⟩, ?_⟩, decide_eq_true rfl⟩, ?_⟩, ?_⟩ <;>
      decide +kernel
  rw [DetectorBundle.load, diagnosticCodes_eq_nil, hvalid]
  decide +kernel

theorem samplePhysical_codes : physicalScoringCodes samplePhysicalContext samplePhysicalInput
    sampleComponentResolver (fun _ => true) (fun _ _ _ => true) = [] := by
  rw [physicalScoringCodes, List.append_eq_nil_iff, validateBlindPhysicalScoringContext,
    diagnosticCodes_eq_nil]
  simp only [List.append_eq_nil_iff, check_eq_nil]
  refine ⟨⟨⟨⟨⟨⟨⟨⟨rfl, sampleBundle_load⟩, ?_⟩, ?_⟩, ?_⟩, ?_⟩, ?_⟩, trivial⟩, ?_⟩
  · decide +kernel
  · decide +kernel
  · decide +kernel
  · have hbundle : immutable (fun _ => true) sampleBundle.bundleId :=
      Bool.and_eq_true_iff.mpr ⟨isImmutableId_sha256Id _, rfl⟩
    simp [hbundle, samplePhysicalContext, immutable_sampleId]
  · decide +kernel
  · decide +kernel

def sampleSyscallBundle : SyscallDetectorBundle :=
  let one := (sampleId 1).val
  let bundle : SyscallDetectorBundle := ⟨one, (sampleId 14).val, (sampleId 12).val, one, one, one,
    one, one, one, one, [], text "none"⟩
  { bundle with contentId := bundle.computedId }

/-- Run 1 is in a training group, run 4 in a testing group. -/
def sampleSyscallContext : BlindSyscallScoringContext where
  bundle := sampleSyscallBundle
  partition := ⟨(sampleId 10).val, (sampleId 11).val, [], [sampleMember 0 8 "train",
    sampleMember 1 9 "test"], text "none"⟩
  preprocessing := sampleFit
  metricPolicyId := (sampleId 1).val
  captureContextId := (sampleId 1).val
  codeIdentity := (sampleId 1).val
  runtimeIdentity := (sampleId 1).val
  authorizationId := (sampleId 1).val
  authorizationEffect := text "none"

def sampleSyscallInput (failureReasonId : Option Text) : SyscallInferenceInput :=
  ⟨⟨text "window", (sampleId 1).val, [(sampleId 2).val], [], [], 1, 2, (sampleId 10).val,
    (sampleId 11).val, (sampleId 12).val, [], [], text "none"⟩, (sampleId 1).val, (sampleId 1).val,
    (sampleId 1).val, (sampleId 1).val, (sampleId 1).val, failureReasonId⟩

theorem sampleSyscall_codes (failureReasonId : Option Text) :
    syscallScoringCodes sampleSyscallContext (sampleSyscallInput failureReasonId) (fun _ => true)
      (fun _ _ _ => true) = [] := by
  rw [syscallScoringCodes, List.append_eq_nil_iff, validateBlindSyscallScoringContext,
    diagnosticCodes_eq_nil]
  simp only [List.append_eq_nil_iff, check_eq_nil]
  have hcontent : immutable (fun _ => true) sampleSyscallBundle.contentId :=
    Bool.and_eq_true_iff.mpr ⟨isImmutableId_recordId _, rfl⟩
  have hvalid : sampleSyscallBundle.Valid := by
    refine ⟨⟨rfl, ?_⟩, fun _ => rfl⟩
    intro value hvalue
    rcases List.mem_cons.mp hvalue with rfl | hvalue
    · intro _ _
      exact List.prefix_append _ _
    · revert value
      decide +kernel
  refine ⟨⟨⟨⟨⟨⟨⟨⟨⟨⟨⟨rfl, decide_eq_true hvalid⟩, ?_⟩, ?_⟩, ?_⟩, rfl⟩, ?_⟩, ?_⟩, ?_⟩, ?_⟩, trivial⟩,
    ?_⟩
  · exact Bool.and_eq_true_iff.mpr ⟨rfl, decide_eq_true rfl⟩
  · decide +kernel
  · decide +kernel
  · decide +kernel
  · decide +kernel
  · decide +kernel
  · simp [sampleSyscallContext, hcontent, immutable_sampleId]
  · -- The reason of a failure is not among the references of the window.
    change syscallWindowCodes sampleSyscallContext (sampleSyscallInput none) _ = []
    decide +kernel

/-- An outcome with two scores, and maybe with evidence of its latency. -/
def sampleOutcome (rawScore : Text) (latencyEvidenceId : Option Text) : InferenceResult :=
  ⟨some rawScore, some (text "calibrated"), ScoreDecision.anomalous.value, latencyEvidenceId, none⟩

theorem sampleOutcome_complete (rawScore : Text) (latencyEvidenceId : Option Text) :
    (sampleOutcome rawScore latencyEvidenceId).Complete :=
  ⟨List.mem_cons_of_mem _ (List.mem_singleton_self _), Option.some_ne_none _,
    Option.some_ne_none _⟩

theorem sampleScores_accepted :
    AcceptedByManifests physicalContract (fun _ => true) (scoreBlindPhysicalWindow
      samplePhysicalContext samplePhysicalInput sampleComponentResolver (fun _ => true)
      (fun _ _ _ => true) fun _ => sampleOutcome (text "raw") (some (sampleId 2).val)) ∧
    AcceptedByManifests syscallContract (fun _ => true) (scoreBlindSyscallWindow
      sampleSyscallContext (sampleSyscallInput none) (fun _ => true) (fun _ _ _ => true)
      fun _ => sampleOutcome (text "raw") (some (sampleId 2).val)) := by
  have hevidenced : (sampleOutcome (text "raw") (some (sampleId 2).val)).Evidenced fun _ => true :=
    ⟨by decide, by decide, immutable_sampleId 2⟩
  have hiff := blindScores_accepted_iff samplePhysicalContext sampleSyscallContext
    samplePhysicalInput (sampleSyscallInput none) sampleComponentResolver (fun _ => true)
    (fun _ _ _ => true) (fun _ => sampleOutcome (text "raw") (some (sampleId 2).val))
    fun _ => sampleOutcome (text "raw") (some (sampleId 2).val)
  refine ⟨(hiff.1 samplePhysical_codes).mpr ?_, (hiff.2 (sampleSyscall_codes none)).mpr ?_⟩
  · exact ⟨immutable_sampleId 1, fun _ => hevidenced⟩
  · refine ⟨immutable_sampleId 1, fun _ => hevidenced, ?_⟩
    intro _ _ reason hreason
    cases hreason

/-- Predictors that return no evidence of the latency or an empty score, and a failure whose reason
does not resolve, have scores that a manifest does not accept. -/
theorem sampleScores_not_accepted :
    ¬AcceptedByManifests physicalContract (fun _ => true) (scoreBlindPhysicalWindow
      samplePhysicalContext samplePhysicalInput sampleComponentResolver (fun _ => true)
      (fun _ _ _ => true) fun _ => sampleOutcome (text "raw") none) ∧
    ¬AcceptedByManifests syscallContract (fun _ => true) (scoreBlindSyscallWindow
      sampleSyscallContext (sampleSyscallInput none) (fun _ => true) (fun _ _ _ => true)
      fun _ => sampleOutcome [] (some (sampleId 2).val)) ∧
    ¬AcceptedByManifests syscallContract (fun _ => true) (scoreBlindSyscallWindow
      sampleSyscallContext (sampleSyscallInput (some (text "crash"))) (fun _ => true)
      (fun _ _ _ => true) fun _ => ⟨none, none, text "unknown", none, none⟩) := by
  refine ⟨fun h => ?_, fun h => ?_, fun h => ?_⟩
  · have hevidenced := ((physicalScore_accepted_iff samplePhysical_codes).mp h).2
      (sampleOutcome_complete _ _)
    exact absurd hevidenced.2.2 (by decide)
  · have hevidenced := ((syscallScore_accepted_iff (sampleSyscall_codes none)).mp h).2.1
      (sampleOutcome_complete _ _)
    exact hevidenced.1 rfl
  · have hresolves := ((syscallScore_accepted_iff (sampleSyscall_codes _)).mp h).2.2
      (fun hcomplete => hcomplete.2.1 rfl) (fun hexcused => absurd hexcused.2 (by decide))
    exact absurd (hresolves _ rfl (by decide)) (by decide +kernel)

end TruthFingerprint.Evidence
