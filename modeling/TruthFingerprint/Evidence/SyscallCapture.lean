import Mathlib
import TruthFingerprint.Identity
import TruthFingerprint.Python.Timestamps

/-!
# Segments of captured syscalls

The validation of a raw capture segment compares its capture times as texts. It finds the times
invalid when the capture ends before it starts, and only then, exactly when the first character in
which the texts differ orders them as the instants are ordered (`timeInvalid_iff`).
-/

namespace TruthFingerprint.Evidence

open Python (readTimestamp ordersAlike)

structure QueueEvidence where
  queueIdentity : Text
  droppedCount : ℤ
  duplicateCount : ℤ
  gapCount : ℤ
  storageLagCount : ℤ
  outcome : Text

structure RawCaptureSegment where
  schemaVersion : Text
  segmentId : Text
  captureOrigin : Text
  rawSegmentUri : Text
  rawSegmentContentId : Text
  byteCount : ℤ
  eventCount : ℤ
  captureStartedAt : Text
  captureEndedAt : Text
  collectorIdentity : Text
  filterIdentity : Text
  hostOrVmIdentity : Text
  bootIdentity : Text
  kernelIdentity : Text
  architectureIdentity : Text
  workloadIdentity : Text
  containerOrCgroupIdentity : Text
  processScopeIdentity : Text
  experimentIdentity : Text
  runIdentity : Text
  edgeIdentity : Text
  sessionIdentity : Text
  correlationIdentity : Text
  sourceSequenceStart : ℤ
  sourceSequenceEnd : ℤ
  queueEvidence : QueueEvidence
  outcome : Text
  exclusionOrAbortReason : Option Text
  testOnly : Bool
  segmentContentId : Text
  authorizationEffect : Text

def rawCaptureSegmentVersion : Text := text "RawCaptureSegment.v1"

/-- The values of `CaptureOrigin` -/
def captureOrigins : List Text := [text "host_capture", text "fixture_replay"]

/-- The values of `SegmentOutcome` -/
def segmentOutcomes : List Text :=
  [text "complete", text "partial", text "failed", text "aborted"]

/-! ## The identity of a segment -/

def QueueEvidence.toDict (queue : QueueEvidence) : Python.Value Unit :=
  .obj [
    (text "queue_identity", .str queue.queueIdentity),
    (text "dropped_count", .num (.int queue.droppedCount)),
    (text "duplicate_count", .num (.int queue.duplicateCount)),
    (text "gap_count", .num (.int queue.gapCount)),
    (text "storage_lag_count", .num (.int queue.storageLagCount)),
    (text "outcome", .str queue.outcome)]

def RawCaptureSegment.toDict (segment : RawCaptureSegment) : Python.Value Unit :=
  .obj [
    (text "schema_version", .str segment.schemaVersion),
    (text "segment_id", .str segment.segmentId),
    (text "capture_origin", .str segment.captureOrigin),
    (text "raw_segment_uri", .str segment.rawSegmentUri),
    (text "raw_segment_content_id", .str segment.rawSegmentContentId),
    (text "byte_count", .num (.int segment.byteCount)),
    (text "event_count", .num (.int segment.eventCount)),
    (text "capture_started_at", .str segment.captureStartedAt),
    (text "capture_ended_at", .str segment.captureEndedAt),
    (text "collector_identity", .str segment.collectorIdentity),
    (text "filter_identity", .str segment.filterIdentity),
    (text "host_or_vm_identity", .str segment.hostOrVmIdentity),
    (text "boot_identity", .str segment.bootIdentity),
    (text "kernel_identity", .str segment.kernelIdentity),
    (text "architecture_identity", .str segment.architectureIdentity),
    (text "workload_identity", .str segment.workloadIdentity),
    (text "container_or_cgroup_identity", .str segment.containerOrCgroupIdentity),
    (text "process_scope_identity", .str segment.processScopeIdentity),
    (text "experiment_identity", .str segment.experimentIdentity),
    (text "run_identity", .str segment.runIdentity),
    (text "edge_identity", .str segment.edgeIdentity),
    (text "session_identity", .str segment.sessionIdentity),
    (text "correlation_identity", .str segment.correlationIdentity),
    (text "source_sequence_start", .num (.int segment.sourceSequenceStart)),
    (text "source_sequence_end", .num (.int segment.sourceSequenceEnd)),
    (text "queue_evidence", segment.queueEvidence.toDict),
    (text "outcome", .str segment.outcome),
    (text "exclusion_or_abort_reason", (segment.exclusionOrAbortReason.map .str).getD .null),
    (text "test_only", .bool segment.testOnly),
    (text "segment_content_id", .str segment.segmentContentId),
    (text "authorization_effect", .str segment.authorizationEffect)]

/-- `raw_capture_segment_content_id`, unless `dumps` raises -/
def rawCaptureSegmentContentId (segment : RawCaptureSegment) : Option Text :=
  let payload := { segment with segmentContentId := [], segmentId := [] }.toDict
  (Python.dumps (ε := Empty) payload).toOption.map sha256Id

/-! ## Validation -/

structure SyscallCaptureViolation where
  ruleId : Text
  field : Text
  detail : Text
deriving DecidableEq

structure SyscallCaptureValidation where
  allowed : Bool
  formalEligible : Bool
  violations : List SyscallCaptureViolation
  authorizationEffect : Text

/-- A violation unless the condition holds. -/
def captureCheck (ok : Bool) (rule field detail : String) : List SyscallCaptureViolation :=
  if ok then [] else [⟨text rule, text field, text detail⟩]

/-- `_timestamp` -/
def timestamp (value : Text) : Bool := (readTimestamp value).isSome

/-- `_identity_fields` -/
def identityFields (fields : List (String × Text)) (rule : String) :
    List SyscallCaptureViolation :=
  fields.flatMap fun field =>
    captureCheck (isImmutableId field.2) rule field.1 "exact_immutable_identity_required"

/-- `_queue` -/
def queueViolations (queue : QueueEvidence) : List SyscallCaptureViolation :=
  let values := [queue.droppedCount, queue.duplicateCount, queue.gapCount, queue.storageLagCount]
  captureCheck (isImmutableId queue.queueIdentity && values.all (0 ≤ ·) && !queue.outcome.isEmpty)
    "SEC1_QUEUE_EVIDENCE_INVALID" "queue_evidence"
    "resolved_queue_identity_nonnegative_counts_and_outcome_required"

/-- The identities that a segment names, under the names of their fields -/
def RawCaptureSegment.identities (segment : RawCaptureSegment) : List (String × Text) :=
  [("raw_segment_content_id", segment.rawSegmentContentId),
    ("collector_identity", segment.collectorIdentity),
    ("filter_identity", segment.filterIdentity),
    ("host_or_vm_identity", segment.hostOrVmIdentity), ("boot_identity", segment.bootIdentity),
    ("kernel_identity", segment.kernelIdentity),
    ("architecture_identity", segment.architectureIdentity),
    ("workload_identity", segment.workloadIdentity),
    ("container_or_cgroup_identity", segment.containerOrCgroupIdentity),
    ("process_scope_identity", segment.processScopeIdentity),
    ("experiment_identity", segment.experimentIdentity), ("run_identity", segment.runIdentity),
    ("edge_identity", segment.edgeIdentity), ("session_identity", segment.sessionIdentity),
    ("correlation_identity", segment.correlationIdentity)]

/-- The violations of a segment whose content has the identity `contentId` -/
def segmentViolations (segment : RawCaptureSegment) (contentId : Text) :
    List SyscallCaptureViolation :=
  captureCheck (segment.schemaVersion = rawCaptureSegmentVersion) "SEC1_SEGMENT_SCHEMA_INVALID"
    "schema_version" "exact_v1_schema_required" ++
  captureCheck (segment.captureOrigin ∈ captureOrigins) "SEC1_CAPTURE_ORIGIN_INVALID"
    "capture_origin" "closed_capture_origin_required" ++
  captureCheck (segment.authorizationEffect = text "none") "SEC1_AUTHORIZATION_EFFECT_INVALID"
    "authorization_effect" "contract_must_not_authorize" ++
  captureCheck (!(Python.strip segment.rawSegmentUri).isEmpty) "SEC1_RAW_URI_INVALID"
    "raw_segment_uri" "explicit_raw_object_uri_required" ++
  identityFields segment.identities "SEC1_SEGMENT_IDENTITY_INVALID" ++
  captureCheck (segment.segmentId = contentId && segment.segmentContentId = segment.segmentId)
    "SEC1_SEGMENT_CONTENT_ID_INVALID" "segment_id" "canonical_self_identity_required" ++
  captureCheck
    ([segment.byteCount, segment.eventCount, segment.sourceSequenceStart,
      segment.sourceSequenceEnd].all (0 ≤ ·) &&
      segment.sourceSequenceStart ≤ segment.sourceSequenceEnd)
    "SEC1_SEGMENT_COUNTS_INVALID" "byte_count"
    "nonnegative_counts_and_ordered_source_sequence_required" ++
  captureCheck
    (timestamp segment.captureStartedAt && timestamp segment.captureEndedAt &&
      !(segment.captureEndedAt < segment.captureStartedAt : Bool))
    "SEC1_SEGMENT_TIME_INVALID" "capture_started_at" "ordered_canonical_capture_times_required" ++
  queueViolations segment.queueEvidence ++
  captureCheck (segment.outcome ∈ segmentOutcomes) "SEC1_SEGMENT_OUTCOME_INVALID" "outcome"
    "closed_finalization_outcome_required" ++
  captureCheck (segment.outcome ≠ text "complete" || segment.exclusionOrAbortReason = none)
    "SEC1_SEGMENT_OUTCOME_REASON_INVALID" "exclusion_or_abort_reason"
    "complete_segment_must_not_declare_abort_reason" ++
  captureCheck
    (segment.outcome = text "complete" || !(segment.exclusionOrAbortReason.getD []).isEmpty)
    "SEC1_SEGMENT_OUTCOME_REASON_MISSING" "exclusion_or_abort_reason"
    "partial_failed_or_aborted_segment_requires_explicit_reason" ++
  captureCheck (!(segment.captureOrigin = text "host_capture" && segment.testOnly))
    "SEC1_HOST_CAPTURE_TEST_ONLY" "test_only" "host_capture_cannot_be_test_fixture" ++
  captureCheck (!(segment.captureOrigin = text "fixture_replay" && !segment.testOnly))
    "SEC1_FIXTURE_NOT_TEST_ONLY" "test_only" "fixture_replay_must_be_test_only"

/-- `validate_raw_capture_segment`, unless it raises -/
def validateRawCaptureSegment (segment : RawCaptureSegment) : Option SyscallCaptureValidation :=
  (rawCaptureSegmentContentId segment).map fun contentId =>
    let violations := segmentViolations segment contentId
    { allowed := violations.isEmpty
      formalEligible := violations.isEmpty && segment.captureOrigin = text "host_capture"
      violations
      authorizationEffect := text "none" }

/-! ## Capture times -/

/-- The capture times are found invalid. -/
def TimeInvalid (validation : SyscallCaptureValidation) : Prop :=
  text "SEC1_SEGMENT_TIME_INVALID" ∈ validation.violations.map (·.ruleId)

instance (validation : SyscallCaptureValidation) : Decidable (TimeInvalid validation) :=
  inferInstanceAs (Decidable (_ ∈ _))

theorem mem_captureCheck {ok : Bool} {rule field detail : String} {ruleId : Text} :
    ruleId ∈ (captureCheck ok rule field detail).map (·.ruleId) ↔ ¬ok ∧ ruleId = text rule := by
  cases ok <;> simp [captureCheck]

theorem mem_identityFields {fields : List (String × Text)} {rule : String} {ruleId : Text}
    (h : ruleId ∈ (identityFields fields rule).map (·.ruleId)) : ruleId = text rule := by
  rw [identityFields, List.map_flatMap, List.mem_flatMap] at h
  obtain ⟨field, -, hfield⟩ := h
  exact (mem_captureCheck.mp hfield).2

/-- The capture times are found invalid by their own check only. -/
theorem timeInvalid_iff_check {segment : RawCaptureSegment} {validation : SyscallCaptureValidation}
    (h : validateRawCaptureSegment segment = some validation) :
    TimeInvalid validation ↔ ¬(timestamp segment.captureStartedAt ∧
      timestamp segment.captureEndedAt ∧ ¬segment.captureEndedAt < segment.captureStartedAt) := by
  rw [validateRawCaptureSegment, Option.map_eq_some_iff] at h
  obtain ⟨contentId, -, rfl⟩ := h
  have hids : text "SEC1_SEGMENT_TIME_INVALID" ∉
      (identityFields segment.identities "SEC1_SEGMENT_IDENTITY_INVALID").map (·.ruleId) :=
    fun hmem => absurd (mem_identityFields hmem) (by decide)
  have hother : ∀ {ok : Bool} {rule field detail : String},
      text "SEC1_SEGMENT_TIME_INVALID" ≠ text rule →
      text "SEC1_SEGMENT_TIME_INVALID" ∉ (captureCheck ok rule field detail).map (·.ruleId) :=
    fun hne hmem => hne (mem_captureCheck.mp hmem).2
  simp (disch := decide) only [TimeInvalid, segmentViolations, queueViolations, List.map_append,
    List.mem_append, hids, hother, or_false, false_or]
  rw [mem_captureCheck, and_iff_left rfl]
  simp only [Bool.and_eq_true, Bool.not_eq_true', decide_eq_false_iff_not, and_assoc]

section Times

variable {segment : RawCaptureSegment} {validation : SyscallCaptureValidation}
  {started ended : Python.Reading}

theorem timeInvalid_iff_lt (h : validateRawCaptureSegment segment = some validation)
    (hstarted : readTimestamp segment.captureStartedAt = some started)
    (hended : readTimestamp segment.captureEndedAt = some ended) :
    TimeInvalid validation ↔ segment.captureEndedAt < segment.captureStartedAt := by
  have hread : timestamp segment.captureStartedAt ∧ timestamp segment.captureEndedAt := by
    simp [timestamp, hstarted, hended]
  rw [timeInvalid_iff_check h, and_iff_right hread.1, and_iff_right hread.2, not_not]

/-- The capture times are found invalid when the capture ends before it starts, and only then,
exactly when their texts differ first in a character that orders them as their instants are
ordered. -/
theorem timeInvalid_iff (h : validateRawCaptureSegment segment = some validation)
    (hstarted : readTimestamp segment.captureStartedAt = some started)
    (hended : readTimestamp segment.captureEndedAt = some ended) :
    (TimeInvalid validation ↔ ended.instant < started.instant) ↔
      ordersAlike segment.captureStartedAt segment.captureEndedAt := by
  rw [Python.ordersAlike_iff hstarted hended, timeInvalid_iff_lt h hstarted hended]

end Times

/-! ## A fraction of a second -/

/-- A segment that was captured between two times. -/
def sampleSegment (started ended : String) : RawCaptureSegment where
  schemaVersion := rawCaptureSegmentVersion
  segmentId := (sampleId 0).val
  captureOrigin := text "host_capture"
  rawSegmentUri := text "minio://raw"
  rawSegmentContentId := (sampleId 1).val
  byteCount := 1
  eventCount := 1
  captureStartedAt := text started
  captureEndedAt := text ended
  collectorIdentity := (sampleId 1).val
  filterIdentity := (sampleId 1).val
  hostOrVmIdentity := (sampleId 1).val
  bootIdentity := (sampleId 1).val
  kernelIdentity := (sampleId 1).val
  architectureIdentity := (sampleId 1).val
  workloadIdentity := (sampleId 1).val
  containerOrCgroupIdentity := (sampleId 1).val
  processScopeIdentity := (sampleId 1).val
  experimentIdentity := (sampleId 1).val
  runIdentity := (sampleId 1).val
  edgeIdentity := (sampleId 1).val
  sessionIdentity := (sampleId 1).val
  correlationIdentity := (sampleId 1).val
  sourceSequenceStart := 0
  sourceSequenceEnd := 1
  queueEvidence := ⟨(sampleId 1).val, 0, 0, 0, 0, text "ok"⟩
  outcome := text "complete"
  exclusionOrAbortReason := none
  testOnly := false
  segmentContentId := (sampleId 0).val
  authorizationEffect := text "none"

/-- A segment is validated when its content has an identity and its times are read. -/
theorem exists_validation (segment : RawCaptureSegment)
    (h : (rawCaptureSegmentContentId segment).isSome ∧
      (readTimestamp segment.captureStartedAt).isSome ∧
      (readTimestamp segment.captureEndedAt).isSome) :
    ∃ validation start finish, validateRawCaptureSegment segment = some validation ∧
      readTimestamp segment.captureStartedAt = some start ∧
      readTimestamp segment.captureEndedAt = some finish := by
  obtain ⟨hcontent, hstarted, hended⟩ := h
  have hsome : (validateRawCaptureSegment segment).isSome := by
    rw [validateRawCaptureSegment, Option.isSome_map]
    exact hcontent
  obtain ⟨validation, hvalidation⟩ := Option.isSome_iff_exists.mp hsome
  obtain ⟨start, hstart⟩ := Option.isSome_iff_exists.mp hstarted
  obtain ⟨finish, hfinish⟩ := Option.isSome_iff_exists.mp hended
  exact ⟨validation, start, finish, hvalidation, hstart, hfinish⟩

/-- A capture that ends in the second after its start. -/
theorem nextSecond_ordered : ∃ validation start finish,
    validateRawCaptureSegment (sampleSegment "2026-01-01T00:00:00.5Z" "2026-01-01T00:00:01Z") =
      some validation ∧
    readTimestamp (text "2026-01-01T00:00:00.5Z") = some start ∧
    readTimestamp (text "2026-01-01T00:00:01Z") = some finish ∧
    (TimeInvalid validation ↔ finish.instant < start.instant) := by
  obtain ⟨validation, start, finish, h, hstart, hfinish⟩ := exists_validation
    (sampleSegment "2026-01-01T00:00:00.5Z" "2026-01-01T00:00:01Z") (by decide +kernel)
  exact ⟨validation, start, finish, h, hstart, hfinish,
    (timeInvalid_iff h hstart hfinish).mpr (by decide +kernel)⟩

/-- A capture that ends half a second after its start, and is found to end before it. -/
theorem halfSecond_not_ordered : ∃ validation start finish,
    validateRawCaptureSegment (sampleSegment "2026-01-01T00:00:00Z" "2026-01-01T00:00:00.5Z") =
      some validation ∧
    readTimestamp (text "2026-01-01T00:00:00Z") = some start ∧
    readTimestamp (text "2026-01-01T00:00:00.5Z") = some finish ∧
    TimeInvalid validation ∧ ¬finish.instant < start.instant := by
  obtain ⟨validation, start, finish, h, hstart, hfinish⟩ := exists_validation
    (sampleSegment "2026-01-01T00:00:00Z" "2026-01-01T00:00:00.5Z") (by decide +kernel)
  have htext : (sampleSegment "2026-01-01T00:00:00Z" "2026-01-01T00:00:00.5Z").captureEndedAt <
      (sampleSegment "2026-01-01T00:00:00Z" "2026-01-01T00:00:00.5Z").captureStartedAt := by
    decide +kernel
  refine ⟨validation, start, finish, h, hstart, hfinish,
    (timeInvalid_iff_lt h hstart hfinish).mpr htext, fun hinstant => ?_⟩
  have halike := (Python.ordersAlike_iff hstart hfinish).mpr (iff_of_true htext hinstant)
  exact absurd halike (by decide +kernel)

end TruthFingerprint.Evidence
