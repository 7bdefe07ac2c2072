import Mathlib
import TruthFingerprint.Lib.DecimalText
import TruthFingerprint.Evidence.DetectorScores

/-!
# Post-truth evaluation of physical scores

The evaluation joins the frozen scores of a manifest to restricted truth, for the windows of a plan.
It counts the joins against the scores, each of which is then joined once. The windows of the plan
and the sensitivity outcomes are compared as sets only or not at all: a complete evaluation accounts
for the whole plan exactly when the plan has no window without a score and no outcome is repeated
(`accounted_iff`).
-/

namespace TruthFingerprint.Evidence

inductive TruthState where
  | normal
  | anomalous
  | unavailable
deriving DecidableEq

def TruthState.value : TruthState → Text
  | .normal => text "normal"
  | .anomalous => text "anomalous"
  | .unavailable => text "unavailable"

inductive MetricApplicability where
  | applicable
  | inapplicable
deriving DecidableEq

def MetricApplicability.value : MetricApplicability → Text
  | .applicable => text "applicable"
  | .inapplicable => text "inapplicable"

inductive EvaluationDisposition where
  | complete
  | incomplete
  | blocked
  | invalid
deriving DecidableEq

def EvaluationDisposition.value : EvaluationDisposition → Text
  | .complete => text "complete"
  | .incomplete => text "incomplete"
  | .blocked => text "blocked"
  | .invalid => text "invalid"

/-! ## The records -/

structure FrozenEvaluationWindow where
  windowId : Text
  experimentId : Text
  runId : Text
  eventId : Text
  correlationId : Text
deriving DecidableEq

structure PhysicalEvaluationPlan where
  schemaVersion : Text
  scoreManifestId : Text
  bundleId : Text
  thresholdId : Text
  partitionId : Text
  metricPolicyId : Text
  experimentId : Text
  truthUnlockId : Text
  evaluatorAuthorizationId : Text
  windows : List FrozenEvaluationWindow
  plannedStratumIds : List Text
  plannedSensitivityThresholdIds : List Text
  planId : Text
  authorizationEffect : Text

structure RestrictedTruthJoin where
  scoreId : Text
  windowId : Text
  experimentId : Text
  runId : Text
  eventId : Text
  correlationId : Text
  truthRecordId : Text
  truthState : Text
  regimeId : Text
  transitionId : Text
  scenarioId : Text
  severityId : Text
  sensorId : Text
  repetitionId : Text
  recoveryId : Text
  qualityStateId : Text
  stratumIds : List Text

structure MetricDeclaration where
  metricId : Text
  metricKind : Text
  applicability : Text
  inapplicableReasonId : Option Text

structure EvaluationMetric where
  metricId : Text
  metricKind : Text
  applicability : Text
  value : Option Text
  support : Nat
  inapplicableReasonId : Option Text
  stratumId : Option Text

structure SensitivityOutcome where
  thresholdId : Text
  scoreId : Text
  decision : Text

structure PhysicalPostTruthEvaluation where
  schemaVersion : Text
  planId : Text
  scoreManifestId : Text
  primaryThresholdId : Text
  joins : List RestrictedTruthJoin
  metrics : List EvaluationMetric
  sensitivityOutcomes : List SensitivityOutcome
  resourceEvidenceIds : List Text
  qualityEvidenceIds : List Text
  limitationIds : List Text
  disposition : EvaluationDisposition
  diagnosticCodes : List Text
  evaluationId : Text
  authorizationEffect : Text

open Document (optional texts record)

def FrozenEvaluationWindow.toDict (window : FrozenEvaluationWindow) : Document :=
  record [("window_id", .str window.windowId), ("experiment_id", .str window.experimentId),
    ("run_id", .str window.runId), ("event_id", .str window.eventId),
    ("correlation_id", .str window.correlationId)]

def PhysicalEvaluationPlan.toDict (plan : PhysicalEvaluationPlan) : Document :=
  record [("schema_version", .str plan.schemaVersion),
    ("score_manifest_id", .str plan.scoreManifestId), ("bundle_id", .str plan.bundleId),
    ("threshold_id", .str plan.thresholdId), ("partition_id", .str plan.partitionId),
    ("metric_policy_id", .str plan.metricPolicyId), ("experiment_id", .str plan.experimentId),
    ("truth_unlock_id", .str plan.truthUnlockId),
    ("evaluator_authorization_id", .str plan.evaluatorAuthorizationId),
    ("windows", .arr (plan.windows.map FrozenEvaluationWindow.toDict)),
    ("planned_stratum_ids", texts plan.plannedStratumIds),
    ("planned_sensitivity_threshold_ids", texts plan.plannedSensitivityThresholdIds),
    ("plan_id", .str plan.planId), ("authorization_effect", .str plan.authorizationEffect)]

def RestrictedTruthJoin.toDict (join : RestrictedTruthJoin) : Document :=
  record [("score_id", .str join.scoreId), ("window_id", .str join.windowId),
    ("experiment_id", .str join.experimentId), ("run_id", .str join.runId),
    ("event_id", .str join.eventId), ("correlation_id", .str join.correlationId),
    ("truth_record_id", .str join.truthRecordId), ("truth_state", .str join.truthState),
    ("regime_id", .str join.regimeId), ("transition_id", .str join.transitionId),
    ("scenario_id", .str join.scenarioId), ("severity_id", .str join.severityId),
    ("sensor_id", .str join.sensorId), ("repetition_id", .str join.repetitionId),
    ("recovery_id", .str join.recoveryId), ("quality_state_id", .str join.qualityStateId),
    ("stratum_ids", texts join.stratumIds)]

def EvaluationMetric.toDict (metric : EvaluationMetric) : Document :=
  record [("metric_id", .str metric.metricId), ("metric_kind", .str metric.metricKind),
    ("applicability", .str metric.applicability), ("value", optional metric.value),
    ("support", .num (.int metric.support)),
    ("inapplicable_reason_id", optional metric.inapplicableReasonId),
    ("stratum_id", optional metric.stratumId)]

def SensitivityOutcome.toDict (outcome : SensitivityOutcome) : Document :=
  record [("threshold_id", .str outcome.thresholdId), ("score_id", .str outcome.scoreId),
    ("decision", .str outcome.decision)]

def PhysicalPostTruthEvaluation.toDict (evaluation : PhysicalPostTruthEvaluation) : Document :=
  record [("schema_version", .str evaluation.schemaVersion), ("plan_id", .str evaluation.planId),
    ("score_manifest_id", .str evaluation.scoreManifestId),
    ("primary_threshold_id", .str evaluation.primaryThresholdId),
    ("joins", .arr (evaluation.joins.map RestrictedTruthJoin.toDict)),
    ("metrics", .arr (evaluation.metrics.map EvaluationMetric.toDict)),
    ("sensitivity_outcomes",
      .arr (evaluation.sensitivityOutcomes.map SensitivityOutcome.toDict)),
    ("resource_evidence_ids", texts evaluation.resourceEvidenceIds),
    ("quality_evidence_ids", texts evaluation.qualityEvidenceIds),
    ("limitation_ids", texts evaluation.limitationIds),
    ("disposition", .str evaluation.disposition.value),
    ("diagnostic_codes", texts evaluation.diagnosticCodes),
    ("evaluation_id", .str evaluation.evaluationId),
    ("authorization_effect", .str evaluation.authorizationEffect)]

/-- The canonical text ends with a newline. -/
def evaluationRecordId (document : Document) : Text :=
  sha256Id (Python.canonicalText document ++ text "\n")

def physicalEvaluationPlanIdentity (plan : PhysicalEvaluationPlan) : Text :=
  evaluationRecordId { plan with planId := [] }.toDict

def finalizePhysicalEvaluationPlan (plan : PhysicalEvaluationPlan) : PhysicalEvaluationPlan :=
  { plan with planId := physicalEvaluationPlanIdentity { plan with planId := [] } }

/-- `tuple(sorted(set(...)))` -/
def sortedSet (ts : List Text) : List Text := ts.dedup.insertionSort (· ≤ ·)

theorem mem_sortedSet {t : Text} {ts : List Text} : t ∈ sortedSet ts ↔ t ∈ ts := by
  rw [sortedSet, (List.perm_insertionSort _ _).mem_iff, List.mem_dedup]

theorem sortedSet_eq_nil {ts : List Text} : sortedSet ts = [] ↔ ts = [] := by
  rw [sortedSet, ← List.length_eq_zero_iff, List.length_insertionSort, List.length_eq_zero_iff,
    List.dedup_eq_nil]

/-- `__post_init__` -/
def PhysicalPostTruthEvaluation.normalize (evaluation : PhysicalPostTruthEvaluation) :
    PhysicalPostTruthEvaluation :=
  { evaluation with
    joins := evaluation.joins.insertionSort (·.scoreId ≤ ·.scoreId)
    metrics := evaluation.metrics.insertionSort fun x y =>
      toLex (x.metricId, x.stratumId.getD []) ≤ toLex (y.metricId, y.stratumId.getD [])
    sensitivityOutcomes := evaluation.sensitivityOutcomes.insertionSort fun x y =>
      toLex (x.thresholdId, x.scoreId) ≤ toLex (y.thresholdId, y.scoreId)
    resourceEvidenceIds := sortedSet evaluation.resourceEvidenceIds
    qualityEvidenceIds := sortedSet evaluation.qualityEvidenceIds
    limitationIds := sortedSet evaluation.limitationIds
    diagnosticCodes := sortedSet evaluation.diagnosticCodes }

def finalizePhysicalPostTruthEvaluation (evaluation : PhysicalPostTruthEvaluation) :
    PhysicalPostTruthEvaluation :=
  { evaluation with
    evaluationId := evaluationRecordId { evaluation with evaluationId := [] }.toDict }

/-! ## The plan -/

/-- `authorization_validator` -/
abbrev AuthorizationValidator := Text → Text → Text → Bool

def PhysicalEvaluationPlan.references (plan : PhysicalEvaluationPlan) : List Text :=
  [plan.scoreManifestId, plan.bundleId, plan.thresholdId, plan.partitionId, plan.metricPolicyId,
    plan.experimentId, plan.truthUnlockId, plan.evaluatorAuthorizationId] ++
    plan.plannedStratumIds ++ plan.plannedSensitivityThresholdIds

def validatePhysicalEvaluationPlan (plan : PhysicalEvaluationPlan) (resolver : ImmutableResolver)
    (authorized : AuthorizationValidator) : CodeValidation :=
  codesResult <|
    check (plan.schemaVersion = text "PhysicalPostTruthEvaluation.v1")
      "PPE13_PLAN_SCHEMA_UNSUPPORTED" ++
    check (plan.authorizationEffect = text "none") "PPE13_PLAN_AUTHORIZATION_EFFECT_FORBIDDEN" ++
    check (plan.references.all (immutable resolver)) "PPE13_PLAN_REFERENCE_UNRESOLVED" ++
    check (!plan.windows.isEmpty && decide (plan.windows.map (·.windowId)).Nodup)
      "PPE13_WINDOW_INVENTORY_INVALID" ++
    plan.windows.flatMap (fun window =>
      check (window.experimentId = plan.experimentId &&
        [window.windowId, window.experimentId, window.runId, window.eventId,
          window.correlationId].all (immutable resolver)) "PPE13_WINDOW_PROVENANCE_INVALID") ++
    check (plan.planId = physicalEvaluationPlanIdentity plan) "PPE13_PLAN_IMMUTABILITY_INVALID" ++
    check (authorized (text "post_truth_physical_evaluation") plan.evaluatorAuthorizationId
      plan.truthUnlockId) "PPE13_AUTHORIZATION_DENIED"

/-! ## Metrics -/

/-- The scores by their identity, `{item.score_id: item for item in manifest.scores}` -/
def scoreOf (manifest : PhysicalScoreManifest) (scoreId : Text) : Option DetectorScore :=
  manifest.scores.reverse.find? (·.scoreId = scoreId)

def windowOf (plan : PhysicalEvaluationPlan) (windowId : Text) : Option FrozenEvaluationWindow :=
  plan.windows.reverse.find? (·.windowId = windowId)

/-- The classes of the joins that `_scoped_metrics` counts -/
structure Counts where
  tp : Nat
  fp : Nat
  tn : Nat
  fn : Nat
  unavailable : Nat
  detectedEvents : List Text
  anomalousEvents : List Text
  falseEvents : List Text

def Counts.zero : Counts := ⟨0, 0, 0, 0, 0, [], [], []⟩

def Counts.add (decision : Text) (counts : Counts) (join : RestrictedTruthJoin) : Counts :=
  if join.truthState = TruthState.unavailable.value ∨
      decision ∉ [ScoreDecision.normal.value, ScoreDecision.anomalous.value] then
    { counts with unavailable := counts.unavailable + 1 }
  else
    let anomaly := decision = ScoreDecision.anomalous.value
    let expected := join.truthState = TruthState.anomalous.value
    let counts :=
      if expected then { counts with anomalousEvents := join.eventId :: counts.anomalousEvents }
      else counts
    if anomaly ∧ expected then
      { counts with tp := counts.tp + 1, detectedEvents := join.eventId :: counts.detectedEvents }
    else if anomaly then
      { counts with fp := counts.fp + 1, falseEvents := join.eventId :: counts.falseEvents }
    else if expected then { counts with fn := counts.fn + 1 }
    else { counts with tn := counts.tn + 1 }

def Counts.classified (counts : Counts) : Nat := counts.tp + counts.fp + counts.tn + counts.fn

/-- The text of a quotient of integers, `str(numerator / denominator)`, is a parameter. -/
abbrev Quotient := Nat → Nat → Text

def ratio (quotient : Quotient) (numerator denominator : Nat) : Option Text :=
  if denominator = 0 then none else some (quotient numerator denominator)

def Counts.values (quotient : Quotient) (counts : Counts) : List (Text × Option Text) :=
  let number (n : Nat) : Option Text := some (DecimalText.natText n)
  let anomalous := counts.anomalousEvents.dedup.length
  [(text "precision", ratio quotient counts.tp (counts.tp + counts.fp)),
    (text "recall", ratio quotient counts.tp (counts.tp + counts.fn)),
    (text "f1", ratio quotient (2 * counts.tp) (2 * counts.tp + counts.fp + counts.fn)),
    (text "false_positive_count", number counts.fp),
    (text "false_events", number counts.falseEvents.dedup.length),
    (text "confusion_tp", number counts.tp), (text "confusion_fp", number counts.fp),
    (text "confusion_tn", number counts.tn), (text "confusion_fn", number counts.fn),
    (text "classified_count", number counts.classified),
    (text "unavailable_count", number counts.unavailable),
    (text "event_recall", ratio quotient counts.detectedEvents.dedup.length anomalous),
    (text "event_support", number anomalous)]

/-- `_KINDS` -/
def metricKinds : List Text :=
  (Counts.zero.values fun _ _ => []).map Prod.fst

def scopedMetric (quotient : Quotient) (counts : Counts) (stratumId : Option Text)
    (declaration : MetricDeclaration) : EvaluationMetric :=
  if declaration.applicability = MetricApplicability.inapplicable.value then
    ⟨declaration.metricId, declaration.metricKind, declaration.applicability, none, 0,
      declaration.inapplicableReasonId, stratumId⟩
  else
    let value := ((counts.values quotient).lookup declaration.metricKind).join
    let applicability :=
      if value.isSome then MetricApplicability.applicable else .inapplicable
    let support :=
      if declaration.metricKind ∈ [text "event_recall", text "event_support"] then
        counts.anomalousEvents.dedup.length
      else counts.classified
    ⟨declaration.metricId, declaration.metricKind, applicability.value, value, support,
      if value.isSome then none else declaration.inapplicableReasonId, stratumId⟩

/-- `_scoped_metrics`. The evaluation has found a score for each join. -/
def scopedMetrics (quotient : Quotient) (declarations : List MetricDeclaration)
    (manifest : PhysicalScoreManifest) (joins : List RestrictedTruthJoin)
    (stratumId : Option Text) : List EvaluationMetric :=
  let decision (join : RestrictedTruthJoin) : Text :=
    ((scoreOf manifest join.scoreId).map (·.decision)).getD []
  let counts := joins.foldl (fun counts join => counts.add (decision join) join) Counts.zero
  declarations.map (scopedMetric quotient counts stratumId)

/-- `_metrics` -/
def metrics (quotient : Quotient) (declarations : List MetricDeclaration)
    (manifest : PhysicalScoreManifest) (joins : List RestrictedTruthJoin)
    (plannedStrata : List Text) : List EvaluationMetric :=
  scopedMetrics quotient declarations manifest joins none ++
    plannedStrata.flatMap fun stratumId =>
      scopedMetrics quotient declarations manifest (joins.filter (stratumId ∈ ·.stratumIds))
        (some stratumId)

/-! ## The evaluation -/

/-- What an evaluation is given besides the plan and the manifest. -/
structure EvaluationInput where
  joins : List RestrictedTruthJoin
  metricDeclarations : List MetricDeclaration
  sensitivityOutcomes : List SensitivityOutcome
  resourceEvidenceIds : List Text
  qualityEvidenceIds : List Text
  limitationIds : List Text

def RestrictedTruthJoin.references (join : RestrictedTruthJoin) : List Text :=
  [join.scoreId, join.windowId, join.experimentId, join.runId, join.eventId, join.correlationId,
    join.truthRecordId, join.regimeId, join.transitionId, join.scenarioId, join.severityId,
    join.sensorId, join.repetitionId, join.recoveryId, join.qualityStateId] ++ join.stratumIds

/-- The score and the window that a join names exist, and they and the join agree. -/
def joinMatches (plan : PhysicalEvaluationPlan) (manifest : PhysicalScoreManifest)
    (join : RestrictedTruthJoin) : Bool :=
  match scoreOf manifest join.scoreId, windowOf plan join.windowId with
  | some score, some window =>
    score.windowId = join.windowId && score.runCorrelationId = join.correlationId &&
      window.experimentId = join.experimentId && window.runId = join.runId &&
      window.eventId = join.eventId && window.correlationId = join.correlationId
  | _, _ => false

def joinCodes (plan : PhysicalEvaluationPlan) (manifest : PhysicalScoreManifest)
    (resolver : ImmutableResolver) (join : RestrictedTruthJoin) : List Text :=
  check (join.references.all (immutable resolver)) "PPE13_TRUTH_JOIN_REFERENCE_UNRESOLVED" ++
  check (joinMatches plan manifest join) "PPE13_TRUTH_JOIN_IDENTITY_MISMATCH" ++
  check (join.truthState ∈ [TruthState.normal.value, TruthState.anomalous.value,
    TruthState.unavailable.value]) "PPE13_TRUTH_STATE_INVALID" ++
  check (join.stratumIds.all (· ∈ plan.plannedStratumIds)) "PPE13_UNDECLARED_STRATUM"

def declarationValid (resolver : ImmutableResolver) (declaration : MetricDeclaration) : Bool :=
  immutable resolver declaration.metricId && declaration.metricKind ∈ metricKinds &&
    declaration.applicability ∈ [MetricApplicability.applicable.value,
      MetricApplicability.inapplicable.value] &&
    (declaration.applicability ≠ MetricApplicability.inapplicable.value ||
      resolves resolver declaration.inapplicableReasonId)

def sensitivityDecisions : List Text :=
  [ScoreDecision.normal.value, ScoreDecision.anomalous.value, ScoreDecision.unavailable.value,
    ScoreDecision.invalid.value]

/-- The identities of the scores, the keys of `scores` -/
def scoreIds (manifest : PhysicalScoreManifest) : Finset Text :=
  (manifest.scores.map (·.scoreId)).toFinset

def sensitivityValid (plan : PhysicalEvaluationPlan) (manifest : PhysicalScoreManifest)
    (outcomes : List SensitivityOutcome) : Bool :=
  (outcomes.map fun outcome => (outcome.thresholdId, outcome.scoreId)).toFinset =
    plan.plannedSensitivityThresholdIds.toFinset ×ˢ scoreIds manifest &&
  outcomes.all fun outcome => outcome.thresholdId ∈ plan.plannedSensitivityThresholdIds &&
    outcome.scoreId ∈ scoreIds manifest && outcome.decision ∈ sensitivityDecisions

/-- `codes`, everything that the evaluation finds -/
def evaluationCodes (plan : PhysicalEvaluationPlan) (manifest : PhysicalScoreManifest)
    (input : EvaluationInput) (resolver : ImmutableResolver) (authorized : AuthorizationValidator) :
    List Text :=
  (validatePhysicalEvaluationPlan plan resolver authorized).diagnosticCodes ++
  (validatePhysicalScoreManifest manifest resolver).diagnosticCodes.map (text "PPE13_" ++ ·) ++
  check (manifest.manifestId = plan.scoreManifestId && manifest.bundleId = plan.bundleId &&
    manifest.partitionId = plan.partitionId) "PPE13_MANIFEST_PLAN_BINDING_MISMATCH" ++
  check (input.joins.length = (scoreIds manifest).card &&
    (input.joins.map (·.scoreId)).toFinset = scoreIds manifest)
    "PPE13_TRUTH_JOIN_CLOSURE_INCOMPLETE" ++
  input.joins.flatMap (joinCodes plan manifest resolver) ++
  check (decide (input.metricDeclarations.map (·.metricId)).Nodup &&
    !input.metricDeclarations.isEmpty) "PPE13_METRIC_POLICY_INVALID" ++
  input.metricDeclarations.flatMap (fun declaration =>
    check (declarationValid resolver declaration) "PPE13_METRIC_DECLARATION_INVALID") ++
  check ((input.resourceEvidenceIds ++ input.qualityEvidenceIds ++ input.limitationIds).all
    (immutable resolver)) "PPE13_EVIDENCE_REFERENCE_UNRESOLVED" ++
  check (sensitivityValid plan manifest input.sensitivityOutcomes) "PPE13_SENSITIVITY_INVALID"

def evaluateFrozenPhysicalScores (quotient : Quotient) (plan : PhysicalEvaluationPlan)
    (manifest : PhysicalScoreManifest) (input : EvaluationInput) (resolver : ImmutableResolver)
    (authorized : AuthorizationValidator) : PhysicalPostTruthEvaluation :=
  let codes := evaluationCodes plan manifest input resolver authorized
  let report (results : List EvaluationMetric) (disposition : EvaluationDisposition) :=
    finalizePhysicalPostTruthEvaluation <| PhysicalPostTruthEvaluation.normalize
      ⟨text "PhysicalPostTruthEvaluation.v1", plan.planId, plan.scoreManifestId, plan.thresholdId,
        input.joins, results, input.sensitivityOutcomes, input.resourceEvidenceIds,
        input.qualityEvidenceIds, input.limitationIds, disposition, codes, [], text "none"⟩
  if codes ≠ [] then report [] .invalid
  else report (metrics quotient input.metricDeclarations manifest input.joins
    plan.plannedStratumIds) .complete

/-! ## What a complete evaluation accounts for -/

/-- Each window of the plan is joined once, each score of the manifest is joined once, and each pair
of a planned threshold and a score is decided once. -/
structure Accounted (plan : PhysicalEvaluationPlan) (manifest : PhysicalScoreManifest)
    (input : EvaluationInput) : Prop where
  windows : ∀ window ∈ plan.windows, (input.joins.map (·.windowId)).count window.windowId = 1
  scores : ∀ score ∈ manifest.scores,
    (input.joins.map fun join => (join.scoreId, join.windowId)).count
      (score.scoreId, score.windowId) = 1
  sensitivity : ∀ thresholdId ∈ plan.plannedSensitivityThresholdIds, ∀ score ∈ manifest.scores,
    (input.sensitivityOutcomes.map fun outcome => (outcome.thresholdId, outcome.scoreId)).count
      (thresholdId, score.scoreId) = 1

/-- Each window of the plan is scored, the scores have different identities, and no outcome is
repeated. -/
structure WithoutGaps (plan : PhysicalEvaluationPlan) (manifest : PhysicalScoreManifest)
    (input : EvaluationInput) : Prop where
  scored : ∀ window ∈ plan.windows, ∃ score ∈ manifest.scores, score.windowId = window.windowId
  distinct : (manifest.scores.map (·.scoreId)).Nodup
  once : (input.sensitivityOutcomes.map fun outcome =>
    (outcome.thresholdId, outcome.scoreId)).Nodup

/-- What the evaluation has established when it completes. -/
structure Completed (plan : PhysicalEvaluationPlan) (manifest : PhysicalScoreManifest)
    (input : EvaluationInput) : Prop where
  windows : (manifest.scores.map (·.windowId)).Nodup
  joins : (input.joins.map (·.scoreId)).Nodup
  joined : (input.joins.map (·.scoreId)).toFinset = scoreIds manifest
  agree : ∀ join ∈ input.joins, ∃ score ∈ manifest.scores, score.scoreId = join.scoreId ∧
    score.windowId = join.windowId
  decided : (input.sensitivityOutcomes.map fun outcome =>
    (outcome.thresholdId, outcome.scoreId)).toFinset =
      plan.plannedSensitivityThresholdIds.toFinset ×ˢ scoreIds manifest

section Completed

variable {plan : PhysicalEvaluationPlan} {manifest : PhysicalScoreManifest}
  {input : EvaluationInput} {resolver : ImmutableResolver} {authorized : AuthorizationValidator}
  {quotient : Quotient}

theorem codes_of_complete
    (h : (evaluateFrozenPhysicalScores quotient plan manifest input resolver
      authorized).disposition = .complete) :
    evaluationCodes plan manifest input resolver authorized = [] := by
  by_contra hcodes
  rw [evaluateFrozenPhysicalScores, if_pos hcodes] at h
  cases h

theorem score_of_joinMatches {join : RestrictedTruthJoin} (h : joinMatches plan manifest join) :
    ∃ score ∈ manifest.scores, score.scoreId = join.scoreId ∧ score.windowId = join.windowId := by
  rw [joinMatches] at h
  split at h
  · rename_i score window hscore hwindow
    simp only [Bool.and_eq_true, decide_eq_true_eq] at h
    obtain ⟨⟨⟨⟨⟨hwindowId, -⟩, -⟩, -⟩, -⟩, -⟩ := h
    have hid := List.find?_some hscore
    have hmem := List.mem_of_find?_eq_some hscore
    exact ⟨score, List.mem_reverse.mp hmem, of_decide_eq_true hid, hwindowId⟩
  · cases h

theorem completed_of_codes (h : evaluationCodes plan manifest input resolver authorized = []) :
    Completed plan manifest input := by
  rw [evaluationCodes] at h
  simp only [List.append_eq_nil_iff, check_eq_nil, List.map_eq_nil_iff, List.flatMap_eq_nil_iff,
    Bool.and_eq_true, decide_eq_true_eq] at h
  obtain ⟨⟨⟨⟨⟨⟨⟨⟨-, hmanifest⟩, -⟩, hlength, hjoined⟩, hjoins⟩, -⟩, -⟩, -⟩, hsensitivity⟩ := h
  refine ⟨nodup_windows_of_accepted hmanifest, ?_, hjoined, ?_, ?_⟩
  · apply List.dedup_eq_self.mp
    apply (List.dedup_sublist _).eq_of_length
    rw [← List.card_toFinset, hjoined, List.length_map, hlength]
  · intro join hjoin
    have hcodes := hjoins join hjoin
    simp only [joinCodes, List.append_eq_nil_iff, check_eq_nil] at hcodes
    obtain ⟨⟨⟨-, hmatches⟩, -⟩, -⟩ := hcodes
    exact score_of_joinMatches hmatches
  · rw [sensitivityValid, Bool.and_eq_true, decide_eq_true_eq] at hsensitivity
    exact hsensitivity.1

namespace Completed

/-- Each score is named by a join. -/
theorem exists_join (h : Completed plan manifest input) {score : DetectorScore}
    (hscore : score ∈ manifest.scores) : ∃ join ∈ input.joins, join.scoreId = score.scoreId := by
  have hid : score.scoreId ∈ scoreIds manifest :=
    List.mem_toFinset.mpr (List.mem_map_of_mem hscore)
  rw [← h.joined, List.mem_toFinset, List.mem_map] at hid
  exact hid

/-- Where the scores have different identities, the join that names a score has its window. -/
theorem exists_join_window (h : Completed plan manifest input)
    (hdistinct : (manifest.scores.map (·.scoreId)).Nodup) {score : DetectorScore}
    (hscore : score ∈ manifest.scores) :
    ∃ join ∈ input.joins, join.scoreId = score.scoreId ∧ join.windowId = score.windowId := by
  obtain ⟨join, hjoin, hid⟩ := h.exists_join hscore
  obtain ⟨score', hscore', hid', hwindow⟩ := h.agree join hjoin
  have heq : score' = score :=
    List.inj_on_of_nodup_map hdistinct hscore' hscore (hid'.trans hid)
  exact ⟨join, hjoin, hid, heq ▸ hwindow.symm⟩

/-- No two joins name one window. -/
theorem nodup_joinWindows (h : Completed plan manifest input) :
    (input.joins.map (·.windowId)).Nodup := by
  rw [List.Nodup, List.pairwise_map]
  refine List.Pairwise.imp_of_mem ?_ (List.pairwise_map.mp h.joins)
  intro join join' hjoin hjoin' hne hwindow
  obtain ⟨score, hscore, hid, hscoreWindow⟩ := h.agree join hjoin
  obtain ⟨score', hscore', hid', hscoreWindow'⟩ := h.agree join' hjoin'
  have heq : score = score' := List.inj_on_of_nodup_map h.windows hscore hscore'
    (hscoreWindow.trans (hwindow.trans hscoreWindow'.symm))
  exact hne (hid.symm.trans ((congrArg _ heq).trans hid'))

theorem accounted (h : Completed plan manifest input) (hgaps : WithoutGaps plan manifest input) :
    Accounted plan manifest input := by
  refine ⟨fun window hwindow => ?_, fun score hscore => ?_,
    fun thresholdId hthreshold score hscore => ?_⟩
  · obtain ⟨score, hscore, hwindowId⟩ := hgaps.scored window hwindow
    obtain ⟨join, hjoin, -, hjoinWindow⟩ := h.exists_join_window hgaps.distinct hscore
    apply List.count_eq_one_of_mem h.nodup_joinWindows
    exact List.mem_map.mpr ⟨join, hjoin, hjoinWindow.trans hwindowId⟩
  · obtain ⟨join, hjoin, hid, hwindowId⟩ := h.exists_join_window hgaps.distinct hscore
    apply List.count_eq_one_of_mem
    · apply List.Nodup.of_map Prod.fst
      rw [List.map_map]
      exact h.joins
    · exact List.mem_map.mpr ⟨join, hjoin, Prod.ext hid hwindowId⟩
  · apply List.count_eq_one_of_mem hgaps.once
    rw [← List.mem_toFinset, h.decided, Finset.mem_product]
    exact ⟨List.mem_toFinset.mpr hthreshold, List.mem_toFinset.mpr (List.mem_map_of_mem hscore)⟩

theorem withoutGaps (h : Completed plan manifest input)
    (haccounted : Accounted plan manifest input) : WithoutGaps plan manifest input := by
  refine ⟨fun window hwindow => ?_, ?_, ?_⟩
  · have hcount := haccounted.windows window hwindow
    obtain ⟨join, hjoin, hwindowId⟩ :=
      List.mem_map.mp (List.count_pos_iff.mp (hcount ▸ Nat.one_pos))
    obtain ⟨score, hscore, -, hscoreWindow⟩ := h.agree join hjoin
    exact ⟨score, hscore, hscoreWindow.trans hwindowId⟩
  · rw [List.Nodup, List.pairwise_map]
    refine List.Pairwise.imp_of_mem ?_ (List.pairwise_map.mp h.windows)
    intro score score' hscore hscore' hne hid
    -- Two scores of one identity are named by one join, which has one window.
    obtain ⟨join, hjoin, heq⟩ := List.mem_map.mp
      (List.count_pos_iff.mp (haccounted.scores score hscore ▸ Nat.one_pos))
    obtain ⟨join', hjoin', heq'⟩ := List.mem_map.mp
      (List.count_pos_iff.mp (haccounted.scores score' hscore' ▸ Nat.one_pos))
    obtain ⟨hjoinId, hjoinWindow⟩ := Prod.mk.inj heq
    obtain ⟨hjoinId', hjoinWindow'⟩ := Prod.mk.inj heq'
    have hjoins : join = join' := List.inj_on_of_nodup_map h.joins hjoin hjoin'
      (hjoinId.trans (hid.trans hjoinId'.symm))
    exact hne (hjoinWindow.symm.trans ((congrArg _ hjoins).trans hjoinWindow'))
  · rw [List.nodup_iff_count_eq_one]
    intro pair hpair
    rw [← List.mem_toFinset, h.decided, Finset.mem_product, List.mem_toFinset, scoreIds,
      List.mem_toFinset, List.mem_map] at hpair
    obtain ⟨hthreshold, score, hscore, hid⟩ := hpair
    have hcount := haccounted.sensitivity pair.1 hthreshold score hscore
    rwa [hid] at hcount

end Completed

/-- A complete evaluation accounts for the whole plan exactly when it leaves no gap. -/
theorem accounted_iff
    (h : (evaluateFrozenPhysicalScores quotient plan manifest input resolver
      authorized).disposition = .complete) :
    Accounted plan manifest input ↔ WithoutGaps plan manifest input := by
  have hcompleted := completed_of_codes (codes_of_complete h)
  exact ⟨hcompleted.withoutGaps, hcompleted.accounted⟩

end Completed

/-! ## A plan with a window that is not scored -/

def sampleScore : DetectorScore :=
  finalizeDetectorScore ⟨text "DetectorScore.v1", (sampleId 1).val, (sampleId 2).val,
    (sampleId 3).val, some (text "0.8"), some (text "0.8"), text "higher_anomalous",
    (sampleId 4).val, ScoreDecision.anomalous.value, some (sampleId 5).val, (sampleId 6).val,
    (sampleId 7).val, (sampleId 8).val, (sampleId 9).val, (sampleId 10).val, (sampleId 11).val,
    none, [], text "none"⟩

/-- The score of window 2. -/
def sampleManifest : PhysicalScoreManifest :=
  finalizeScoreManifest physicalContract ⟨text "PhysicalScoreManifest.v1", (sampleId 1).val,
    (sampleId 12).val, [(sampleId 2).val], [sampleScore], [(sampleId 13).val], [],
    (sampleId 10).val, (sampleId 11).val, [], text "none"⟩

def sampleWindow (n : Fin 16) : FrozenEvaluationWindow :=
  ⟨(sampleId n).val, (sampleId 15).val, (sampleId 13).val, (sampleId 14).val, (sampleId 9).val⟩

def samplePlan (windows : List (Fin 16)) : PhysicalEvaluationPlan :=
  finalizePhysicalEvaluationPlan ⟨text "PhysicalPostTruthEvaluation.v1", sampleManifest.manifestId,
    (sampleId 1).val, (sampleId 4).val, (sampleId 12).val, (sampleId 14).val, (sampleId 15).val,
    (sampleId 0).val, (sampleId 0).val, windows.map sampleWindow, [], [(sampleId 4).val], [],
    text "none"⟩

/-- The join of window 2. -/
def sampleJoin : RestrictedTruthJoin :=
  ⟨sampleScore.scoreId, (sampleId 2).val, (sampleId 15).val, (sampleId 13).val, (sampleId 14).val,
    (sampleId 9).val, (sampleId 0).val, TruthState.anomalous.value, (sampleId 0).val,
    (sampleId 0).val, (sampleId 0).val, (sampleId 0).val, (sampleId 0).val, (sampleId 0).val,
    (sampleId 0).val, (sampleId 0).val, []⟩

/-- The join, and the decisions that are reported for its score. -/
def sampleInput (decisions : List ScoreDecision) : EvaluationInput where
  joins := [sampleJoin]
  metricDeclarations := [⟨(sampleId 6).val, text "recall", MetricApplicability.applicable.value,
    none⟩]
  sensitivityOutcomes := decisions.map fun decision =>
    ⟨(sampleId 4).val, sampleScore.scoreId, decision.value⟩
  resourceEvidenceIds := []
  qualityEvidenceIds := []
  limitationIds := []

/-- The disposition of a sample, where everything resolves and is authorized. -/
def sampleDisposition (windows : List (Fin 16)) (decisions : List ScoreDecision) :
    EvaluationDisposition :=
  (evaluateFrozenPhysicalScores (fun _ _ => text "1.0") (samplePlan windows) sampleManifest
    (sampleInput decisions) (fun _ => true) fun _ _ _ => true).disposition

theorem sampleManifest_accepted :
    (validatePhysicalScoreManifest sampleManifest fun _ => true).diagnosticCodes = [] := by
  rw [validatePhysicalScoreManifest, validateScoreManifest, diagnosticCodes_eq_nil]
  simp only [List.append_eq_nil_iff, check_eq_nil, List.flatMap_eq_nil_iff]
  refine ⟨⟨⟨⟨⟨⟨rfl, rfl⟩, rfl⟩, by decide +kernel⟩, by decide +kernel⟩, ?_⟩, ?_⟩
  · intro score hscore
    rw [List.mem_singleton.mp hscore]
    simp only [scoreCodes, List.append_eq_nil_iff, check_eq_nil]
    refine ⟨⟨⟨⟨?_, by decide +kernel⟩, by decide +kernel⟩, by decide +kernel⟩, by decide +kernel⟩
    exact Bool.and_eq_true_iff.mpr ⟨by decide +kernel, decide_eq_true rfl⟩
  · exact decide_eq_true rfl

theorem sampleManifest_ids :
    immutable (fun _ => true) sampleManifest.manifestId ∧
      immutable (fun _ => true) sampleScore.scoreId := by
  constructor <;>
    exact Bool.and_eq_true_iff.mpr ⟨isImmutableId_recordId _, rfl⟩

theorem samplePlan_accepted {windows : List (Fin 16)} (hne : windows ≠ [])
    (hnodup : windows.Nodup) :
    (validatePhysicalEvaluationPlan (samplePlan windows) (fun _ => true)
      fun _ _ _ => true).diagnosticCodes = [] := by
  rw [validatePhysicalEvaluationPlan, diagnosticCodes_eq_nil]
  simp only [List.append_eq_nil_iff, check_eq_nil, List.flatMap_eq_nil_iff]
  refine ⟨⟨⟨⟨⟨⟨rfl, rfl⟩, ?_⟩, ?_⟩, ?_⟩, decide_eq_true rfl⟩, trivial⟩
  · simp [PhysicalEvaluationPlan.references, samplePlan, finalizePhysicalEvaluationPlan,
      sampleManifest_ids.1, immutable_sampleId]
  · have hids : ((samplePlan windows).windows.map (·.windowId)).Nodup := by
      change ((windows.map _).map _).Nodup
      rw [List.map_map]
      exact hnodup.map fun m n heq => sampleId_injective heq
    have hwindows : (samplePlan windows).windows ≠ [] := List.map_eq_nil_iff.not.mpr hne
    simpa [hids] using hwindows
  · intro window hwindow
    obtain ⟨n, -, rfl⟩ := List.mem_map.mp hwindow
    have hexperiment : (samplePlan windows).experimentId = (sampleId 15).val := rfl
    simp [sampleWindow, hexperiment, immutable_sampleId]

theorem windowOf_samplePlan {windows : List (Fin 16)} (hwindow : 2 ∈ windows) :
    windowOf (samplePlan windows) (sampleId 2).val = some (sampleWindow 2) := by
  cases hfind : windowOf (samplePlan windows) (sampleId 2).val with
  | none =>
    have hnone := List.find?_eq_none.mp hfind (sampleWindow 2)
      (List.mem_reverse.mpr (List.mem_map_of_mem hwindow))
    exact absurd (decide_eq_true rfl) hnone
  | some window =>
    have hid : window.windowId = (sampleId 2).val := by
      simpa using List.find?_some hfind
    obtain ⟨n, -, rfl⟩ := List.mem_map.mp (List.mem_reverse.mp (List.mem_of_find?_eq_some hfind))
    rw [sampleId_injective hid]

theorem joinMatches_sample {windows : List (Fin 16)} (hwindow : 2 ∈ windows) :
    joinMatches (samplePlan windows) sampleManifest sampleJoin := by
  have hscore : scoreOf sampleManifest sampleJoin.scoreId = some sampleScore := by
    have hscores : sampleManifest.scores = [sampleScore] := rfl
    simp [scoreOf, hscores, sampleJoin]
  have hwindow : windowOf (samplePlan windows) sampleJoin.windowId = some (sampleWindow 2) :=
    windowOf_samplePlan hwindow
  rw [joinMatches, hscore, hwindow]
  decide +kernel

theorem sensitivityValid_sample {windows : List (Fin 16)} {decisions : List ScoreDecision}
    (hdecisions : decisions ≠ []) :
    sensitivityValid (samplePlan windows) sampleManifest
      (sampleInput decisions).sensitivityOutcomes := by
  have hids : scoreIds sampleManifest = {sampleScore.scoreId} := rfl
  have hthresholds : (samplePlan windows).plannedSensitivityThresholdIds = [(sampleId 4).val] := rfl
  have hpairs : (sampleInput decisions).sensitivityOutcomes.map
      (fun outcome => (outcome.thresholdId, outcome.scoreId)) =
        List.replicate decisions.length ((sampleId 4).val, sampleScore.scoreId) := by
    rw [sampleInput, List.map_map]
    simp [Function.comp_def]
  rw [sensitivityValid, Bool.and_eq_true, decide_eq_true_eq, List.all_eq_true, hpairs, hids,
    hthresholds, List.toFinset_replicate_of_ne_zero (List.length_eq_zero_iff.not.mpr hdecisions)]
  refine ⟨by simp, fun outcome houtcome => ?_⟩
  obtain ⟨decision, -, rfl⟩ := List.mem_map.mp houtcome
  have hdecision : decision.value ∈ sensitivityDecisions := by
    cases decision <;> decide
  simp [hdecision]

/-- The sample is complete for every plan with window 2, and whatever is decided. -/
theorem sampleDisposition_complete {windows : List (Fin 16)} {decisions : List ScoreDecision}
    (hwindow : 2 ∈ windows) (hnodup : windows.Nodup) (hdecisions : decisions ≠ []) :
    sampleDisposition windows decisions = .complete := by
  have hcodes : evaluationCodes (samplePlan windows) sampleManifest (sampleInput decisions)
      (fun _ => true) (fun _ _ _ => true) = [] := by
    have hscores : sampleManifest.scores = [sampleScore] := rfl
    rw [evaluationCodes]
    simp only [List.append_eq_nil_iff, check_eq_nil, List.flatMap_eq_nil_iff, List.map_eq_nil_iff]
    refine ⟨⟨⟨⟨⟨⟨⟨⟨samplePlan_accepted (List.ne_nil_of_mem hwindow) hnodup,
      sampleManifest_accepted⟩, ?_⟩, ?_⟩, ?_⟩, ?_⟩, ?_⟩, ?_⟩, ?_⟩
    · simp [samplePlan, finalizePhysicalEvaluationPlan, sampleManifest, finalizeScoreManifest]
    · simp [sampleInput, sampleJoin, scoreIds, hscores]
    · intro join hjoin
      obtain rfl := List.mem_singleton.mp hjoin
      simp only [joinCodes, List.append_eq_nil_iff, check_eq_nil]
      refine ⟨⟨⟨?_, joinMatches_sample hwindow⟩, by decide +kernel⟩, rfl⟩
      simp [RestrictedTruthJoin.references, sampleJoin, sampleManifest_ids.2, immutable_sampleId]
    · simp [sampleInput]
    · intro declaration hdeclaration
      rw [List.mem_singleton.mp hdeclaration]
      decide +kernel
    · simp [sampleInput]
    · exact sensitivityValid_sample hdecisions
  rw [sampleDisposition, evaluateFrozenPhysicalScores, if_neg (not_not.mpr hcodes)]
  rfl

theorem samplePlan_accounted :
    Accounted (samplePlan [2]) sampleManifest (sampleInput [.normal]) := by
  have hcomplete :=
    sampleDisposition_complete (List.mem_singleton_self 2) (List.nodup_singleton 2)
      (List.cons_ne_nil ScoreDecision.normal [])
  rw [sampleDisposition] at hcomplete
  refine (accounted_iff hcomplete).mpr ⟨?_, List.nodup_singleton _, List.nodup_singleton _⟩
  intro window hwindow
  rw [List.mem_singleton.mp hwindow]
  exact ⟨sampleScore, List.mem_singleton_self _, rfl⟩

/-- Window 5 is planned and not scored; and both a normal and an anomalous decision are reported for
one pair. -/
theorem gaps_not_accounted :
    (sampleDisposition [2, 5] [.normal] = .complete ∧
      ¬Accounted (samplePlan [2, 5]) sampleManifest (sampleInput [.normal])) ∧
    sampleDisposition [2] [.normal, .anomalous] = .complete ∧
      ¬Accounted (samplePlan [2]) sampleManifest (sampleInput [.normal, .anomalous]) := by
  refine ⟨⟨sampleDisposition_complete (by decide) (by decide) (by decide), fun h => ?_⟩,
    sampleDisposition_complete (by decide) (by decide) (by decide), fun h => ?_⟩
  · have hcount := h.windows (sampleWindow 5) (List.mem_cons_of_mem _ (List.mem_singleton_self _))
    revert hcount
    decide +kernel
  · have hcount := h.sensitivity (sampleId 4).val (List.mem_singleton_self _) sampleScore
      (List.mem_singleton_self _)
    revert hcount
    simp [sampleInput]

end TruthFingerprint.Evidence
