import Mathlib
import TruthFingerprint.Lib.Dict
import TruthFingerprint.Evidence.Records

/-!
# Comparison of physical candidates

A comparison record retains the runs of all candidates of a frozen plan, and which of them was
selected. It is validated together with its disposition, and finalised with the disposition and the
codes of its validation. What comes out depends on the evidence alone, and validates to what it says,
if and only if the disposition that was put in is the one of the evidence (`finalize_exact_iff`).
-/

namespace TruthFingerprint.Evidence.CandidateComparison

open Document (record optional)

/-! ## Records -/

def comparisonSchema : Text := text "PhysicalCandidateComparison.v1"

inductive ComparisonDisposition where
  | complete
  | incomplete
  | blocked
  | invalid
deriving DecidableEq

def ComparisonDisposition.value : ComparisonDisposition → Text
  | .complete => text "complete"
  | .incomplete => text "incomplete"
  | .blocked => text "blocked"
  | .invalid => text "invalid"

theorem ComparisonDisposition.value_inj {d d' : ComparisonDisposition} :
    d.value = d'.value ↔ d = d' := by
  cases d <;> cases d' <;> decide

/-- The values of `CandidateRunStatus` -/
def runStatuses : List Text :=
  [text "complete", text "failed", text "stopped_early", text "budget_exceeded", text "blocked"]

/-- A tuple that is kept sorted and without repetition is the set of its elements. -/
def texts (ts : Finset Text) : Document := Document.texts (ts.sort (· ≤ ·))

structure PhysicalCandidate where
  candidateId : Text
  family : Text
  architectureIdentity : Text
  parameterSetId : Text
  configurationId : Text
  preregisteredExceptionIds : Finset Text
deriving DecidableEq

structure FrozenPhysicalComparisonPlan where
  schemaVersion : Text
  protocolId : Text
  featureSchemaId : Text
  partitionId : Text
  preprocessingStateId : Text
  normalTrainingEvidenceId : Text
  validationEvidenceId : Text
  tuningAccessId : Text
  resourceBudgetId : Text
  selectionRuleId : Text
  primaryMetricIds : Finset Text
  repetitionIds : Finset Text
  candidates : List PhysicalCandidate
  planContentId : Text
  authorizationEffect : Text
  sorted : candidates.Pairwise (·.candidateId ≤ ·.candidateId)

structure PhysicalCandidateRun where
  candidateId : Text
  repetitionId : Text
  featureSchemaId : Text
  partitionId : Text
  preprocessingStateId : Text
  normalTrainingEvidenceId : Text
  validationEvidenceId : Text
  tuningAccessId : Text
  resourceBudgetId : Text
  configurationId : Text
  status : Text
  outputIds : Finset Text
  resourceEvidenceIds : Finset Text
  diagnosticIds : Finset Text
  limitationIds : Finset Text
  appliedExceptionIds : Finset Text
deriving DecidableEq

/-- What a run is of -/
def PhysicalCandidateRun.key (run : PhysicalCandidateRun) : Text ×ₗ Text :=
  toLex (run.candidateId, run.repetitionId)

structure PhysicalCandidateComparisonRecord where
  schemaVersion : Text
  planContentId : Text
  runRecords : List PhysicalCandidateRun
  selectedCandidateId : Option Text
  selectionRecordId : Option Text
  nonSelectedCandidateIds : Finset Text
  disposition : Text
  diagnosticCodes : Finset Text
  recordContentId : Text
  authorizationEffect : Text
  sorted : runRecords.Pairwise (·.key ≤ ·.key)

structure PhysicalComparisonValidation where
  valid : Bool
  disposition : ComparisonDisposition
  diagnosticCodes : Finset Text

/-! ## Identities -/

def PhysicalCandidate.toDict (candidate : PhysicalCandidate) : Document :=
  record [("candidate_id", .str candidate.candidateId), ("family", .str candidate.family),
    ("architecture_identity", .str candidate.architectureIdentity),
    ("parameter_set_id", .str candidate.parameterSetId),
    ("configuration_id", .str candidate.configurationId),
    ("preregistered_exception_ids", texts candidate.preregisteredExceptionIds)]

/-- `physical_comparison_plan_content_id` -/
def FrozenPhysicalComparisonPlan.contentId (plan : FrozenPhysicalComparisonPlan) : Text :=
  recordId (record [("schema_version", .str plan.schemaVersion),
    ("protocol_id", .str plan.protocolId), ("feature_schema_id", .str plan.featureSchemaId),
    ("partition_id", .str plan.partitionId),
    ("preprocessing_state_id", .str plan.preprocessingStateId),
    ("normal_training_evidence_id", .str plan.normalTrainingEvidenceId),
    ("validation_evidence_id", .str plan.validationEvidenceId),
    ("tuning_access_id", .str plan.tuningAccessId),
    ("resource_budget_id", .str plan.resourceBudgetId),
    ("selection_rule_id", .str plan.selectionRuleId),
    ("primary_metric_ids", texts plan.primaryMetricIds),
    ("repetition_ids", texts plan.repetitionIds),
    ("candidates", .arr (plan.candidates.map PhysicalCandidate.toDict)),
    ("authorization_effect", .str plan.authorizationEffect)])

def PhysicalCandidateRun.toDict (run : PhysicalCandidateRun) : Document :=
  record [("candidate_id", .str run.candidateId), ("repetition_id", .str run.repetitionId),
    ("feature_schema_id", .str run.featureSchemaId), ("partition_id", .str run.partitionId),
    ("preprocessing_state_id", .str run.preprocessingStateId),
    ("normal_training_evidence_id", .str run.normalTrainingEvidenceId),
    ("validation_evidence_id", .str run.validationEvidenceId),
    ("tuning_access_id", .str run.tuningAccessId),
    ("resource_budget_id", .str run.resourceBudgetId),
    ("configuration_id", .str run.configurationId), ("status", .str run.status),
    ("output_ids", texts run.outputIds), ("resource_evidence_ids", texts run.resourceEvidenceIds),
    ("diagnostic_ids", texts run.diagnosticIds), ("limitation_ids", texts run.limitationIds),
    ("applied_exception_ids", texts run.appliedExceptionIds)]

/-- `physical_comparison_record_content_id` -/
def PhysicalCandidateComparisonRecord.contentId (comparison : PhysicalCandidateComparisonRecord) :
    Text :=
  recordId (record [("schema_version", .str comparison.schemaVersion),
    ("plan_content_id", .str comparison.planContentId),
    ("run_records", .arr (comparison.runRecords.map PhysicalCandidateRun.toDict)),
    ("selected_candidate_id", optional comparison.selectedCandidateId),
    ("selection_record_id", optional comparison.selectionRecordId),
    ("non_selected_candidate_ids", texts comparison.nonSelectedCandidateIds),
    ("disposition", .str comparison.disposition),
    ("diagnostic_codes", texts comparison.diagnosticCodes),
    ("authorization_effect", .str comparison.authorizationEffect)])

/-! ## The plan -/

variable (resolver : ImmutableResolver)

/-- `_ids_resolve` -/
def idsResolve (values : List Text) : Bool := values ≠ [] && values.all (immutable resolver)

def requiredFamilies : Finset Text :=
  {text "lstm_ae", text "gru_ae", text "transparent_baseline"}

def FrozenPhysicalComparisonPlan.common (plan : FrozenPhysicalComparisonPlan) : List Text :=
  [plan.protocolId, plan.featureSchemaId, plan.partitionId, plan.preprocessingStateId,
    plan.normalTrainingEvidenceId, plan.validationEvidenceId, plan.resourceBudgetId,
    plan.tuningAccessId, plan.selectionRuleId] ++ plan.primaryMetricIds.sort (· ≤ ·) ++
    plan.repetitionIds.sort (· ≤ ·)

def candidateCodes (candidate : PhysicalCandidate) : List Text :=
  check (candidate.family ∈ requiredFamilies) "PCC13_CANDIDATE_FAMILY_UNDECLARED" ++
    check (idsResolve resolver ([candidate.candidateId, candidate.architectureIdentity,
      candidate.parameterSetId, candidate.configurationId] ++
        candidate.preregisteredExceptionIds.sort (· ≤ ·))) "PCC13_CANDIDATE_IDENTITY_UNRESOLVED"

def planCodes (plan : FrozenPhysicalComparisonPlan) : List Text :=
  let candidateIds := plan.candidates.map (·.candidateId)
  let families := (plan.candidates.map (·.family)).toFinset
  check (plan.schemaVersion = comparisonSchema) "PCC13_SCHEMA_UNSUPPORTED" ++
    check (idsResolve resolver plan.common) "PCC13_COMMON_INPUT_UNRESOLVED" ++
    check (candidateIds.length = candidateIds.toFinset.card && requiredFamilies ⊆ families)
      "PCC13_REQUIRED_CANDIDATES_MISSING" ++
    plan.candidates.flatMap (candidateCodes resolver) ++
    check (plan.authorizationEffect = text "none" && plan.planContentId = plan.contentId)
      "PCC13_PLAN_IMMUTABILITY_INVALID"

def validateFrozenPhysicalComparisonPlan (plan : FrozenPhysicalComparisonPlan) :
    PhysicalComparisonValidation :=
  let codes := (planCodes resolver plan).toFinset
  ⟨codes = ∅, if codes = ∅ then .complete else .invalid, codes⟩

/-! ## The record -/

variable (plan : FrozenPhysicalComparisonPlan)

/-- `{(candidate.candidate_id, repetition) ...}` -/
def expectedRuns : Finset (Text × Text) :=
  (plan.candidates.map (·.candidateId)).toFinset ×ˢ plan.repetitionIds

def candidateConfig : List (Text × Text) :=
  Dict.ofItems (plan.candidates.map fun candidate =>
    (candidate.candidateId, candidate.configurationId))

def candidateExceptions : List (Text × Finset Text) :=
  Dict.ofItems (plan.candidates.map fun candidate =>
    (candidate.candidateId, candidate.preregisteredExceptionIds))

def FrozenPhysicalComparisonPlan.shared : List Text :=
  [plan.featureSchemaId, plan.partitionId, plan.preprocessingStateId,
    plan.normalTrainingEvidenceId, plan.validationEvidenceId, plan.tuningAccessId,
    plan.resourceBudgetId]

def PhysicalCandidateRun.shared (run : PhysicalCandidateRun) : List Text :=
  [run.featureSchemaId, run.partitionId, run.preprocessingStateId, run.normalTrainingEvidenceId,
    run.validationEvidenceId, run.tuningAccessId, run.resourceBudgetId]

def PhysicalCandidateRun.evidence (run : PhysicalCandidateRun) : List Text :=
  run.outputIds.sort (· ≤ ·) ++ run.resourceEvidenceIds.sort (· ≤ ·) ++
    run.diagnosticIds.sort (· ≤ ·) ++ run.limitationIds.sort (· ≤ ·) ++
    run.appliedExceptionIds.sort (· ≤ ·)

def runCodes (run : PhysicalCandidateRun) : List Text :=
  check (run.shared = plan.shared) "PCC13_FAIR_INPUT_MISMATCH" ++
    check ((candidateConfig plan).lookup run.candidateId = some run.configurationId)
      "PCC13_CONFIGURATION_MISMATCH" ++
    check (run.appliedExceptionIds = ((candidateExceptions plan).lookup run.candidateId).getD ∅)
      "PCC13_EXCEPTION_REGISTRATION_MISMATCH" ++
    check (run.status ∈ runStatuses) "PCC13_RUN_STATUS_UNDECLARED" ++
    check (idsResolve resolver run.evidence) "PCC13_RUN_EVIDENCE_UNRESOLVED"

variable (comparison : PhysicalCandidateComparisonRecord)

/-- The candidates with a run that is complete -/
def completed : Finset Text :=
  ((comparison.runRecords.filter (·.status = text "complete")).map (·.candidateId)).toFinset

def selectionCodes : List Text :=
  let plannedCandidates := ((candidateConfig plan).map Prod.fst).toFinset
  match comparison.selectedCandidateId with
  | some selected =>
    check (selected ∈ plannedCandidates && selected ∈ completed comparison)
      "PCC13_SELECTION_CANDIDATE_INVALID" ++
    check (idsResolve resolver [comparison.selectionRecordId.getD []])
      "PCC13_SELECTION_EVIDENCE_UNRESOLVED" ++
    check (comparison.nonSelectedCandidateIds = plannedCandidates \ {selected})
      "PCC13_NONSELECTED_OUTCOMES_INCOMPLETE"
  | none =>
    check (comparison.selectionRecordId = none && comparison.nonSelectedCandidateIds = ∅)
      "PCC13_SELECTION_STATE_INCONSISTENT"

/-- The codes that are collected before the disposition is looked at -/
def evidenceCodes : List Text :=
  let actual := (comparison.runRecords.map fun run => (run.candidateId, run.repetitionId)).toFinset
  (validateFrozenPhysicalComparisonPlan resolver plan).diagnosticCodes.sort (· ≤ ·) ++
    check (comparison.schemaVersion = comparisonSchema &&
      comparison.planContentId = plan.planContentId) "PCC13_PLAN_BINDING_INVALID" ++
    check (actual.card = comparison.runRecords.length && actual = expectedRuns plan)
      "PCC13_PLANNED_RUN_CLOSURE_INCOMPLETE" ++
    comparison.runRecords.flatMap (runCodes resolver plan) ++
    selectionCodes resolver plan comparison ++
    check (comparison.authorizationEffect = text "none" &&
      comparison.recordContentId = comparison.contentId) "PCC13_RECORD_IMMUTABILITY_INVALID"

def dispositionOf (codes : Finset Text) (selectedCandidateId : Option Text) :
    ComparisonDisposition :=
  if codes ≠ ∅ then .invalid
  else if selectedCandidateId = none then .incomplete
  else .complete

def dispositionMismatch : Text := text "PCC13_DISPOSITION_MISMATCH"

def validatePhysicalCandidateComparison : PhysicalComparisonValidation :=
  let codes := (evidenceCodes resolver plan comparison).toFinset
  let disposition := dispositionOf codes comparison.selectedCandidateId
  if comparison.disposition ≠ disposition.value then
    ⟨insert dispositionMismatch codes = ∅, .invalid, insert dispositionMismatch codes⟩
  else ⟨codes = ∅, disposition, codes⟩

/-- The record with its identity: `replace(record, record_content_id=...)` -/
def identify : PhysicalCandidateComparisonRecord :=
  { comparison with recordContentId := { comparison with recordContentId := [] }.contentId }

def finalizePhysicalCandidateComparison : PhysicalCandidateComparisonRecord :=
  let provisional := identify comparison
  let validation := validatePhysicalCandidateComparison resolver plan provisional
  let concluded : PhysicalCandidateComparisonRecord :=
    { provisional with
      disposition := validation.disposition.value
      diagnosticCodes := validation.diagnosticCodes }
  { concluded with recordContentId := concluded.contentId }

/-! ## Sound evidence -/

variable {resolver plan comparison}

structure SoundPlan (resolver : ImmutableResolver) (plan : FrozenPhysicalComparisonPlan) : Prop where
  schema : plan.schemaVersion = comparisonSchema
  common : ∀ value ∈ plan.common, immutable resolver value
  distinct : (plan.candidates.map (·.candidateId)).Nodup
  required : ∀ family ∈ requiredFamilies, ∃ candidate ∈ plan.candidates, candidate.family = family
  candidates : ∀ candidate ∈ plan.candidates, candidate.family ∈ requiredFamilies ∧
    ∀ value ∈ [candidate.candidateId, candidate.architectureIdentity, candidate.parameterSetId,
      candidate.configurationId] ++ candidate.preregisteredExceptionIds.sort (· ≤ ·),
      immutable resolver value
  authorization : plan.authorizationEffect = text "none"
  identified : plan.planContentId = plan.contentId

/-- A run is of a candidate of the plan, with its configuration and its exceptions. -/
structure SoundRun (resolver : ImmutableResolver) (plan : FrozenPhysicalComparisonPlan)
    (run : PhysicalCandidateRun) : Prop where
  shared : run.shared = plan.shared
  candidate : ∃ candidate ∈ plan.candidates, candidate.candidateId = run.candidateId ∧
    candidate.configurationId = run.configurationId ∧
    candidate.preregisteredExceptionIds = run.appliedExceptionIds
  status : run.status ∈ runStatuses
  evidence : run.evidence ≠ [] ∧ ∀ value ∈ run.evidence, immutable resolver value

/-- A selected candidate has a complete run, and all others are named. -/
def SoundSelection (resolver : ImmutableResolver) (plan : FrozenPhysicalComparisonPlan)
    (comparison : PhysicalCandidateComparisonRecord) : Prop :=
  match comparison.selectedCandidateId with
  | some selected =>
    (selected ∈ plan.candidates.map (·.candidateId) ∧
      ∃ run ∈ comparison.runRecords, run.candidateId = selected ∧ run.status = text "complete") ∧
    immutable resolver (comparison.selectionRecordId.getD []) ∧
    ∀ other, other ∈ comparison.nonSelectedCandidateIds ↔
      other ∈ plan.candidates.map (·.candidateId) ∧ other ≠ selected
  | none => comparison.selectionRecordId = none ∧ comparison.nonSelectedCandidateIds = ∅

/-- The evidence of a comparison: everything but its disposition, its codes and its identity -/
structure Sound (resolver : ImmutableResolver) (plan : FrozenPhysicalComparisonPlan)
    (comparison : PhysicalCandidateComparisonRecord) : Prop where
  frozen : SoundPlan resolver plan
  bound : comparison.schemaVersion = comparisonSchema ∧
    comparison.planContentId = plan.planContentId
  once : (comparison.runRecords.map fun run => (run.candidateId, run.repetitionId)).Nodup
  planned : ∀ candidateId repetition, (candidateId, repetition) ∈
      (comparison.runRecords.map fun run => (run.candidateId, run.repetitionId)) ↔
    candidateId ∈ plan.candidates.map (·.candidateId) ∧ repetition ∈ plan.repetitionIds
  runs : ∀ run ∈ comparison.runRecords, SoundRun resolver plan run
  selection : SoundSelection resolver plan comparison
  authorization : comparison.authorizationEffect = text "none"

theorem idsResolve_iff {values : List Text} :
    idsResolve resolver values ↔ values ≠ [] ∧ ∀ value ∈ values, immutable resolver value := by
  rw [idsResolve, Bool.and_eq_true, decide_eq_true_eq, List.all_eq_true]

theorem length_eq_card_iff {α : Type} [DecidableEq α] {l : List α} :
    l.length = l.toFinset.card ↔ l.Nodup := by
  rw [eq_comm, ← Multiset.coe_nodup, ← Multiset.toFinset_card_eq_card_iff_nodup,
    Multiset.coe_card]
  rfl

theorem planCodes_eq_nil : planCodes resolver plan = [] ↔ SoundPlan resolver plan := by
  have hcommon : plan.common ≠ [] := by simp [FrozenPhysicalComparisonPlan.common]
  have hrequired : requiredFamilies ⊆ (plan.candidates.map (·.family)).toFinset ↔
      ∀ family ∈ requiredFamilies, ∃ candidate ∈ plan.candidates, candidate.family = family := by
    simp only [Finset.subset_iff, List.mem_toFinset, List.mem_map]
  have hcandidate (candidate : PhysicalCandidate) : candidateCodes resolver candidate = [] ↔
      candidate.family ∈ requiredFamilies ∧
        ∀ value ∈ [candidate.candidateId, candidate.architectureIdentity, candidate.parameterSetId,
          candidate.configurationId] ++ candidate.preregisteredExceptionIds.sort (· ≤ ·),
          immutable resolver value := by
    rw [candidateCodes, List.append_eq_nil_iff, check_eq_nil, check_eq_nil, decide_eq_true_eq,
      idsResolve_iff]
    simp
  simp only [planCodes, List.append_eq_nil_iff, check_eq_nil, Bool.and_eq_true, decide_eq_true_eq,
    idsResolve_iff, length_eq_card_iff, hrequired, List.flatMap_eq_nil_iff, hcandidate]
  constructor
  · rintro ⟨⟨⟨⟨hschema, -, hvalues⟩, hnodup, hfamilies⟩, hcandidates⟩, hauthorization, hidentified⟩
    exact ⟨hschema, hvalues, hnodup, hfamilies, hcandidates, hauthorization, hidentified⟩
  · intro h
    exact ⟨⟨⟨⟨h.schema, hcommon, h.common⟩, h.distinct, h.required⟩, h.candidates⟩,
      h.authorization, h.identified⟩

/-- What is found of a candidate in a dictionary of distinct candidates -/
theorem lookup_candidates {α : Type} (f : PhysicalCandidate → α)
    (h : (plan.candidates.map (·.candidateId)).Nodup) {candidateId : Text} {a : α} :
    (Dict.ofItems (plan.candidates.map fun candidate =>
      (candidate.candidateId, f candidate))).lookup candidateId = some a ↔
      ∃ candidate ∈ plan.candidates, candidate.candidateId = candidateId ∧ f candidate = a := by
  have hkeys : ((plan.candidates.map fun candidate =>
      (candidate.candidateId, f candidate)).map Prod.fst).Nodup := by
    rw [List.map_map]
    exact h
  rw [Dict.ofItems_of_nodup hkeys, Dict.lookup_eq_some_iff hkeys, List.mem_map]
  simp only [Prod.mk.injEq]

theorem runCodes_eq_nil (h : (plan.candidates.map (·.candidateId)).Nodup)
    {run : PhysicalCandidateRun} : runCodes resolver plan run = [] ↔ SoundRun resolver plan run := by
  simp only [runCodes, List.append_eq_nil_iff, check_eq_nil, decide_eq_true_eq, idsResolve_iff]
  have hunique {c c' : PhysicalCandidate} (hc : c ∈ plan.candidates) (hc' : c' ∈ plan.candidates)
      (heq : c.candidateId = c'.candidateId) : c = c' :=
    List.inj_on_of_nodup_map h hc hc' heq
  constructor
  · rintro ⟨⟨⟨⟨hshared, hconfig⟩, hexceptions⟩, hstatus⟩, hevidence⟩
    obtain ⟨candidate, hmem, hid, hconfiguration⟩ :=
      (lookup_candidates (·.configurationId) h).mp hconfig
    have hlookup : (candidateExceptions plan).lookup run.candidateId =
        some candidate.preregisteredExceptionIds :=
      (lookup_candidates (·.preregisteredExceptionIds) h).mpr ⟨candidate, hmem, hid, rfl⟩
    rw [hlookup] at hexceptions
    exact ⟨hshared, ⟨candidate, hmem, hid, hconfiguration, hexceptions.symm⟩, hstatus, hevidence⟩
  · rintro ⟨hshared, ⟨candidate, hmem, hid, hconfiguration, hexceptions⟩, hstatus, hevidence⟩
    have hlookup : (candidateExceptions plan).lookup run.candidateId =
        some candidate.preregisteredExceptionIds :=
      (lookup_candidates (·.preregisteredExceptionIds) h).mpr ⟨candidate, hmem, hid, rfl⟩
    refine ⟨⟨⟨⟨hshared, ?_⟩, ?_⟩, hstatus⟩, hevidence⟩
    · exact (lookup_candidates (·.configurationId) h).mpr ⟨candidate, hmem, hid, hconfiguration⟩
    · rw [hlookup]
      exact hexceptions.symm

theorem selectionCodes_eq_nil :
    selectionCodes resolver plan comparison = [] ↔ SoundSelection resolver plan comparison := by
  have hplanned (candidateId : Text) : candidateId ∈ ((candidateConfig plan).map Prod.fst).toFinset ↔
      candidateId ∈ plan.candidates.map (·.candidateId) := by
    rw [List.mem_toFinset, candidateConfig, Dict.mem_keys_ofItems, List.map_map]
    rfl
  rw [selectionCodes, SoundSelection]
  cases comparison.selectedCandidateId with
  | none => simp
  | some selected =>
    have hcompleted : selected ∈ completed comparison ↔ ∃ run ∈ comparison.runRecords,
        run.candidateId = selected ∧ run.status = text "complete" := by
      simp only [completed, List.mem_toFinset, List.mem_map, List.mem_filter, decide_eq_true_eq]
      refine exists_congr fun run => ?_
      rw [and_assoc, and_congr_right_iff]
      exact fun _ => and_comm
    simp only [List.append_eq_nil_iff, check_eq_nil, Bool.and_eq_true, decide_eq_true_eq, hplanned,
      hcompleted, idsResolve_iff, Finset.ext_iff, Finset.mem_sdiff, Finset.mem_singleton]
    simp [and_assoc]

/-- Evidence is sound exactly when no code is collected from it. -/
theorem evidenceCodes_eq_nil (hid : comparison.recordContentId = comparison.contentId) :
    evidenceCodes resolver plan comparison = [] ↔ Sound resolver plan comparison := by
  have hplan : (validateFrozenPhysicalComparisonPlan resolver plan).diagnosticCodes.sort (· ≤ ·) =
      [] ↔ SoundPlan resolver plan := by
    rw [← planCodes_eq_nil, validateFrozenPhysicalComparisonPlan, ← List.length_eq_zero_iff,
      Finset.length_sort, Finset.card_eq_zero, List.toFinset_eq_empty_iff]
  have honce : (comparison.runRecords.map fun run =>
      (run.candidateId, run.repetitionId)).toFinset.card = comparison.runRecords.length ↔
        (comparison.runRecords.map fun run => (run.candidateId, run.repetitionId)).Nodup := by
    rw [← length_eq_card_iff, List.length_map, eq_comm]
  have hplanned : (comparison.runRecords.map fun run =>
      (run.candidateId, run.repetitionId)).toFinset = expectedRuns plan ↔
        ∀ candidateId repetition, (candidateId, repetition) ∈
          (comparison.runRecords.map fun run => (run.candidateId, run.repetitionId)) ↔
          candidateId ∈ plan.candidates.map (·.candidateId) ∧ repetition ∈ plan.repetitionIds := by
    simp only [Finset.ext_iff, Prod.forall, List.mem_toFinset, expectedRuns, Finset.mem_product]
  have hruns (hfrozen : SoundPlan resolver plan) :
      comparison.runRecords.flatMap (runCodes resolver plan) = [] ↔
        ∀ run ∈ comparison.runRecords, SoundRun resolver plan run := by
    rw [List.flatMap_eq_nil_iff]
    exact forall₂_congr fun run _ => runCodes_eq_nil hfrozen.distinct
  simp only [evidenceCodes, List.append_eq_nil_iff, check_eq_nil, Bool.and_eq_true,
    decide_eq_true_eq, hplan, honce, hplanned, selectionCodes_eq_nil, hid, and_true]
  constructor
  · rintro ⟨⟨⟨⟨⟨hfrozen, hbound⟩, hnodup, hclosure⟩, hcodes⟩, hselection⟩, hauthorization⟩
    exact ⟨hfrozen, hbound, hnodup, hclosure, (hruns hfrozen).mp hcodes, hselection, hauthorization⟩
  · intro h
    exact ⟨⟨⟨⟨⟨h.frozen, h.bound⟩, h.once, h.planned⟩, (hruns h.frozen).mpr h.runs⟩, h.selection⟩,
      h.authorization⟩

/-! ## Finalisation -/

/-- The record with other values where the finalisation puts its own -/
def PhysicalCandidateComparisonRecord.withPlaceholders
    (comparison : PhysicalCandidateComparisonRecord) (disposition : Text)
    (diagnosticCodes : Finset Text) (recordContentId : Text) : PhysicalCandidateComparisonRecord :=
  { comparison with
    disposition := disposition
    diagnosticCodes := diagnosticCodes
    recordContentId := recordContentId }

/-- The codes of the evidence of a record -/
def defects (resolver : ImmutableResolver) (plan : FrozenPhysicalComparisonPlan)
    (comparison : PhysicalCandidateComparisonRecord) : Finset Text :=
  (evidenceCodes resolver plan (identify comparison)).toFinset

theorem defects_eq_empty :
    defects resolver plan comparison = ∅ ↔ Sound resolver plan comparison := by
  rw [defects, List.toFinset_eq_empty_iff, evidenceCodes_eq_nil rfl]
  constructor
  · rintro ⟨hfrozen, hbound, honce, hplanned, hruns, hselection, hauthorization⟩
    exact ⟨hfrozen, hbound, honce, hplanned, hruns, hselection, hauthorization⟩
  · rintro ⟨hfrozen, hbound, honce, hplanned, hruns, hselection, hauthorization⟩
    exact ⟨hfrozen, hbound, honce, hplanned, hruns, hselection, hauthorization⟩

/-- The codes of a record with its identity do not depend on its disposition and its codes. -/
theorem evidenceCodes_withPlaceholders {disposition : Text} {diagnosticCodes : Finset Text}
    {recordContentId : Text}
    (hid : recordContentId =
      (comparison.withPlaceholders disposition diagnosticCodes recordContentId).contentId) :
    (evidenceCodes resolver plan
      (comparison.withPlaceholders disposition diagnosticCodes recordContentId)).toFinset =
        defects resolver plan comparison := by
  have hleft : (comparison.withPlaceholders disposition diagnosticCodes
      recordContentId).recordContentId = (comparison.withPlaceholders disposition diagnosticCodes
        recordContentId).contentId := hid
  have hright : (identify comparison).recordContentId = (identify comparison).contentId := rfl
  rw [defects, evidenceCodes, evidenceCodes, hleft, hright]
  simp only [decide_true, Bool.and_true]
  rfl

theorem defects_withPlaceholders (disposition : Text) (diagnosticCodes : Finset Text)
    (recordContentId : Text) :
    defects resolver plan (comparison.withPlaceholders disposition diagnosticCodes recordContentId) =
      defects resolver plan comparison :=
  @evidenceCodes_withPlaceholders resolver plan comparison disposition diagnosticCodes _ rfl

theorem notMem_check {ok : Bool} {code : String} (h : dispositionMismatch ≠ text code) :
    dispositionMismatch ∉ check ok code := by
  cases ok <;> simp [check, h]

/-- The evidence is never charged with its disposition. -/
theorem dispositionMismatch_notMem_defects :
    dispositionMismatch ∉ defects resolver plan comparison := by
  have hcandidate (candidate : PhysicalCandidate) :
      dispositionMismatch ∉ candidateCodes resolver candidate := by
    simp only [candidateCodes, List.mem_append, not_or]
    exact ⟨notMem_check (by decide), notMem_check (by decide)⟩
  have hplan : dispositionMismatch ∉
      (validateFrozenPhysicalComparisonPlan resolver plan).diagnosticCodes.sort (· ≤ ·) := by
    rw [Finset.mem_sort, validateFrozenPhysicalComparisonPlan, List.mem_toFinset]
    simp only [planCodes, List.mem_append, List.mem_flatMap, not_or, not_exists, not_and]
    exact ⟨⟨⟨⟨notMem_check (by decide), notMem_check (by decide)⟩, notMem_check (by decide)⟩,
      fun candidate _ => hcandidate candidate⟩, notMem_check (by decide)⟩
  have hrun (run : PhysicalCandidateRun) : dispositionMismatch ∉ runCodes resolver plan run := by
    simp only [runCodes, List.mem_append, not_or]
    exact ⟨⟨⟨⟨notMem_check (by decide), notMem_check (by decide)⟩, notMem_check (by decide)⟩,
      notMem_check (by decide)⟩, notMem_check (by decide)⟩
  have hselection (other : PhysicalCandidateComparisonRecord) :
      dispositionMismatch ∉ selectionCodes resolver plan other := by
    rw [selectionCodes]
    cases other.selectedCandidateId with
    | none => exact notMem_check (by decide)
    | some selected =>
      simp only [List.mem_append, not_or]
      exact ⟨⟨notMem_check (by decide), notMem_check (by decide)⟩, notMem_check (by decide)⟩
  rw [defects, List.mem_toFinset]
  simp only [evidenceCodes, List.mem_append, List.mem_flatMap, not_or, not_exists, not_and]
  exact ⟨⟨⟨⟨⟨hplan, notMem_check (by decide)⟩, notMem_check (by decide)⟩, fun run _ => hrun run⟩,
    hselection _⟩, notMem_check (by decide)⟩

/-- The disposition that the evidence has by itself -/
def evidenceDisposition (resolver : ImmutableResolver) (plan : FrozenPhysicalComparisonPlan)
    (comparison : PhysicalCandidateComparisonRecord) : ComparisonDisposition :=
  dispositionOf (defects resolver plan comparison) comparison.selectedCandidateId

/-- The record with a disposition and codes, and its identity -/
def PhysicalCandidateComparisonRecord.conclude (comparison : PhysicalCandidateComparisonRecord)
    (disposition : ComparisonDisposition) (diagnosticCodes : Finset Text) :
    PhysicalCandidateComparisonRecord :=
  comparison.withPlaceholders disposition.value diagnosticCodes
    (comparison.withPlaceholders disposition.value diagnosticCodes []).contentId

theorem validate_of_eq {disposition : Text} {diagnosticCodes : Finset Text} {recordContentId : Text}
    (hid : recordContentId =
      (comparison.withPlaceholders disposition diagnosticCodes recordContentId).contentId)
    (h : disposition = (evidenceDisposition resolver plan comparison).value) :
    validatePhysicalCandidateComparison resolver plan
        (comparison.withPlaceholders disposition diagnosticCodes recordContentId) =
      ⟨defects resolver plan comparison = ∅, evidenceDisposition resolver plan comparison,
        defects resolver plan comparison⟩ := by
  rw [validatePhysicalCandidateComparison, evidenceCodes_withPlaceholders hid]
  exact if_neg (not_not.mpr h)

theorem validate_of_ne {disposition : Text} {diagnosticCodes : Finset Text} {recordContentId : Text}
    (hid : recordContentId =
      (comparison.withPlaceholders disposition diagnosticCodes recordContentId).contentId)
    (h : disposition ≠ (evidenceDisposition resolver plan comparison).value) :
    validatePhysicalCandidateComparison resolver plan
        (comparison.withPlaceholders disposition diagnosticCodes recordContentId) =
      ⟨insert dispositionMismatch (defects resolver plan comparison) = ∅, .invalid,
        insert dispositionMismatch (defects resolver plan comparison)⟩ := by
  rw [validatePhysicalCandidateComparison, evidenceCodes_withPlaceholders hid]
  exact if_pos h

theorem evidenceDisposition_withPlaceholders (disposition : Text) (diagnosticCodes : Finset Text)
    (recordContentId : Text) :
    evidenceDisposition resolver plan
        (comparison.withPlaceholders disposition diagnosticCodes recordContentId) =
      evidenceDisposition resolver plan comparison := by
  rw [evidenceDisposition, defects_withPlaceholders]
  rfl

theorem validate_conclude {disposition : ComparisonDisposition} (diagnosticCodes : Finset Text)
    (h : disposition = evidenceDisposition resolver plan comparison) :
    validatePhysicalCandidateComparison resolver plan
        (comparison.conclude disposition diagnosticCodes) =
      ⟨defects resolver plan comparison = ∅, evidenceDisposition resolver plan comparison,
        defects resolver plan comparison⟩ :=
  validate_of_eq rfl (congrArg _ h)

/-- What the finalisation makes of a record with the disposition of its evidence -/
theorem finalize_of_eq
    (h : comparison.disposition = (evidenceDisposition resolver plan comparison).value) :
    finalizePhysicalCandidateComparison resolver plan comparison =
      comparison.conclude (evidenceDisposition resolver plan comparison)
        (defects resolver plan comparison) := by
  have hvalidation : validatePhysicalCandidateComparison resolver plan (identify comparison) = _ :=
    @validate_of_eq resolver plan comparison _ comparison.diagnosticCodes _ rfl h
  simp only [finalizePhysicalCandidateComparison, hvalidation]
  rfl

theorem finalize_of_ne
    (h : comparison.disposition ≠ (evidenceDisposition resolver plan comparison).value) :
    finalizePhysicalCandidateComparison resolver plan comparison =
      comparison.conclude .invalid
        (insert dispositionMismatch (defects resolver plan comparison)) := by
  have hvalidation : validatePhysicalCandidateComparison resolver plan (identify comparison) = _ :=
    @validate_of_ne resolver plan comparison _ comparison.diagnosticCodes _ rfl h
  simp only [finalizePhysicalCandidateComparison, hvalidation]
  rfl

/-- The finalisation of a record validates to what it says and stays as it is. Without a defect in
the evidence it is complete when a candidate is selected, and otherwise incomplete. -/
structure Settled (resolver : ImmutableResolver) (plan : FrozenPhysicalComparisonPlan)
    (comparison : PhysicalCandidateComparisonRecord) : Prop where
  idempotent : finalizePhysicalCandidateComparison resolver plan
      (finalizePhysicalCandidateComparison resolver plan comparison) =
    finalizePhysicalCandidateComparison resolver plan comparison
  disposition : (validatePhysicalCandidateComparison resolver plan
      (finalizePhysicalCandidateComparison resolver plan comparison)).disposition.value =
    (finalizePhysicalCandidateComparison resolver plan comparison).disposition
  diagnosticCodes : (validatePhysicalCandidateComparison resolver plan
      (finalizePhysicalCandidateComparison resolver plan comparison)).diagnosticCodes =
    (finalizePhysicalCandidateComparison resolver plan comparison).diagnosticCodes
  sound : Sound resolver plan comparison →
    (finalizePhysicalCandidateComparison resolver plan comparison).disposition =
      if comparison.selectedCandidateId = none then text "incomplete" else text "complete"

theorem dispositionOf_empty (selected : Option Text) :
    (dispositionOf ∅ selected).value =
      if selected = none then text "incomplete" else text "complete" := by
  cases selected <;> rfl

theorem settled_of_eq
    (h : comparison.disposition = (evidenceDisposition resolver plan comparison).value) :
    Settled resolver plan comparison := by
  have hfinal := finalize_of_eq h
  have hvalidation := validate_conclude (defects resolver plan comparison)
    (rfl : evidenceDisposition resolver plan comparison = _)
  constructor
  case idempotent =>
    have hagain : evidenceDisposition resolver plan
        (comparison.conclude (evidenceDisposition resolver plan comparison)
          (defects resolver plan comparison)) = evidenceDisposition resolver plan comparison :=
      evidenceDisposition_withPlaceholders _ _ _
    have hsame : defects resolver plan
        (comparison.conclude (evidenceDisposition resolver plan comparison)
          (defects resolver plan comparison)) = defects resolver plan comparison :=
      defects_withPlaceholders _ _ _
    rw [hfinal, finalize_of_eq (congrArg ComparisonDisposition.value hagain.symm), hagain, hsame]
    rfl
  case disposition =>
    rw [hfinal, hvalidation]
    rfl
  case diagnosticCodes =>
    rw [hfinal, hvalidation]
    rfl
  case sound =>
    intro hsound
    rw [hfinal, ← dispositionOf_empty, ← defects_eq_empty.mpr hsound]
    rfl

/-- A record with another disposition keeps the code of it, which its evidence does not have, or is
invalid without a defect. -/
theorem not_settled_of_ne
    (h : comparison.disposition ≠ (evidenceDisposition resolver plan comparison).value) :
    ¬Settled resolver plan comparison := by
  intro hsettled
  have hfinal := finalize_of_ne h
  by_cases hempty : defects resolver plan comparison = ∅
  · have hdisposition := hsettled.sound (defects_eq_empty.mp hempty)
    rw [hfinal] at hdisposition
    change text "invalid" = _ at hdisposition
    split_ifs at hdisposition
    · exact absurd hdisposition (by decide)
    · exact absurd hdisposition (by decide)
  · have hinvalid : evidenceDisposition resolver plan comparison = .invalid := if_pos hempty
    have hcodes := hsettled.diagnosticCodes
    rw [hfinal, validate_conclude _ hinvalid.symm] at hcodes
    change defects resolver plan comparison = insert _ _ at hcodes
    refine @dispositionMismatch_notMem_defects resolver plan comparison ?_
    rw [hcodes]
    exact Finset.mem_insert_self _ _

theorem settled_iff : Settled resolver plan comparison ↔
    comparison.disposition = (evidenceDisposition resolver plan comparison).value := by
  refine ⟨fun h => ?_, settled_of_eq⟩
  by_contra hne
  exact not_settled_of_ne hne h

/-- What a record has to carry as its disposition: `invalid` when the evidence is not sound,
`incomplete` when no candidate is selected, and `complete` otherwise -/
def Due (resolver : ImmutableResolver) (plan : FrozenPhysicalComparisonPlan)
    (comparison : PhysicalCandidateComparisonRecord) (disposition : Text) : Prop :=
  (¬Sound resolver plan comparison ∧ disposition = text "invalid") ∨
    (Sound resolver plan comparison ∧ comparison.selectedCandidateId = none ∧
      disposition = text "incomplete") ∨
    (Sound resolver plan comparison ∧ comparison.selectedCandidateId ≠ none ∧
      disposition = text "complete")

theorem due_iff {disposition : Text} : Due resolver plan comparison disposition ↔
    disposition = (evidenceDisposition resolver plan comparison).value := by
  rw [Due, ← defects_eq_empty, evidenceDisposition, dispositionOf]
  by_cases hempty : defects resolver plan comparison = ∅
  · by_cases hselected : comparison.selectedCandidateId = none
    · simp [hempty, hselected, ComparisonDisposition.value]
    · simp [hempty, hselected, ComparisonDisposition.value]
  · simp [hempty, ComparisonDisposition.value]

/-- The finalisation of a record does not depend on what was put in where it puts its own values, and
settles it, if and only if the disposition that was put in is the one that the evidence is due. -/
theorem finalize_exact_iff (resolver : ImmutableResolver) (plan : FrozenPhysicalComparisonPlan)
    (comparison : PhysicalCandidateComparisonRecord) (disposition : Text)
    (diagnosticCodes : Finset Text) (recordContentId : Text) :
    (finalizePhysicalCandidateComparison resolver plan comparison =
        finalizePhysicalCandidateComparison resolver plan
          (comparison.withPlaceholders disposition diagnosticCodes recordContentId) ∧
      Settled resolver plan comparison ∧ Settled resolver plan
        (comparison.withPlaceholders disposition diagnosticCodes recordContentId)) ↔
    Due resolver plan comparison comparison.disposition ∧
      Due resolver plan comparison disposition := by
  rw [settled_iff, settled_iff, evidenceDisposition_withPlaceholders, due_iff, due_iff]
  change _ ∧ _ ∧ disposition = _ ↔ _ ∧ _
  constructor
  · rintro ⟨-, h, h'⟩
    exact ⟨h, h'⟩
  · rintro ⟨h, h'⟩
    refine ⟨?_, h, h'⟩
    have hother := @evidenceDisposition_withPlaceholders resolver plan comparison disposition
      diagnosticCodes recordContentId
    rw [finalize_of_eq h, finalize_of_eq (h'.trans (congrArg _ hother.symm)), hother,
      defects_withPlaceholders]
    rfl

/-! ## A comparison without a defect -/

/-- The candidate of a family, which is known by one identity -/
def sampleCandidate (n : Fin 16) (family : String) : PhysicalCandidate :=
  ⟨(sampleId n).val, text family, (sampleId n).val, (sampleId n).val, (sampleId n).val, ∅⟩

def unsignedPlan : FrozenPhysicalComparisonPlan where
  schemaVersion := comparisonSchema
  protocolId := (sampleId 4).val
  featureSchemaId := (sampleId 4).val
  partitionId := (sampleId 4).val
  preprocessingStateId := (sampleId 4).val
  normalTrainingEvidenceId := (sampleId 4).val
  validationEvidenceId := (sampleId 4).val
  tuningAccessId := (sampleId 4).val
  resourceBudgetId := (sampleId 4).val
  selectionRuleId := (sampleId 4).val
  primaryMetricIds := {(sampleId 5).val}
  repetitionIds := {(sampleId 6).val}
  candidates := [sampleCandidate 1 "lstm_ae", sampleCandidate 2 "gru_ae",
    sampleCandidate 3 "transparent_baseline"]
  planContentId := []
  authorizationEffect := text "none"
  sorted := by decide +kernel

def samplePlan : FrozenPhysicalComparisonPlan :=
  { unsignedPlan with planContentId := unsignedPlan.contentId }

/-- The complete run of a candidate -/
def sampleRun (n : Fin 16) : PhysicalCandidateRun where
  candidateId := (sampleId n).val
  repetitionId := (sampleId 6).val
  featureSchemaId := (sampleId 4).val
  partitionId := (sampleId 4).val
  preprocessingStateId := (sampleId 4).val
  normalTrainingEvidenceId := (sampleId 4).val
  validationEvidenceId := (sampleId 4).val
  tuningAccessId := (sampleId 4).val
  resourceBudgetId := (sampleId 4).val
  configurationId := (sampleId n).val
  status := text "complete"
  outputIds := {(sampleId 7).val}
  resourceEvidenceIds := ∅
  diagnosticIds := ∅
  limitationIds := ∅
  appliedExceptionIds := ∅

/-- The first candidate is selected, and the comparison not yet disposed of. -/
def sampleComparison : PhysicalCandidateComparisonRecord where
  schemaVersion := comparisonSchema
  planContentId := samplePlan.planContentId
  runRecords := [sampleRun 1, sampleRun 2, sampleRun 3]
  selectedCandidateId := some (sampleId 1).val
  selectionRecordId := some (sampleId 8).val
  nonSelectedCandidateIds := {(sampleId 2).val, (sampleId 3).val}
  disposition := text "incomplete"
  diagnosticCodes := ∅
  recordContentId := []
  authorizationEffect := text "none"
  sorted := by decide +kernel

theorem soundPlan_samplePlan : SoundPlan (fun _ => true) samplePlan where
  schema := rfl
  common := by
    intro value hvalue
    simp only [FrozenPhysicalComparisonPlan.common, samplePlan, unsignedPlan, List.mem_append,
      Finset.mem_sort, Finset.mem_singleton, List.mem_cons, List.not_mem_nil, or_false] at hvalue
    rcases hvalue with (hvalue | rfl) | rfl
    · obtain rfl : value = (sampleId 4).val := by simpa using hvalue
      exact immutable_sampleId 4
    · exact immutable_sampleId 5
    · exact immutable_sampleId 6
  distinct := by decide +kernel
  required := by decide +kernel
  candidates := by
    have hcandidate (n : Fin 16) (family : String) (h : text family ∈ requiredFamilies) :
        (sampleCandidate n family).family ∈ requiredFamilies ∧
          ∀ value ∈ [(sampleCandidate n family).candidateId,
            (sampleCandidate n family).architectureIdentity,
            (sampleCandidate n family).parameterSetId, (sampleCandidate n family).configurationId] ++
            (sampleCandidate n family).preregisteredExceptionIds.sort (· ≤ ·),
            immutable (fun _ => true) value := by
      refine ⟨h, fun value hvalue => ?_⟩
      obtain rfl : value = (sampleId n).val := by simpa [sampleCandidate] using hvalue
      exact immutable_sampleId n
    intro candidate hmem
    simp only [samplePlan, unsignedPlan, List.mem_cons, List.not_mem_nil, or_false] at hmem
    rcases hmem with rfl | rfl | rfl
    · exact hcandidate 1 _ (by decide)
    · exact hcandidate 2 _ (by decide)
    · exact hcandidate 3 _ (by decide)
  authorization := rfl
  identified := rfl

theorem soundRun_sampleRun {n : Fin 16} {family : String}
    (h : sampleCandidate n family ∈ samplePlan.candidates) :
    SoundRun (fun _ => true) samplePlan (sampleRun n) where
  shared := rfl
  candidate := ⟨_, h, rfl, rfl, rfl⟩
  status := by
    change text "complete" ∈ runStatuses
    decide
  evidence := by
    have hevidence : (sampleRun n).evidence = [(sampleId 7).val] := by
      simp [PhysicalCandidateRun.evidence, sampleRun]
    rw [hevidence]
    exact ⟨by simp, by simpa using immutable_sampleId 7⟩

theorem sound_sampleComparison : Sound (fun _ => true) samplePlan sampleComparison where
  frozen := soundPlan_samplePlan
  bound := ⟨rfl, rfl⟩
  once := by decide +kernel
  planned := by
    intro candidateId repetition
    simp [sampleComparison, sampleRun, samplePlan, unsignedPlan, sampleCandidate]
    tauto
  runs := by
    intro run hrun
    simp only [sampleComparison, List.mem_cons, List.not_mem_nil, or_false] at hrun
    rcases hrun with rfl | rfl | rfl
    · exact @soundRun_sampleRun 1 "lstm_ae" List.mem_cons_self
    · exact @soundRun_sampleRun 2 "gru_ae" (List.mem_cons_of_mem _ List.mem_cons_self)
    · exact @soundRun_sampleRun 3 "transparent_baseline"
        (List.mem_cons_of_mem _ (List.mem_cons_of_mem _ List.mem_cons_self))
  selection := by
    have hne {m n : Fin 16} (h : m ≠ n) : (sampleId m).val ≠ (sampleId n).val :=
      fun heq => h (sampleId_injective heq)
    refine ⟨⟨List.mem_cons_self, sampleRun 1, List.mem_cons_self, rfl, rfl⟩,
      immutable_sampleId 8, fun other => ?_⟩
    simp only [sampleComparison, samplePlan, unsignedPlan, sampleCandidate, List.map_cons,
      List.map_nil, List.mem_cons, List.not_mem_nil, or_false, Finset.mem_insert,
      Finset.mem_singleton]
    constructor
    · rintro (rfl | rfl)
      · exact ⟨.inr (.inl rfl), hne (by decide)⟩
      · exact ⟨.inr (.inr rfl), hne (by decide)⟩
    · rintro ⟨rfl | h, hother⟩
      · exact absurd rfl hother
      · exact h
  authorization := rfl

/-- A sound comparison with a selected candidate is finalised as invalid, because it was not put in
as complete. -/
theorem sampleComparison_invalid : Sound (fun _ => true) samplePlan sampleComparison ∧
    sampleComparison.selectedCandidateId ≠ none ∧
    (finalizePhysicalCandidateComparison (fun _ => true) samplePlan sampleComparison).disposition =
      text "invalid" := by
  have hdisposition : (evidenceDisposition (fun _ => true) samplePlan sampleComparison).value =
      text "complete" := by
    rw [evidenceDisposition, defects_eq_empty.mpr sound_sampleComparison]
    rfl
  refine ⟨sound_sampleComparison, Option.some_ne_none _, ?_⟩
  rw [finalize_of_ne]
  · rfl
  · rw [hdisposition]
    decide

end TruthFingerprint.Evidence.CandidateComparison
