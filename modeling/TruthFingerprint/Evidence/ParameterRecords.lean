import Mathlib
import TruthFingerprint.Evidence.ManifestBytes

/-!
# Parameter evidence

The records of `ParameterEvidence.v1`: revisions of numeric parameters with the authority of each,
the derivations, decisions, measurements and mock admissions that authorities refer to, and the
inventories and required sets that bind revisions to the consumers of numbers. A field that a closed
vocabulary describes may hold any string, which the gate checks.

A record is identified by the digest of its content with the digest's own field blanked. `none` is a
string that cannot be encoded, which raises.
-/

namespace TruthFingerprint.Evidence.Parameter

abbrev Json := Python.Value Unit

def optionDoc (t : Option Text) : Json :=
  match t with
  | none => .null
  | some t => .str t

def boolOptionDoc (b : Option Bool) : Json :=
  match b with
  | none => .null
  | some b => .bool b

def textsDoc (ts : List Text) : Json := .arr (ts.map .str)

/-! ## Vocabularies -/

/-- `ParameterClass` -/
inductive ParameterClass where
  | direct
  | derived
  | measured
  | preregisteredFactor
  | mock
deriving DecidableEq

def ParameterClass.value : ParameterClass → Text
  | .direct => text "direct"
  | .derived => text "derived"
  | .measured => text "measured"
  | .preregisteredFactor => text "preregistered_factor"
  | .mock => text "mock"

def ParameterClass.all : List ParameterClass :=
  [.direct, .derived, .measured, .preregisteredFactor, .mock]

/-- `NumericValueKind` -/
inductive NumericValueKind where
  | scalar
  | interval
  | observationTransform
  | unresolved
deriving DecidableEq

def NumericValueKind.value : NumericValueKind → Text
  | .scalar => text "scalar"
  | .interval => text "interval"
  | .observationTransform => text "observation_transform"
  | .unresolved => text "unresolved"

/-- The kind that a token names -/
def NumericValueKind.ofToken (token : Text) : Option NumericValueKind :=
  [NumericValueKind.scalar, .interval, .observationTransform, .unresolved].find? (·.value = token)

def valueRoles : List Text := [text "single", text "lower_endpoint", text "upper_endpoint"]

def recordStates : List Text :=
  [text "valid", text "blocked", text "unresolved", text "legacy_only"]

def approvalStates : List Text :=
  [text "approved", text "planning_frozen", text "conditional", text "candidate",
    text "pending_source", text "pending_decision"]

/-- The approvals that a formal slot may rest on -/
def approvedStates : List Text := [text "approved", text "planning_frozen"]

def units : List Text :=
  [text "mA", text "percent", text "one", text "degC", text "bar", text "rpm", text "second",
    text "millisecond", text "count", text "byte", text "CPU-hour"]

def quantityKinds : List Text :=
  [text "loop_current", text "normalized_span", text "temperature", text "pressure_gauge",
    text "pressure_absolute", text "rotational_speed", text "speed_reference",
    text "capacity_reference", text "power_reference", text "noise_amplitude",
    text "dynamic_factor", text "comparison_tolerance", text "decision_threshold",
    text "window_length", text "queue_capacity", text "capture_loss_fraction", text "duration",
    text "ramp_duration", text "dwell_duration", text "repetition_count",
    text "bootstrap_replicate_count", text "independent_cluster_count", text "sample_count",
    text "sample_offset", text "window_count", text "random_seed", text "model_hyperparameter",
    text "training_stopping", text "split_fraction", text "calibration_parameter",
    text "metric_parameter", text "fusion_parameter", text "computational_budget"]

def uncertaintyKinds : List Text :=
  [text "uncertainty", text "dispersion", text "not_applicable"]

def authenticFeasibilities : List Text :=
  [text "available", text "unavailable_with_evidence", text "unresolved"]

def syntheticStatuses : List Text :=
  [text "authentic", text "mock", text "mock_derived", text "not_applicable"]

def inventoryCategories : List Text :=
  [text "ranges_endpoints", text "schedule_setpoints", text "noise", text "dynamics",
    text "tolerances", text "thresholds", text "preprocessing_windows",
    text "queues_backpressure", text "capture_loss_quality", text "duration_ramp_dwell_timing",
    text "repetitions_seeds", text "model_training_hyperparameters_stopping",
    text "split_calibration", text "metrics_evaluation", text "fusion"]

def categoryStates : List Text := [text "required", text "not_applicable"]

def locusDispositions : List Text :=
  [text "formal_v2_required", text "legacy_v1_only", text "infrastructure_exempt",
    text "unresolved_future_v2"]

/-- `UNIT_BY_QUANTITY` -/
def unitByQuantity : List (Text × List Text) :=
  [(text "loop_current", [text "mA"]), (text "normalized_span", [text "one"]),
    (text "temperature", [text "degC"]), (text "pressure_gauge", [text "bar"]),
    (text "pressure_absolute", [text "bar"]), (text "rotational_speed", [text "rpm"]),
    (text "speed_reference", [text "percent"]), (text "capacity_reference", [text "percent"]),
    (text "power_reference", [text "percent"]), (text "window_length", [text "count"]),
    (text "queue_capacity", [text "count", text "byte"]),
    (text "capture_loss_fraction", [text "one"]),
    (text "duration", [text "second", text "millisecond"]),
    (text "ramp_duration", [text "second", text "millisecond"]),
    (text "dwell_duration", [text "second", text "millisecond"]),
    (text "repetition_count", [text "count"]), (text "bootstrap_replicate_count", [text "count"]),
    (text "independent_cluster_count", [text "count"]), (text "sample_count", [text "count"]),
    (text "sample_offset", [text "count"]), (text "window_count", [text "count"]),
    (text "random_seed", [text "count"]), (text "split_fraction", [text "one"]),
    (text "model_hyperparameter", [text "one", text "count"]),
    (text "training_stopping", [text "one", text "count"]),
    (text "calibration_parameter", [text "one", text "count"]),
    (text "metric_parameter", [text "one", text "count"]),
    (text "computational_budget", [text "one", text "CPU-hour"])]

/-- `QUANTITY_LOCATOR_TERMS` -/
def quantityLocatorTerms : List (Text × List Text) :=
  [(text "loop_current", [text "current", text "ma"]),
    (text "temperature", [text "temperature", text "pt100", text "degc"]),
    (text "pressure_gauge", [text "gauge"]), (text "pressure_absolute", [text "absolute"]),
    (text "rotational_speed", [text "rpm", text "speed"])]

/-! ## Values -/

structure NumericValue where
  kind : Text
  scalar : Option Text
  lower : Option Text
  upper : Option Text
  lowerInclusive : Option Bool
  upperInclusive : Option Bool
  unresolvedReason : Option Text
deriving DecidableEq

def NumericValue.toDict (value : NumericValue) : Json :=
  .obj [(text "kind", .str value.kind), (text "scalar", optionDoc value.scalar),
    (text "lower", optionDoc value.lower), (text "upper", optionDoc value.upper),
    (text "lower_inclusive", boolOptionDoc value.lowerInclusive),
    (text "upper_inclusive", boolOptionDoc value.upperInclusive),
    (text "unresolved_reason", optionDoc value.unresolvedReason)]

structure UncertaintyRecord where
  kind : Text
  estimate : Option Text
  unit : Option Text
  method : Option Text
  componentIds : List Text
  coverage : Option Text
  evidenceReference : Option Text
  rationale : Option Text
deriving DecidableEq

def UncertaintyRecord.toDict (record : UncertaintyRecord) : Json :=
  .obj [(text "kind", .str record.kind), (text "estimate", optionDoc record.estimate),
    (text "unit", optionDoc record.unit), (text "method", optionDoc record.method),
    (text "component_ids", textsDoc record.componentIds),
    (text "coverage", optionDoc record.coverage),
    (text "evidence_reference", optionDoc record.evidenceReference),
    (text "rationale", optionDoc record.rationale)]

/-! ## Authorities and revisions -/

structure DirectAuthority where
  sourceRevisionId : Text
  sourceUseId : Text
  documentedValue : NumericValue
  documentedUnit : Text
  documentedQuantityKind : Text
deriving DecidableEq

structure MockAuthority where
  mockAdmissionId : Text
  mockClaimId : Text
deriving DecidableEq

/-- What a revision rests on. Authorities but the first and the last hold one identifier. -/
inductive Authority where
  | direct (authority : DirectAuthority)
  | derived (derivationId : Text)
  | measured (measurementEvidenceId : Text)
  | decision (decisionId : Text)
  | mock (authority : MockAuthority)
deriving DecidableEq

/-- The class of parameters that rest on such an authority -/
def Authority.parameterClass : Authority → ParameterClass
  | .direct _ => .direct
  | .derived _ => .derived
  | .measured _ => .measured
  | .decision _ => .preregisteredFactor
  | .mock _ => .mock

structure ParameterRevision where
  parameterId : Text
  parameterRevisionId : Text
  revisionSha256 : Text
  parameterClass : Text
  valueRole : Text
  value : NumericValue
  unit : Text
  quantityKind : Text
  recordState : Text
  approvalState : Text
  migrationStatus : Text
  profileId : Text
  experimentScope : Text
  authenticReproductionFeasibility : Text
  prototypeComponent : Text
  consumerLocator : Text
  researchQuestion : Text
  evidenceTrack : Text
  finalPackageElement : Text
  transferabilityRationale : Text
  limitations : List Text
  uncertainty : UncertaintyRecord
  owner : Text
  syntheticStatus : Text
  directAuthority : Option DirectAuthority
  derivedAuthority : Option Text
  measuredAuthority : Option Text
  decisionAuthority : Option Text
  mockAuthority : Option MockAuthority
deriving DecidableEq

/-- A record of one member, or `None` -/
def referenceDoc (name : String) (reference : Option Text) : Json :=
  match reference with
  | none => .null
  | some id => .obj [(text name, .str id)]

def directAuthorityDoc (authority : Option DirectAuthority) : Json :=
  match authority with
  | none => .null
  | some a => .obj [(text "source_revision_id", .str a.sourceRevisionId),
    (text "source_use_id", .str a.sourceUseId),
    (text "documented_value", a.documentedValue.toDict),
    (text "documented_unit", .str a.documentedUnit),
    (text "documented_quantity_kind", .str a.documentedQuantityKind)]

def mockAuthorityDoc (authority : Option MockAuthority) : Json :=
  match authority with
  | none => .null
  | some a => .obj [(text "mock_admission_id", .str a.mockAdmissionId),
    (text "mock_claim_id", .str a.mockClaimId)]

def ParameterRevision.toDict (r : ParameterRevision) : Python.Members Unit :=
  [(text "parameter_id", .str r.parameterId),
    (text "parameter_revision_id", .str r.parameterRevisionId),
    (text "revision_sha256", .str r.revisionSha256),
    (text "parameter_class", .str r.parameterClass), (text "value_role", .str r.valueRole),
    (text "value", r.value.toDict), (text "unit", .str r.unit),
    (text "quantity_kind", .str r.quantityKind), (text "record_state", .str r.recordState),
    (text "approval_state", .str r.approvalState),
    (text "migration_status", .str r.migrationStatus), (text "profile_id", .str r.profileId),
    (text "experiment_scope", .str r.experimentScope),
    (text "authentic_reproduction_feasibility", .str r.authenticReproductionFeasibility),
    (text "prototype_component", .str r.prototypeComponent),
    (text "consumer_locator", .str r.consumerLocator),
    (text "research_question", .str r.researchQuestion),
    (text "evidence_track", .str r.evidenceTrack),
    (text "final_package_element", .str r.finalPackageElement),
    (text "transferability_rationale", .str r.transferabilityRationale),
    (text "limitations", textsDoc r.limitations), (text "uncertainty", r.uncertainty.toDict),
    (text "owner", .str r.owner), (text "synthetic_status", .str r.syntheticStatus),
    (text "direct_authority", directAuthorityDoc r.directAuthority),
    (text "derived_authority", referenceDoc "derivation_id" r.derivedAuthority),
    (text "measured_authority", referenceDoc "measurement_evidence_id" r.measuredAuthority),
    (text "decision_authority", referenceDoc "decision_id" r.decisionAuthority),
    (text "mock_authority", mockAuthorityDoc r.mockAuthority)]

/-- The authorities that a revision names, one of each class at most -/
def ParameterRevision.authorities (r : ParameterRevision) : List Authority :=
  (r.directAuthority.map .direct).toList ++ (r.derivedAuthority.map .derived).toList ++
    (r.measuredAuthority.map .measured).toList ++ (r.decisionAuthority.map .decision).toList ++
    (r.mockAuthority.map .mock).toList

/-! ## Derivations -/

structure ConformanceVector where
  inputValue : Text
  expectedOutput : Text
deriving DecidableEq

structure DerivationSpec where
  derivationId : Text
  derivationKind : Text
  operation : Text
  inputLowRevisionId : Text
  inputHighRevisionId : Text
  outputLowRevisionId : Text
  outputHighRevisionId : Text
  selectedInputRevisionId : Option Text
  observationVariable : Option Text
  observationUnit : Option Text
  declaredOutput : Option Text
  outputUnit : Text
  conformanceVectors : List ConformanceVector
  decimalPrecision : Int
  rounding : Text
deriving DecidableEq

def DerivationSpec.toDict (spec : DerivationSpec) : Json :=
  .obj [(text "derivation_id", .str spec.derivationId),
    (text "derivation_kind", .str spec.derivationKind), (text "operation", .str spec.operation),
    (text "input_low_revision_id", .str spec.inputLowRevisionId),
    (text "input_high_revision_id", .str spec.inputHighRevisionId),
    (text "output_low_revision_id", .str spec.outputLowRevisionId),
    (text "output_high_revision_id", .str spec.outputHighRevisionId),
    (text "selected_input_revision_id", optionDoc spec.selectedInputRevisionId),
    (text "observation_variable", optionDoc spec.observationVariable),
    (text "observation_unit", optionDoc spec.observationUnit),
    (text "declared_output", optionDoc spec.declaredOutput),
    (text "output_unit", .str spec.outputUnit),
    (text "conformance_vectors", .arr (spec.conformanceVectors.map fun vector =>
      .obj [(text "input_value", .str vector.inputValue),
        (text "expected_output", .str vector.expectedOutput)])),
    (text "decimal_precision", .num (.int spec.decimalPrecision)),
    (text "rounding", .str spec.rounding)]

/-! ## Decisions -/

structure DecisionValue where
  parameterId : Text
  value : NumericValue
  unit : Text
  quantityKind : Text
  valueRole : Text
deriving DecidableEq

def DecisionValue.toDict (value : DecisionValue) : Json :=
  .obj [(text "parameter_id", .str value.parameterId), (text "value", value.value.toDict),
    (text "unit", .str value.unit), (text "quantity_kind", .str value.quantityKind),
    (text "value_role", .str value.valueRole)]

structure DecisionRecord where
  decisionId : Text
  recordSha256 : Text
  contentSha256 : Text
  owner : Text
  approvedBy : Text
  approvedAt : Text
  freezeTime : Text
  mutable : Bool
  testLocked : Bool
  truthLocked : Bool
  parameterIds : List Text
  parameterValues : List DecisionValue
  profileId : Text
  experimentScope : Text
  component : Text
  question : Text
  evidenceTrack : Text
  finalOutput : Text
  rationale : Text
  sourceUseIds : List Text
  prohibitedInterpretations : List Text
  limitations : List Text
deriving DecidableEq

def DecisionRecord.toDict (r : DecisionRecord) : Python.Members Unit :=
  [(text "decision_id", .str r.decisionId), (text "record_sha256", .str r.recordSha256),
    (text "content_sha256", .str r.contentSha256), (text "owner", .str r.owner),
    (text "approved_by", .str r.approvedBy), (text "approved_at", .str r.approvedAt),
    (text "freeze_time", .str r.freezeTime), (text "mutable", .bool r.mutable),
    (text "test_locked", .bool r.testLocked), (text "truth_locked", .bool r.truthLocked),
    (text "parameter_ids", textsDoc r.parameterIds),
    (text "parameter_values", .arr (r.parameterValues.map DecisionValue.toDict)),
    (text "profile_id", .str r.profileId), (text "experiment_scope", .str r.experimentScope),
    (text "component", .str r.component), (text "question", .str r.question),
    (text "evidence_track", .str r.evidenceTrack), (text "final_output", .str r.finalOutput),
    (text "rationale", .str r.rationale), (text "source_use_ids", textsDoc r.sourceUseIds),
    (text "prohibited_interpretations", textsDoc r.prohibitedInterpretations),
    (text "limitations", textsDoc r.limitations)]

/-! ## Mock admissions -/

structure MockSupportClaim where
  mockClaimId : Text
  behavior : Text
  expectedValue : Option Text
  unit : Option Text
  quantityKind : Option Text
  scope : Text
  sourceUseIds : List Text
deriving DecidableEq

def MockSupportClaim.toDict (claim : MockSupportClaim) : Json :=
  .obj [(text "mock_claim_id", .str claim.mockClaimId), (text "behavior", .str claim.behavior),
    (text "expected_value", optionDoc claim.expectedValue), (text "unit", optionDoc claim.unit),
    (text "quantity_kind", optionDoc claim.quantityKind), (text "scope", .str claim.scope),
    (text "source_use_ids", textsDoc claim.sourceUseIds)]

structure MockParameterRevisionBinding where
  parameterRevisionId : Text
  revisionSha256 : Text
deriving DecidableEq

structure MockAdmission where
  mockAdmissionId : Text
  recordSha256 : Text
  contentSha256 : Text
  owner : Text
  approvedBy : Text
  approvedAt : Text
  mutable : Bool
  authenticPathAssessment : Text
  authenticFeasibility : Text
  reproductionAssessmentIdentity : Text
  reproductionDisposition : Text
  prototypeComponentId : Text
  exactEntrypoint : Text
  interfaceSchemaVersion : Text
  codeIdentity : Text
  runtimeIdentity : Text
  configurationIdentity : Text
  parameterClosureId : Text
  parameterRevisionBindings : List MockParameterRevisionBinding
  randomnessMode : Text
  seedClosureId : Text
  seedParameterRevisionId : Option Text
  seedParameterRevisionSha256 : Option Text
  permittedOutputRole : Text
  permittedOutputRecordFamily : Text
  semanticProvenance : Text
  emissionTraceIdentity : Text
  simulatorProfile : Text
  purpose : Text
  component : Text
  question : Text
  evidenceTrack : Text
  finalOutput : Text
  replacementCondition : Text
  supportClaims : List MockSupportClaim
  prohibitedClaims : List Text
  prohibitedOutputRoles : List Text
  limitations : List Text
deriving DecidableEq

def MockAdmission.toDict (r : MockAdmission) : Python.Members Unit :=
  [(text "mock_admission_id", .str r.mockAdmissionId),
    (text "record_sha256", .str r.recordSha256), (text "content_sha256", .str r.contentSha256),
    (text "owner", .str r.owner), (text "approved_by", .str r.approvedBy),
    (text "approved_at", .str r.approvedAt), (text "mutable", .bool r.mutable),
    (text "authentic_path_assessment", .str r.authenticPathAssessment),
    (text "authentic_feasibility", .str r.authenticFeasibility),
    (text "reproduction_assessment_identity", .str r.reproductionAssessmentIdentity),
    (text "reproduction_disposition", .str r.reproductionDisposition),
    (text "prototype_component_id", .str r.prototypeComponentId),
    (text "exact_entrypoint", .str r.exactEntrypoint),
    (text "interface_schema_version", .str r.interfaceSchemaVersion),
    (text "code_identity", .str r.codeIdentity),
    (text "runtime_identity", .str r.runtimeIdentity),
    (text "configuration_identity", .str r.configurationIdentity),
    (text "parameter_closure_id", .str r.parameterClosureId),
    (text "parameter_revision_bindings", .arr (r.parameterRevisionBindings.map fun binding =>
      .obj [(text "parameter_revision_id", .str binding.parameterRevisionId),
        (text "revision_sha256", .str binding.revisionSha256)])),
    (text "randomness_mode", .str r.randomnessMode),
    (text "seed_closure_id", .str r.seedClosureId),
    (text "seed_parameter_revision_id", optionDoc r.seedParameterRevisionId),
    (text "seed_parameter_revision_sha256", optionDoc r.seedParameterRevisionSha256),
    (text "permitted_output_role", .str r.permittedOutputRole),
    (text "permitted_output_record_family", .str r.permittedOutputRecordFamily),
    (text "semantic_provenance", .str r.semanticProvenance),
    (text "emission_trace_identity", .str r.emissionTraceIdentity),
    (text "simulator_profile", .str r.simulatorProfile), (text "purpose", .str r.purpose),
    (text "component", .str r.component), (text "question", .str r.question),
    (text "evidence_track", .str r.evidenceTrack), (text "final_output", .str r.finalOutput),
    (text "replacement_condition", .str r.replacementCondition),
    (text "support_claims", .arr (r.supportClaims.map MockSupportClaim.toDict)),
    (text "prohibited_claims", textsDoc r.prohibitedClaims),
    (text "prohibited_output_roles", textsDoc r.prohibitedOutputRoles),
    (text "limitations", textsDoc r.limitations)]

/-! ## Measurements -/

structure MeasurementEvidenceRef where
  measurementEvidenceId : Text
  version : Text
  locator : Text
  sha256 : Text
  byteSize : Int
  methodIdentity : Text
  environmentIdentity : Text
  profileId : Text
  experimentScope : Text
  sampleIds : List Text
  runIds : List Text
  measuredAt : Text
  result : Text
  unit : Text
  uncertainty : UncertaintyRecord
  owner : Text
  approvalState : Text
  limitations : List Text
deriving DecidableEq

def MeasurementEvidenceRef.toDict (r : MeasurementEvidenceRef) : Json :=
  .obj [(text "measurement_evidence_id", .str r.measurementEvidenceId),
    (text "version", .str r.version), (text "locator", .str r.locator),
    (text "sha256", .str r.sha256), (text "byte_size", .num (.int r.byteSize)),
    (text "method_identity", .str r.methodIdentity),
    (text "environment_identity", .str r.environmentIdentity),
    (text "profile_id", .str r.profileId), (text "experiment_scope", .str r.experimentScope),
    (text "sample_ids", textsDoc r.sampleIds), (text "run_ids", textsDoc r.runIds),
    (text "measured_at", .str r.measuredAt), (text "result", .str r.result),
    (text "unit", .str r.unit), (text "uncertainty", r.uncertainty.toDict),
    (text "owner", .str r.owner), (text "approval_state", .str r.approvalState),
    (text "limitations", textsDoc r.limitations)]

/-- `TemporalGateContext` -/
structure TemporalGateContext where
  contextId : Text
  freezeIdentity : Text
  freezeTime : Text
  testIdentity : Text
  testTime : Text
  truthIdentity : Text
  truthTime : Text
deriving DecidableEq

/-! ## Inventories and required sets -/

structure ParameterRequirement where
  slotId : Text
  category : Text
  consumerLocator : Text
  quantityKind : Text
  unit : Text
  valueRole : Text
  scope : Text
  profileId : Text
  notApplicableAllowed : Bool
deriving DecidableEq

def ParameterRequirement.toDict (r : ParameterRequirement) : Json :=
  .obj [(text "slot_id", .str r.slotId), (text "category", .str r.category),
    (text "consumer_locator", .str r.consumerLocator),
    (text "quantity_kind", .str r.quantityKind), (text "unit", .str r.unit),
    (text "value_role", .str r.valueRole), (text "scope", .str r.scope),
    (text "profile_id", .str r.profileId),
    (text "not_applicable_allowed", .bool r.notApplicableAllowed)]

structure CategoryDisposition where
  category : Text
  state : Text
  rationale : Text
  ownerApproved : Bool
deriving DecidableEq

def CategoryDisposition.toDict (disposition : CategoryDisposition) : Json :=
  .obj [(text "category", .str disposition.category), (text "state", .str disposition.state),
    (text "rationale", .str disposition.rationale),
    (text "owner_approved", .bool disposition.ownerApproved)]

structure NumericConsumerInventory where
  inventoryId : Text
  componentIdentity : Text
  contractIdentity : Text
  codeIdentity : Text
  scope : Text
  profileId : Text
  requirements : List ParameterRequirement
  categoryDispositions : List CategoryDisposition
deriving DecidableEq

def NumericConsumerInventory.toDict (r : NumericConsumerInventory) : Json :=
  .obj [(text "inventory_id", .str r.inventoryId),
    (text "component_identity", .str r.componentIdentity),
    (text "contract_identity", .str r.contractIdentity),
    (text "code_identity", .str r.codeIdentity), (text "scope", .str r.scope),
    (text "profile_id", .str r.profileId),
    (text "requirements", .arr (r.requirements.map ParameterRequirement.toDict)),
    (text "category_dispositions",
      .arr (r.categoryDispositions.map CategoryDisposition.toDict))]

structure ParameterBinding where
  slotId : Text
  parameterRevisionId : Option Text
  parameterRevisionSha256 : Option Text
  notApplicable : Bool
  rationale : Text
deriving DecidableEq

def ParameterBinding.toDict (binding : ParameterBinding) : Json :=
  .obj [(text "slot_id", .str binding.slotId),
    (text "parameter_revision_id", optionDoc binding.parameterRevisionId),
    (text "parameter_revision_sha256", optionDoc binding.parameterRevisionSha256),
    (text "not_applicable", .bool binding.notApplicable),
    (text "rationale", .str binding.rationale)]

structure RequiredParameterSet where
  requiredSetId : Text
  catalogIdentity : Text
  sourceCatalogIdentity : Text
  vocabularyVersion : Text
  inventoryId : Text
  scope : Text
  profileId : Text
  experimentId : Text
  componentIdentity : Text
  bindings : List ParameterBinding
deriving DecidableEq

def RequiredParameterSet.toDict (r : RequiredParameterSet) : Json :=
  .obj [(text "required_set_id", .str r.requiredSetId),
    (text "catalog_identity", .str r.catalogIdentity),
    (text "source_catalog_identity", .str r.sourceCatalogIdentity),
    (text "vocabulary_version", .str r.vocabularyVersion),
    (text "inventory_id", .str r.inventoryId), (text "scope", .str r.scope),
    (text "profile_id", .str r.profileId), (text "experiment_id", .str r.experimentId),
    (text "component_identity", .str r.componentIdentity),
    (text "bindings", .arr (r.bindings.map ParameterBinding.toDict))]

/-! ## Loci and quarantine -/

structure NumericLocus where
  locusId : Text
  component : Text
  consumerLocator : Text
  category : Text
  scope : Text
  profileId : Text
  valueRole : Text
  lineage : Text
  disposition : Text
  rationale : Text
  relatedIdentity : Text
deriving DecidableEq

def NumericLocus.toDict (locus : NumericLocus) : Json :=
  .obj [(text "locus_id", .str locus.locusId), (text "component", .str locus.component),
    (text "consumer_locator", .str locus.consumerLocator),
    (text "category", .str locus.category), (text "scope", .str locus.scope),
    (text "profile_id", .str locus.profileId), (text "value_role", .str locus.valueRole),
    (text "lineage", .str locus.lineage), (text "disposition", .str locus.disposition),
    (text "rationale", .str locus.rationale),
    (text "related_identity", .str locus.relatedIdentity)]

structure NumericLocusAudit where
  auditId : Text
  entries : List NumericLocus
deriving DecidableEq

structure LegacyQuarantineEntry where
  quarantineId : Text
  group : Text
  currentValueOrPattern : Text
  unit : Text
  repositoryLocator : Text
  formalV2Status : Text
  legacyModeStatus : Text
  reason : Text
  resolutionRequirement : Text
  allowedEffect : Text
deriving DecidableEq

def LegacyQuarantineEntry.toDict (entry : LegacyQuarantineEntry) : Json :=
  .obj [(text "quarantine_id", .str entry.quarantineId), (text "group", .str entry.group),
    (text "current_value_or_pattern", .str entry.currentValueOrPattern),
    (text "unit", .str entry.unit), (text "repository_locator", .str entry.repositoryLocator),
    (text "formal_v2_status", .str entry.formalV2Status),
    (text "legacy_mode_status", .str entry.legacyModeStatus), (text "reason", .str entry.reason),
    (text "resolution_requirement", .str entry.resolutionRequirement),
    (text "allowed_effect", .str entry.allowedEffect)]

/-! ## Catalogs -/

structure ParameterEvidenceCatalog where
  schemaVersion : Text
  semanticVocabularyVersion : Text
  sourceCatalogIdentity : Text
  parameterRevisions : List ParameterRevision
  derivations : List DerivationSpec
  decisions : List DecisionRecord
  mockAdmissions : List MockAdmission
  measurements : List MeasurementEvidenceRef
  inventories : List NumericConsumerInventory
  requiredSets : List RequiredParameterSet
  locusAudits : List NumericLocusAudit
  legacyQuarantine : List LegacyQuarantineEntry
deriving DecidableEq

def ParameterEvidenceCatalog.toDict (c : ParameterEvidenceCatalog) : Json :=
  .obj [(text "schema_version", .str c.schemaVersion),
    (text "semantic_vocabulary_version", .str c.semanticVocabularyVersion),
    (text "source_catalog_identity", .str c.sourceCatalogIdentity),
    (text "parameter_revisions", .arr (c.parameterRevisions.map fun r => .obj r.toDict)),
    (text "derivations", .arr (c.derivations.map DerivationSpec.toDict)),
    (text "decisions", .arr (c.decisions.map fun r => .obj r.toDict)),
    (text "mock_admissions", .arr (c.mockAdmissions.map fun r => .obj r.toDict)),
    (text "measurements", .arr (c.measurements.map MeasurementEvidenceRef.toDict)),
    (text "inventories", .arr (c.inventories.map NumericConsumerInventory.toDict)),
    (text "required_sets", .arr (c.requiredSets.map RequiredParameterSet.toDict)),
    (text "locus_audits", .arr (c.locusAudits.map fun audit =>
      .obj [(text "audit_id", .str audit.auditId),
        (text "entries", .arr (audit.entries.map NumericLocus.toDict))])),
    (text "legacy_quarantine", .arr (c.legacyQuarantine.map LegacyQuarantineEntry.toDict)),
    (text "authorization_effect", .str (text "none"))]

/-! ## Identities -/

/-- The digest of the canonical text of a document -/
def documentIdentity (document : Json) : Option Text := (canonicalManifestBytes document).map bytesId

/-- `_record_identity`: the digest of the content with the field of the digest blanked -/
def recordIdentity (members : Python.Members Unit) (selfField : Text) : Option Text :=
  documentIdentity (.obj (members.map fun member =>
    if member.1 = selfField then (member.1, .str []) else member))

def parameterRevisionIdentity (record : ParameterRevision) : Option Text :=
  recordIdentity record.toDict (text "revision_sha256")

def decisionRecordIdentity (record : DecisionRecord) : Option Text :=
  recordIdentity record.toDict (text "record_sha256")

def mockAdmissionIdentity (record : MockAdmission) : Option Text :=
  recordIdentity record.toDict (text "record_sha256")

/-- `parameter_catalog_identity`: the required sets bind the identity, which is blanked in them. -/
def parameterCatalogIdentity (catalog : ParameterEvidenceCatalog) : Option Text :=
  let requiredSets := catalog.requiredSets.map fun requiredSet =>
    { requiredSet with catalogIdentity := [] }
  documentIdentity (ParameterEvidenceCatalog.toDict { catalog with requiredSets := requiredSets })

end TruthFingerprint.Evidence.Parameter
