import Mathlib
import TruthFingerprint.ConsensusV2.Contracts
import TruthFingerprint.ConsensusV2.ReferenceInputs

/-!
# The reference evaluator

`evaluate_consensus_v2_reference`: diagnostics that block the evaluation, the mean-residual
operation on the eligible observations, and the decision that is assembled from it and validated by
its contract.
-/

namespace TruthFingerprint.ConsensusV2

open Python

inductive ConsensusReferenceStatus where
  | blocked
  | evaluated
  deriving DecidableEq

structure ConsensusReferenceTrace where
  roundInputId : Digest
  parameterSetId : Text
  events : List (Text × Digest)

structure ConsensusReferenceEvaluation where
  status : ConsensusReferenceStatus
  decision : Option ConsensusDecisionV2
  diagnostics : List Text
  trace : ConsensusReferenceTrace

abbrev Observation := ConsensusEvaluationObservationV2

/-! ## Diagnostics -/

/-- The diagnostics of the validation results and of missing inputs. -/
def validationDiagnostics (contractValidation : ConsensusContractValidation)
    (parameterValidation : ConsensusParameterValidationResult)
    (operation : Option ConsensusOperationClosureV2) (observations : List Observation) :
    List Text :=
  contractValidation.diagnostics ++ parameterValidation.violations ++
    (if contractValidation.valid then [] else [text "CV2_REFERENCE_CONTRACT_BLOCKED"]) ++
    (if parameterValidation.status = text "valid" then []
      else [text "CV2_REFERENCE_PARAMETER_BLOCKED"]) ++
    (if operation.isNone ∨ observations = []
      then [text "CV2_REFERENCE_OPERATION_INPUT_UNAVAILABLE"] else [])

/-- The parameter set names the basis, a profile and a quality policy of the round, and the
operation. -/
def ParameterClosure (round : ConsensusRoundInputV2) (parameterSet : ConsensusParameterSet)
    (operation : ConsensusOperationClosureV2) : Prop :=
  parameterSet.comparisonBasisId = round.comparisonBasis.basisId.val ∧
    parameterSet.profileId ∈ round.comparisonBasis.profileIds.map Subtype.val ∧
    parameterSet.qualityPolicyId ∈ round.qualityPolicyIds.map Subtype.val ∧
    parameterSet.residualPolicyId = operation.operationId.val ∧
    parameterSet.residualPolicyCanonicalBytesSha256 = operation.operationId.val ∧
    parameterSet.residualPolicyConformanceId = operation.conformanceVectorHash.val

instance (round : ConsensusRoundInputV2) (parameterSet : ConsensusParameterSet)
    (operation : ConsensusOperationClosureV2) :
    Decidable (ParameterClosure round parameterSet operation) :=
  inferInstanceAs (Decidable (_ ∧ _ ∧ _ ∧ _ ∧ _ ∧ _))

/-- The projections are of the edges of the round, each once. -/
def ProjectionClosure (round : ConsensusRoundInputV2) (observations : List Observation) : Prop :=
  (observations.map (·.edgeId)).Nodup ∧
    ∀ edgeId ∈ observations.map (·.edgeId) ++ round.observations.map (·.edgeId),
      edgeId ∈ observations.map (·.edgeId) ↔ edgeId ∈ round.observations.map (·.edgeId)

instance (round : ConsensusRoundInputV2) (observations : List Observation) :
    Decidable (ProjectionClosure round observations) := inferInstanceAs (Decidable (_ ∧ _))

/-- The projections by their edges: a later one of an edge replaces an earlier one. -/
def provided : List Observation → List Observation
  | [] => []
  | item :: items =>
    if item.edgeId ∈ items.map (·.edgeId) then provided items else item :: provided items

/-- A projection refers to the observation of its edge. -/
def Bound (round : ConsensusRoundInputV2) (projection : Observation) : Prop :=
  ∃ source ∈ round.observations, source.edgeId = projection.edgeId ∧
    source.observationId = projection.observationId ∧
    source.observationCanonicalHash = projection.observationCanonicalHash

instance (round : ConsensusRoundInputV2) (projection : Observation) :
    Decidable (Bound round projection) :=
  inferInstanceAs (Decidable (∃ source ∈ round.observations, _))

/-- The diagnostics of inputs that do not belong together. -/
def closureDiagnostics (round : ConsensusRoundInputV2) (parameterSet : ConsensusParameterSet)
    (operation : ConsensusOperationClosureV2) (observations : List Observation) : List Text :=
  (if ParameterClosure round parameterSet operation then []
    else [text "CV2_REFERENCE_OPERATION_PARAMETER_CLOSURE"]) ++
    (if ProjectionClosure round observations then []
      else [text "CV2_REFERENCE_PROJECTION_CLOSURE"]) ++
    (((provided observations).filter fun projection => ¬Bound round projection).map fun _ =>
      text "CV2_REFERENCE_PROJECTION_BINDING") ++
    (if operation.traceMaxEvents < observations.length + 1
      then [text "CV2_REFERENCE_TRACE_BUDGET_EXCEEDED"] else [])

/-! ## The operation -/

def Eligible (observation : Observation) : Prop := observation.eligibilityReasonId = none

instance : DecidablePred Eligible := fun _ => inferInstanceAs (Decidable (_ = _))

def eligible (observations : List Observation) : List Observation :=
  observations.filter (Eligible ·)

def value (observation : Observation) : ℚ := exactDecimal observation.currentValue

/-- The eligible observations with the distances of their values from the mean of these. The mean
is not taken of no values. -/
def residuals (ctx : DecimalContext) (observations : List Observation) :
    Except DecimalSignal (List (Observation × ℚ)) :=
  let eligible := eligible observations
  if eligible = [] then .ok []
  else do
    let mean ← ctx.mean (eligible.map value)
    eligible.mapM fun observation => do
      let residual ← ctx.distance (value observation) mean
      pure (observation, residual)

def kept (operation : ConsensusOperationClosureV2) (rows : List (Observation × ℚ)) :
    List (Observation × ℚ) :=
  rows.filter fun row => row.2 ≤ exactDecimal operation.maxAbsResidual

def dropped (operation : ConsensusOperationClosureV2) (rows : List (Observation × ℚ)) :
    List (Observation × ℚ) :=
  rows.filter fun row => exactDecimal operation.maxAbsResidual < row.2

def sortedIds (ids : List Digest) : List Digest := ids.insertionSort (· ≤ ·)

/-- A row of `excluded`, as the evaluator writes it. -/
structure ExclusionRow where
  edgeId : Digest
  reasonId : Digest
  evidenceId : Digest
  deriving DecidableEq

def sortedRows (rows : List ExclusionRow) : List ExclusionRow :=
  rows.insertionSort (·.edgeId ≤ ·.edgeId)

/-- What the operation decides. -/
structure OperationResult where
  outcome : ConsensusOutcomeV2
  included : List Digest
  ranking : List Digest
  excluded : List ExclusionRow
  deriving DecidableEq

/-- The ineligible observations with their reasons. -/
def ineligibleRows (observations : List Observation) : List ExclusionRow :=
  observations.filterMap fun item =>
    item.eligibilityReasonId.map fun reason => ⟨item.edgeId, reason, item.eligibilityEvidenceId⟩

/-- The edges within the bound, ranked by their residuals, or a failure that excludes every
participant when they are too few. -/
def operate (operation : ConsensusOperationClosureV2) (observations : List Observation)
    (rows : List (Observation × ℚ)) : OperationResult :=
  let included := sortedIds ((kept operation rows).map (·.1.edgeId))
  if included.length < operation.minimumParticipants then
    { outcome := .failure
      included := []
      ranking := []
      excluded := sortedRows (observations.map fun item =>
        ⟨item.edgeId, operation.noRankingReasonId, item.eligibilityEvidenceId⟩) }
  else
    { outcome := .success
      included := included
      ranking := ((kept operation rows).insertionSort fun x y =>
        toLex (x.2, x.1.edgeId) ≤ toLex (y.2, y.1.edgeId)).map (·.1.edgeId)
      excluded := sortedRows (ineligibleRows observations ++ (dropped operation rows).map fun row =>
        ⟨row.1.edgeId, operation.residualReasonId, row.1.eligibilityEvidenceId⟩) }

def decisionDiagnostics (operation : ConsensusOperationClosureV2) :
    ConsensusOutcomeV2 → List Text
  | .failure => [text "no_ranking", text "CV2_OPERATION:" ++ operation.operationId.val]
  | .success => [text "CV2_OPERATION:" ++ operation.operationId.val]

section Evaluate

variable (F : Type)

def ExclusionRow.doc (row : ExclusionRow) : Value F :=
  .obj [(text "edge_id", idDoc row.edgeId), (text "reason_id", idDoc row.reasonId),
    (text "evidence_ids", idsDoc [row.evidenceId])]

/-- The members of the decision that its identity is computed from. -/
def decisionMembers (round : ConsensusRoundInputV2) (operation : ConsensusOperationClosureV2)
    (observations : List Observation) (result : OperationResult) : Members F :=
  [(text "schema_version", .str (text "Consensus.v2")),
    (text "round_input_id", idDoc round.inputContentId),
    (text "round_input_hash", idDoc round.inputContentId),
    (text "comparison_basis", round.comparisonBasis.doc),
    (text "outcome", .str result.outcome.name),
    (text "participant_ids", idsDoc (sortedIds (observations.map (·.edgeId)))),
    (text "included_ids", idsDoc result.included),
    (text "excluded", .arr (result.excluded.map (·.doc F))),
    (text "ranking", idsDoc result.ranking),
    (text "diagnostics", .arr ((decisionDiagnostics operation result.outcome).map .str)),
    (text "authorization_effect", .str (text "none"))]

def liftDecimal {α : Type} (r : Except DecimalSignal α) : Result α := r.mapError .decimal

variable [FloatOps F]

/-- The decision that the evaluator assembles, as its contract takes it. -/
def assemble (members : Members F) : Result ConsensusDecisionV2 := do
  let canonical ← dumps (.obj members)
  decision (.obj (members ++ [(text "decision_content_id", .str (sha256Id canonical))]))

/-- `sorted(set(diagnostics))` -/
def sortedTexts (diagnostics : List Text) : List Text :=
  diagnostics.dedup.insertionSort (· ≤ ·)

def blocked (round : ConsensusRoundInputV2) (parameterSet : ConsensusParameterSet)
    (diagnostics : List Text) : ConsensusReferenceEvaluation :=
  ⟨.blocked, none, sortedTexts diagnostics, ⟨round.inputContentId, parameterSet.parameterSetId, []⟩⟩

/-- An evaluation with a decision: the trace has an event for every edge and the operation. -/
def evaluated (round : ConsensusRoundInputV2) (parameterSet : ConsensusParameterSet)
    (operation : ConsensusOperationClosureV2) (observations : List Observation)
    (decision : ConsensusDecisionV2) : ConsensusReferenceEvaluation :=
  let events := (sortedIds (observations.map (·.edgeId))).map (text "observation", ·) ++
    [(text "operation", operation.operationId)]
  ⟨.evaluated, some decision, [], ⟨round.inputContentId, parameterSet.parameterSetId, events⟩⟩

/-- `evaluate_consensus_v2_reference` -/
def evaluateConsensusV2Reference (round : ConsensusRoundInputV2)
    (parameterSet : ConsensusParameterSet) (contractValidation : ConsensusContractValidation)
    (parameterValidation : ConsensusParameterValidationResult)
    (operation : Option ConsensusOperationClosureV2) (observations : List Observation) :
    Result ConsensusReferenceEvaluation :=
  let diagnostics :=
    validationDiagnostics contractValidation parameterValidation operation observations
  match operation with
  | none => .ok (blocked round parameterSet diagnostics)
  | some operation =>
    if diagnostics ≠ [] then .ok (blocked round parameterSet diagnostics)
    else
      let diagnostics := closureDiagnostics round parameterSet operation observations
      if diagnostics ≠ [] then .ok (blocked round parameterSet diagnostics)
      else do
        let rows ← liftDecimal (residuals defaultContext observations)
        let result := operate operation observations rows
        let decision ← assemble F (decisionMembers F round operation observations result)
        pure (evaluated round parameterSet operation observations decision)

end Evaluate

end TruthFingerprint.ConsensusV2
