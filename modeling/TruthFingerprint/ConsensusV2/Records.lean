import Mathlib
import TruthFingerprint.Identity
import TruthFingerprint.Python.Json

/-!
# The records of Consensus.v2

A round input and a decision as values that carry the closure rules of their contracts. Fields that
the rules determine (content identities, the hash of the basis, units, the schema version) are
computed. `doc` is the document of a record, `canonicalBytes` its encoding without its identity.
-/

namespace TruthFingerprint.ConsensusV2

open Python (Value)

inductive BasisKind where
  | sameProfileRawCurrent
  | dimensionlessProfileResidual
  deriving DecidableEq

namespace BasisKind

def name : BasisKind → Text
  | sameProfileRawCurrent => text "same_profile_raw_current"
  | dimensionlessProfileResidual => text "dimensionless_profile_residual"

def unit : BasisKind → Text
  | sameProfileRawCurrent => text "mA"
  | dimensionlessProfileResidual => text "one"

/-- How many profiles and uncertainty parameters a basis of this kind has. -/
def Closure (profiles uncertainty : List Digest) : BasisKind → Prop
  | sameProfileRawCurrent => profiles.length = 1 ∧ uncertainty = []
  | dimensionlessProfileResidual => 2 ≤ profiles.length ∧ uncertainty ≠ []

instance (profiles uncertainty : List Digest) (kind : BasisKind) :
    Decidable (kind.Closure profiles uncertainty) := by
  cases kind <;> exact inferInstanceAs (Decidable (_ ∧ _))

end BasisKind

structure ComparisonBasis where
  basisId : Digest
  schemaVersion : Text
  canonicalBytes : Text
  kind : BasisKind
  profileIds : List Digest
  uncertaintyParameterIds : List Digest
  schemaVersion_ne : schemaVersion ≠ []
  ascii : canonicalBytes.IsAscii
  profiles_sorted : profileIds.Pairwise (· < ·)
  uncertainty_sorted : uncertaintyParameterIds.Pairwise (· < ·)
  closure : kind.Closure profileIds uncertaintyParameterIds

structure RoundObservation where
  edgeId : Digest
  observationId : Digest
  observationCanonicalHash : Digest
  profileId : Digest
  sourceSequence : Nat
  correlationId : Digest
  sourceSequence_pos : 0 < sourceSequence

/-- What a basis allows as profiles of the observations. -/
def ComparisonBasis.ProfileClosure (basis : ComparisonBasis) (profiles : List Digest) : Prop :=
  ∀ profile ∈ profiles, profile ∈ basis.profileIds

instance (basis : ComparisonBasis) (profiles : List Digest) :
    Decidable (basis.ProfileClosure profiles) :=
  inferInstanceAs (Decidable (∀ profile ∈ profiles, _))

/-- The contents of a round input, without its identity. -/
structure ConsensusRoundInputV2 where
  experimentId : Digest
  runId : Digest
  roundId : Digest
  qualificationResultId : Digest
  comparisonBasis : ComparisonBasis
  qualityPolicyIds : List Digest
  parameterIds : List Digest
  observations : List RoundObservation
  quality_ne : qualityPolicyIds ≠ []
  quality_sorted : qualityPolicyIds.Pairwise (· < ·)
  parameters_sorted : parameterIds.Pairwise (· < ·)
  observations_ne : observations ≠ []
  edges_sorted : (observations.map (·.edgeId)).Pairwise (· < ·)
  profile_closure : comparisonBasis.ProfileClosure (observations.map (·.profileId))
  parameter_closure : ∀ id ∈ comparisonBasis.uncertaintyParameterIds, id ∈ parameterIds

inductive ConsensusOutcomeV2 where
  | success
  | failure
  deriving DecidableEq

def ConsensusOutcomeV2.name : ConsensusOutcomeV2 → Text
  | success => text "success"
  | failure => text "failure"

structure Exclusion where
  edgeId : Digest
  reasonId : Digest
  evidenceIds : List Digest
  evidence_ne : evidenceIds ≠ []
  evidence_sorted : evidenceIds.Pairwise (· < ·)

/-- The contents of a decision, without its identity. -/
structure ConsensusDecisionV2 where
  roundInputId : Digest
  roundInputHash : Digest
  comparisonBasis : ComparisonBasis
  outcome : ConsensusOutcomeV2
  participantIds : List Digest
  includedIds : List Digest
  excluded : List Exclusion
  ranking : List Digest
  diagnostics : List {diagnostic : Text // diagnostic ≠ []}
  participants_ne : participantIds ≠ []
  participants_sorted : participantIds.Pairwise (· < ·)
  included_sorted : includedIds.Pairwise (· < ·)
  included_subset : ∀ id ∈ includedIds, id ∈ participantIds
  excluded_sorted : (excluded.map (·.edgeId)).Pairwise (· < ·)
  partition : ∀ id, id ∈ participantIds ↔ id ∈ excluded.map (·.edgeId) ∨ id ∈ includedIds
  disjoint : ∀ id ∈ excluded.map (·.edgeId), id ∉ includedIds
  ranking_sorted : ranking.Pairwise (· < ·)
  success_ranking : outcome = .success → (∀ id, id ∈ ranking ↔ id ∈ includedIds) ∧ ranking ≠ []
  failure_no_ranking : outcome = .failure → ranking = [] ∧ includedIds = []

/-! ## Documents -/

section Documents

variable {N M : Type}

def idDoc (id : Digest) : Doc N := .str id.val

def idsDoc (ids : List Digest) : Doc N := .arr (ids.map idDoc)

def ComparisonBasis.doc (basis : ComparisonBasis) : Doc N :=
  .obj [(text "basis_id", idDoc basis.basisId),
    (text "schema_version", .str basis.schemaVersion),
    (text "canonical_bytes", .str basis.canonicalBytes),
    (text "canonical_bytes_hash", .str (sha256Id basis.canonicalBytes)),
    (text "kind", .str basis.kind.name),
    (text "unit", .str basis.kind.unit),
    (text "profile_ids", idsDoc basis.profileIds),
    (text "uncertainty_parameter_ids", idsDoc basis.uncertaintyParameterIds)]

variable (num : Nat → N)

def RoundObservation.doc (item : RoundObservation) : Doc N :=
  .obj [(text "edge_id", idDoc item.edgeId),
    (text "observation_id", idDoc item.observationId),
    (text "observation_canonical_hash", idDoc item.observationCanonicalHash),
    (text "profile_id", idDoc item.profileId),
    (text "source_sequence", .num (num item.sourceSequence)),
    (text "correlation_id", idDoc item.correlationId),
    (text "raw_current_unit", .str (text "mA"))]

namespace ConsensusRoundInputV2

/-- The members that the content identity is computed from. -/
def members (round : ConsensusRoundInputV2) : List (Text × Doc N) :=
  [(text "schema_version", .str (text "Consensus.v2")),
    (text "experiment_id", idDoc round.experimentId),
    (text "run_id", idDoc round.runId),
    (text "round_id", idDoc round.roundId),
    (text "qualification_result_id", idDoc round.qualificationResultId),
    (text "comparison_basis", round.comparisonBasis.doc),
    (text "quality_policy_ids", idsDoc round.qualityPolicyIds),
    (text "parameter_ids", idsDoc round.parameterIds),
    (text "observations", .arr (round.observations.map (·.doc num))),
    (text "authorization_effect", .str (text "none"))]

/-- `canonical_consensus_round_input_bytes` -/
def canonicalBytes (round : ConsensusRoundInputV2) : Text :=
  JsonText.render Python.escapeAscii (Doc.obj (round.members DecimalText.natText)).sortKeys

/-- `consensus_round_input_content_id` -/
def inputContentId (round : ConsensusRoundInputV2) : Digest := digestOf round.canonicalBytes

def doc (round : ConsensusRoundInputV2) : Doc N :=
  .obj (round.members num ++ [(text "input_content_id", idDoc round.inputContentId)])

end ConsensusRoundInputV2

def Exclusion.doc (row : Exclusion) : Doc N :=
  .obj [(text "edge_id", idDoc row.edgeId), (text "reason_id", idDoc row.reasonId),
    (text "evidence_ids", idsDoc row.evidenceIds)]

namespace ConsensusDecisionV2

def members (decision : ConsensusDecisionV2) : List (Text × Doc N) :=
  [(text "schema_version", .str (text "Consensus.v2")),
    (text "round_input_id", idDoc decision.roundInputId),
    (text "round_input_hash", idDoc decision.roundInputHash),
    (text "comparison_basis", decision.comparisonBasis.doc),
    (text "outcome", .str decision.outcome.name),
    (text "participant_ids", idsDoc decision.participantIds),
    (text "included_ids", idsDoc decision.includedIds),
    (text "excluded", .arr (decision.excluded.map (·.doc))),
    (text "ranking", idsDoc decision.ranking),
    (text "diagnostics", .arr (decision.diagnostics.map fun d => .str d.val)),
    (text "authorization_effect", .str (text "none"))]

/-- `canonical_consensus_decision_bytes` -/
def canonicalBytes (decision : ConsensusDecisionV2) : Text :=
  JsonText.render Python.escapeAscii (Doc.obj (decision.members (N := Text))).sortKeys

/-- `consensus_decision_content_id` -/
def decisionContentId (decision : ConsensusDecisionV2) : Digest := digestOf decision.canonicalBytes

def doc (decision : ConsensusDecisionV2) : Doc N :=
  .obj (decision.members ++ [(text "decision_content_id", idDoc decision.decisionContentId)])

end ConsensusDecisionV2

end Documents

/-! ## The names of documents -/

section Names

variable {N : Type}

@[simp] theorem uniqueNames_idDoc (identity : Digest) : (idDoc identity : Doc N).UniqueNames :=
  trivial

@[simp] theorem uniqueNames_idsDoc (ids : List Digest) : (idsDoc ids : Doc N).UniqueNames := by
  rw [idsDoc, Doc.uniqueNames_arr]
  exact List.forall_mem_map.mpr fun _ _ => trivial

/-- An object with these names, whose members have unique names. -/
theorem uniqueNames_of_names {rows : List (Text × Doc N)} {names : List String}
    (hnames : rows.map Prod.fst = names.map text) (hnodup : (names.map text).Nodup)
    (hrows : ∀ row ∈ rows, row.2.UniqueNames) : (Doc.obj rows).UniqueNames :=
  Doc.uniqueNames_obj.mpr ⟨hnames ▸ hnodup, hrows⟩

end Names

/-! ## Numbers of documents -/

section Map

variable {N M : Type} (f : N → M)

@[simp] theorem map_idDoc (identity : Digest) :
    (idDoc identity : Doc N).map f id = idDoc identity := rfl

@[simp] theorem map_idsDoc (ids : List Digest) : (idsDoc ids : Doc N).map f id = idsDoc ids := by
  rw [idsDoc, Doc.map_arr, List.map_map]
  rfl

@[simp] theorem map_basisDoc (b : ComparisonBasis) : (b.doc : Doc N).map f id = b.doc := by
  simp only [ComparisonBasis.doc, Doc.map_obj, List.map_cons, List.map_nil, map_idDoc, map_idsDoc,
    Doc.map, id]

theorem map_observationDoc (num : Nat → N) (item : RoundObservation) :
    (item.doc num).map f id = item.doc (f ∘ num) := by
  simp only [RoundObservation.doc, Doc.map_obj, List.map_cons, List.map_nil, map_idDoc, Doc.map,
    id, Function.comp_apply]

theorem map_roundMembers (num : Nat → N) (round : ConsensusRoundInputV2) :
    (Doc.obj (round.members num)).map f id = .obj (round.members (f ∘ num)) := by
  have hobservations : (Doc.arr (round.observations.map (·.doc num))).map f id =
      .arr (round.observations.map (·.doc (f ∘ num))) := by
    rw [Doc.map_arr, List.map_map]
    exact congrArg Doc.arr (List.map_congr_left fun item _ => map_observationDoc f num item)
  simp only [ConsensusRoundInputV2.members, Doc.map_obj, List.map_cons, List.map_nil, map_idDoc,
    map_idsDoc, map_basisDoc, hobservations]
  simp only [Doc.map, id]

theorem map_decisionMembers (decision : ConsensusDecisionV2) :
    (Doc.obj (decision.members (N := N))).map f id = .obj decision.members := by
  have hexcluded : (Doc.arr (decision.excluded.map (·.doc (N := N)))).map f id =
      .arr (decision.excluded.map (·.doc)) := by
    rw [Doc.map_arr, List.map_map]
    congr 1
    refine List.map_congr_left fun row _ => ?_
    simp only [Exclusion.doc, Function.comp_apply, Doc.map_obj, List.map_cons, List.map_nil,
      map_idDoc, map_idsDoc, id]
  have hdiagnostics : (Doc.arr (decision.diagnostics.map fun d => .str d.val) : Doc N).map f id =
      .arr (decision.diagnostics.map fun d => .str d.val) := by
    rw [Doc.map_arr, List.map_map]
    rfl
  simp only [ConsensusDecisionV2.members, Doc.map_obj, List.map_cons, List.map_nil, map_idDoc,
    map_idsDoc, map_basisDoc, hexcluded, hdiagnostics]
  simp only [Doc.map, id]

end Map

end TruthFingerprint.ConsensusV2
