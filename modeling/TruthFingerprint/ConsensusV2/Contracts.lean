import Mathlib
import TruthFingerprint.ConsensusV2.Records
import TruthFingerprint.Lib.Loops

/-!
# The contracts of Consensus.v2

The validators of `contracts/consensus_v2.py`, from a value to the record that it describes. Each
check raises the code of the source. A membership test in a set hashes its operand first, which
fails with a `TypeError` on a list or an object.
-/

namespace TruthFingerprint.ConsensusV2

open Python

variable {F : Type}

/-- A result, or `ConsensusV2Error` with its code, or an exception that escapes. -/
abbrev Result (α : Type) := Except (Raised String) α

def raise {α : Type} (code : String) : Result α := .error (.declared code)

/-- A check that raises `code` where it fails. -/
def ensure (p : Prop) [Decidable p] (code : String) : Result (PLift p) :=
  if h : p then .ok ⟨h⟩ else raise code

/-- `members[name]` -/
def field (members : Members F) (name : String) : Value F := Doc.get members (text name)

/-- The value is this string. -/
def IsText (value : Value F) (t : Text) : Prop :=
  match value with
  | .str s => s = t
  | _ => False

instance (value : Value F) (t : Text) : Decidable (IsText value t) := by
  cases value <;> unfold IsText <;> infer_instance

/-- The members that a set of string constants is asked for: an unhashable value raises. -/
def hashable (value : Value F) : Result Unit :=
  match value with
  | .arr _ | .obj _ => .error .typeError
  | _ => .ok ()

/-- `_opaque` -/
def opaqueId (value : Value F) (code : String) : Result Digest :=
  match value with
  | .str s => if h : isImmutableId s then .ok ⟨s, h⟩ else raise code
  | _ => raise code

/-- `_closed` -/
def closed (value : Value F) (expected : List String) (code : String) : Result (Members F) :=
  match value with
  | .obj members =>
    if Doc.HasExactly members (expected.map text) then .ok members else raise code
  | _ => raise code

/-- `_ordered_ids` -/
def orderedIds (value : Value F) (code : String) (nonempty : Bool) :
    Result {ids : List Digest // ids.Pairwise (· < ·)} :=
  match value with
  | .arr items =>
    if nonempty && items.isEmpty then raise code
    else do
      let ids ← items.mapM (opaqueId · code)
      -- sorted, and no two are equal
      let ⟨h⟩ ← ensure (ids.Pairwise (· < ·)) code
      pure ⟨ids, h⟩
  | _ => raise code

/-! ## The comparison basis -/

def basisFields : List String :=
  ["basis_id", "schema_version", "canonical_bytes", "canonical_bytes_hash", "kind", "unit",
    "profile_ids", "uncertainty_parameter_ids"]

def basisKind (value : Value F) : Result BasisKind := do
  hashable value
  if IsText value BasisKind.sameProfileRawCurrent.name then pure .sameProfileRawCurrent
  else if IsText value BasisKind.dimensionlessProfileResidual.name then
    pure .dimensionlessProfileResidual
  else raise "CV2_BASIS_KIND"

def BasisKind.closureCode : BasisKind → String
  | sameProfileRawCurrent => "CV2_RAW_CURRENT_CLOSURE"
  | dimensionlessProfileResidual => "CV2_RESIDUAL_CLOSURE"

/-- `_basis` -/
def basis (value : Value F) : Result ComparisonBasis := do
  let b ← closed value basisFields "CV2_BASIS_FIELDS"
  let basisId ← opaqueId (field b "basis_id") "CV2_BASIS_ID"
  match field b "schema_version", field b "canonical_bytes" with
  | .str schemaVersion, .str canonicalBytes =>
    let ⟨hversion⟩ ← ensure (schemaVersion ≠ []) "CV2_BASIS_VERSION"
    let ⟨hascii⟩ ← ensure canonicalBytes.IsAscii "CV2_BASIS_CANONICAL_BYTES"
    let _ ← ensure (IsText (field b "canonical_bytes_hash") (sha256Id canonicalBytes))
      "CV2_BASIS_HASH"
    let ⟨profiles, hprofiles⟩ ← orderedIds (field b "profile_ids") "CV2_BASIS_PROFILE" true
    let ⟨uncertainty, huncertainty⟩ ←
      orderedIds (field b "uncertainty_parameter_ids") "CV2_BASIS_UNCERTAINTY" false
    let kind ← basisKind (field b "kind")
    let ⟨hclosure⟩ ← ensure (IsText (field b "unit") kind.unit ∧
      kind.Closure profiles uncertainty) kind.closureCode
    pure ⟨basisId, schemaVersion, canonicalBytes, kind, profiles, uncertainty, hversion, hascii,
      hprofiles, huncertainty, hclosure.2⟩
  | _, _ => raise "CV2_BASIS_VERSION"

/-! ## Round inputs -/

def observationFields : List String :=
  ["edge_id", "observation_id", "observation_canonical_hash", "profile_id", "source_sequence",
    "correlation_id", "raw_current_unit"]

/-- `_observation` -/
def observation (value : Value F) : Result RoundObservation := do
  let item ← closed value observationFields "CV2_OBSERVATION_FIELDS"
  let edgeId ← opaqueId (field item "edge_id") "CV2_OBSERVATION_ID"
  let observationId ← opaqueId (field item "observation_id") "CV2_OBSERVATION_ID"
  let profileId ← opaqueId (field item "profile_id") "CV2_OBSERVATION_ID"
  let correlationId ← opaqueId (field item "correlation_id") "CV2_OBSERVATION_ID"
  let canonicalHash ← opaqueId (field item "observation_canonical_hash") "CV2_OBSERVATION_HASH"
  match field item "source_sequence" with
  | .num (.int sequence) =>
    let ⟨hsequence⟩ ← ensure (0 < sequence) "CV2_SOURCE_SEQUENCE"
    let _ ← ensure (IsText (field item "raw_current_unit") (text "mA")) "CV2_RAW_CURRENT_UNIT"
    pure ⟨edgeId, observationId, canonicalHash, profileId, sequence.toNat, correlationId, by omega⟩
  | _ => raise "CV2_SOURCE_SEQUENCE"

/-- The observations of a round, none where the value is not an array. -/
def observations (value : Value F) : Result (List RoundObservation) :=
  match value with
  | .arr items => items.mapM observation
  | _ => .ok []

/-- The key that observations are sorted by. -/
def RoundObservation.key (item : RoundObservation) : Digest ×ₗ Nat ×ₗ Digest :=
  toLex (item.edgeId, toLex (item.sourceSequence, item.observationId))

def inputFields : List String :=
  ["schema_version", "experiment_id", "run_id", "round_id", "qualification_result_id",
    "comparison_basis", "quality_policy_ids", "parameter_ids", "observations",
    "authorization_effect", "input_content_id"]

def withoutKey (members : Members F) (name : String) : Value F :=
  .obj (members.filter fun m => m.1 ≠ text name)

def profileCode : BasisKind → String
  | .sameProfileRawCurrent => "CV2_RAW_CURRENT_PROFILE"
  | .dimensionlessProfileResidual => "CV2_RESIDUAL_PROFILE"

theorem pairwise_edgeId_of_keys {items : List RoundObservation}
    (hkeys : (items.map (·.key)).Pairwise (· ≤ ·)) (hedges : (items.map (·.edgeId)).Nodup) :
    (items.map (·.edgeId)).Pairwise (· < ·) := by
  rw [List.pairwise_map] at hkeys
  rw [List.Nodup, List.pairwise_map] at hedges
  rw [List.pairwise_map]
  refine (hkeys.and hedges).imp fun ⟨hle, hne⟩ => ?_
  rcases Prod.Lex.le_iff.mp hle with hlt | ⟨heq, -⟩
  · exact hlt
  · exact absurd heq hne

variable [FloatOps F]

/-- `_input`. The identity is recomputed from the value without it, by an encoder that refuses
integers of too many digits. -/
def input (payload : Value F) : Result ConsensusRoundInputV2 := do
  let p ← closed payload inputFields "CV2_INPUT_FIELDS"
  let _ ← ensure (IsText (field p "schema_version") (text "Consensus.v2") ∧
    IsText (field p "authorization_effect") (text "none")) "CV2_INPUT_VERSION"
  let experimentId ← opaqueId (field p "experiment_id") "CV2_INPUT_ID"
  let runId ← opaqueId (field p "run_id") "CV2_INPUT_ID"
  let roundId ← opaqueId (field p "round_id") "CV2_INPUT_ID"
  let qualificationResultId ← opaqueId (field p "qualification_result_id") "CV2_INPUT_ID"
  let comparisonBasis ← basis (field p "comparison_basis")
  let ⟨quality, hquality⟩ ←
    orderedIds (field p "quality_policy_ids") "CV2_QUALITY_POLICY_CLOSURE" true
  let ⟨hquality_ne⟩ ← ensure (quality ≠ []) "CV2_QUALITY_POLICY_CLOSURE"
  let ⟨parameters, hparameters⟩ ←
    orderedIds (field p "parameter_ids") "CV2_PARAMETER_CLOSURE" false
  let items ← observations (field p "observations")
  let ⟨hitems⟩ ← ensure (items ≠ []) "CV2_OBSERVATION_CLOSURE"
  let ⟨hkeys, hedges⟩ ← ensure ((items.map (·.key)).Pairwise (· ≤ ·) ∧
    (items.map (·.edgeId)).Nodup) "CV2_OBSERVATION_ORDER"
  let ⟨hprofile⟩ ← ensure (comparisonBasis.ProfileClosure (items.map (·.profileId)))
    (profileCode comparisonBasis.kind)
  let ⟨hparameter⟩ ← ensure (∀ id ∈ comparisonBasis.uncertaintyParameterIds, id ∈ parameters)
    "CV2_PARAMETER_CLOSURE"
  let contentId ← opaqueId (field p "input_content_id") "CV2_INPUT_CONTENT_ID"
  let canonical ← dumps (withoutKey p "input_content_id")
  let _ ← ensure (contentId.val = sha256Id canonical) "CV2_INPUT_CONTENT_HASH"
  pure ⟨experimentId, runId, roundId, qualificationResultId, comparisonBasis, quality, parameters,
    items, hquality_ne, hquality, hparameters, hitems, pairwise_edgeId_of_keys hkeys hedges,
    hprofile, hparameter⟩

/-! ## Decisions -/

def decisionFields : List String :=
  ["schema_version", "round_input_id", "round_input_hash", "comparison_basis", "outcome",
    "participant_ids", "included_ids", "excluded", "ranking", "diagnostics",
    "authorization_effect", "decision_content_id"]

omit [FloatOps F] in
/-- An array of records. -/
def arrayOf {α : Type} (f : Value F → Result α) (value : Value F) (code : String) :
    Result (List α) :=
  match value with
  | .arr items => items.mapM f
  | _ => raise code

def exclusionFields : List String := ["edge_id", "reason_id", "evidence_ids"]

omit [FloatOps F] in
/-- A row of `excluded` -/
def exclusion (value : Value F) : Result Exclusion := do
  let row ← closed value exclusionFields "CV2_EXCLUSION_FIELDS"
  let edgeId ← opaqueId (field row "edge_id") "CV2_EXCLUSION_ID"
  let reasonId ← opaqueId (field row "reason_id") "CV2_EXCLUSION_REASON"
  let ⟨evidence, hevidence⟩ ← orderedIds (field row "evidence_ids") "CV2_EXCLUSION_EVIDENCE" true
  let ⟨hne⟩ ← ensure (evidence ≠ []) "CV2_EXCLUSION_EVIDENCE"
  pure ⟨edgeId, reasonId, evidence, hne, hevidence⟩

omit [FloatOps F] in
def outcome (value : Value F) : Result ConsensusOutcomeV2 := do
  hashable value
  if IsText value ConsensusOutcomeV2.success.name then pure .success
  else if IsText value ConsensusOutcomeV2.failure.name then pure .failure
  else raise "CV2_OUTCOME"

omit [FloatOps F] in
def diagnosticText (value : Value F) : Result {diagnostic : Text // diagnostic ≠ []} :=
  match value with
  | .str s => if h : s ≠ [] then .ok ⟨s, h⟩ else raise "CV2_DIAGNOSTICS"
  | _ => raise "CV2_DIAGNOSTICS"

/-- `_decision` -/
def decision (payload : Value F) : Result ConsensusDecisionV2 := do
  let p ← closed payload decisionFields "CV2_DECISION_FIELDS"
  let _ ← ensure (IsText (field p "schema_version") (text "Consensus.v2") ∧
    IsText (field p "authorization_effect") (text "none")) "CV2_DECISION_VERSION"
  let roundInputId ← opaqueId (field p "round_input_id") "CV2_DECISION_INPUT"
  let roundInputHash ← opaqueId (field p "round_input_hash") "CV2_DECISION_INPUT"
  let comparisonBasis ← basis (field p "comparison_basis")
  let ⟨participants, hparticipants⟩ ←
    orderedIds (field p "participant_ids") "CV2_PARTICIPANT_CLOSURE" true
  let ⟨hne⟩ ← ensure (participants ≠ []) "CV2_PARTICIPANT_CLOSURE"
  let ⟨included, hincluded⟩ ← orderedIds (field p "included_ids") "CV2_INCLUDED_CLOSURE" false
  let ⟨hsubset⟩ ← ensure (∀ id ∈ included, id ∈ participants) "CV2_INCLUDED_CLOSURE"
  let excluded ← arrayOf exclusion (field p "excluded") "CV2_EXCLUSION_CLOSURE"
  let edges := excluded.map (·.edgeId)
  let ⟨hsorted, hpartition, hdisjoint⟩ ← ensure (edges.Pairwise (· < ·) ∧
    (∀ id ∈ participants ++ edges ++ included,
      id ∈ participants ↔ id ∈ edges ∨ id ∈ included) ∧ ∀ id ∈ edges, id ∉ included)
    "CV2_EXCLUSION_CLOSURE"
  let diagnostics ← arrayOf diagnosticText (field p "diagnostics") "CV2_DIAGNOSTICS"
  let outcome ← outcome (field p "outcome")
  let ⟨ranking, hranking⟩ ← orderedIds (field p "ranking") "CV2_RANKING" false
  let ⟨hsuccess⟩ ← ensure (outcome = .success →
    (∀ id ∈ ranking ++ included, id ∈ ranking ↔ id ∈ included) ∧ ranking ≠ [])
    "CV2_SUCCESS_RANKING"
  let ⟨hfailure⟩ ← ensure (outcome = .failure → ranking = [] ∧ included = [])
    "CV2_FAILURE_NO_RANKING"
  let contentId ← opaqueId (field p "decision_content_id") "CV2_DECISION_CONTENT_ID"
  let canonical ← dumps (withoutKey p "decision_content_id")
  let _ ← ensure (contentId.val = sha256Id canonical) "CV2_DECISION_CONTENT_HASH"
  pure ⟨roundInputId, roundInputHash, comparisonBasis, outcome, participants, included, excluded,
    ranking, diagnostics, hne, hparticipants, hincluded, hsubset, hsorted, by grind, hdisjoint,
    hranking, by grind, hfailure⟩

end TruthFingerprint.ConsensusV2
