import Mathlib
import TruthFingerprint.Identity
import TruthFingerprint.Lib.Decimal
import TruthFingerprint.Lib.DecimalText

/-!
# The inputs of the reference evaluator

Observations with exact decimals and the closed mean-residual operation, with what their
constructors check. The identities of the operation are the digest of its canonical bytes.
-/

namespace TruthFingerprint.ConsensusV2

/-- What `exact_decimal` accepts. -/
abbrev DecimalString := {t : Text // DecimalText.isDecimal t}

def exactDecimal (t : DecimalString) : ℚ := DecimalText.decimalValue t.val

/-- The default context of `decimal`. -/
def defaultContext : DecimalContext := ⟨28, -999999, 999999⟩

structure ConsensusEvaluationObservationV2 where
  edgeId : Digest
  observationId : Digest
  observationCanonicalHash : Digest
  currentValue : DecimalString
  eligibilityReasonId : Option Digest
  eligibilityEvidenceId : Digest
  deriving DecidableEq

def meanCurrentResidualV1 : Text :=
  text "\x7b\"algorithm\":\"mean_current_residual\",\"version\":\"1\"\x7d"

structure ConsensusOperationClosureV2 where
  conformanceVectorIds : List Digest
  minimumParticipants : Nat
  maxAbsResidual : DecimalString
  traceMaxEvents : Nat
  noRankingReasonId : Digest
  residualReasonId : Digest
  vector_ne : conformanceVectorIds ≠ []
  vector_sorted : conformanceVectorIds.Pairwise (· < ·)
  minimum_pos : 0 < minimumParticipants
  trace_pos : 0 < traceMaxEvents
  residual_nonneg : 0 ≤ exactDecimal maxAbsResidual

namespace ConsensusOperationClosureV2

/-- `operation_id` and `canonical_bytes_hash`, which the constructor requires to be this. -/
def operationId (_ : ConsensusOperationClosureV2) : Digest := digestOf meanCurrentResidualV1

/-- The digest of the identities of the vector, one a line. -/
def conformanceVectorHash (operation : ConsensusOperationClosureV2) : Digest :=
  digestOf (List.intercalate (text "\n") (operation.conformanceVectorIds.map Subtype.val))

end ConsensusOperationClosureV2

/-- The fields of a parameter set that the evaluator reads. -/
structure ConsensusParameterSet where
  parameterSetId : Text
  comparisonBasisId : Text
  profileId : Text
  qualityPolicyId : Text
  residualPolicyId : Text
  residualPolicyCanonicalBytesSha256 : Text
  residualPolicyConformanceId : Text

structure ConsensusContractValidation where
  valid : Bool
  diagnostics : List Text

structure ConsensusParameterValidationResult where
  status : Text
  /-- the rules of the violations -/
  violations : List Text

end TruthFingerprint.ConsensusV2
