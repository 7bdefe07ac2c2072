import Mathlib
import TruthFingerprint.Arith
import TruthFingerprint.Consensus.DateTime

/-!
# Contracts of the consensus engine

The dataclasses that the engine reads and returns, over the type `F` of their floats. What a
`__post_init__` checks is a list of conditions with their messages, checked in order (`require`);
a `RoundIdentity` and a `ConsensusRoundInput` carry the proof that theirs pass.
-/

namespace TruthFingerprint.Consensus

/-- Raise the message of the first condition that does not hold. -/
def require (checks : List (Bool × String)) : Except PyError Unit :=
  match checks.find? (!·.1) with
  | some check => .error (.valueError check.2)
  | none => .ok ()

theorem require_eq_ok_iff {checks : List (Bool × String)} :
    require checks = .ok () ↔ ∀ check ∈ checks, check.1 = true := by
  rw [require]
  cases hfind : checks.find? (!·.1) with
  | none => simpa using List.find?_eq_none.mp hfind
  | some check =>
    have hfalse := List.find?_some hfind
    have hmem := List.mem_of_find?_eq_some hfind
    simp only [reduceCtorEq, false_iff, not_forall]
    exact ⟨check, hmem, by simpa using hfalse⟩

/-! ## Rounds -/

structure RoundIdentity where
  roundID : String
  windowStartedAt : DateTime
  windowEndedAt : DateTime
  /-- Otherwise: "Round window end must be greater than or equal to the start." -/
  ordered : windowEndedAt.lt windowStartedAt = .ok false
deriving DecidableEq

/-- `==` of two round identities. -/
def RoundIdentity.eq (r r' : RoundIdentity) : Bool :=
  r.roundID = r'.roundID && r.windowStartedAt.eq r'.windowStartedAt &&
    r.windowEndedAt.eq r'.windowEndedAt

@[simp] theorem RoundIdentity.eq_self (r : RoundIdentity) : r.eq r = true := by
  simp [RoundIdentity.eq]

/-- `process_data.pv` of a payload. -/
structure ProcessVariable (F : Type) where
  value : F
  unit : String
deriving DecidableEq

structure EdgeLocalReplicatedState (F : Type) where
  roundIdentity : RoundIdentity
  ownerEdgeID : String
  observationsBySensor : Finmap fun _ : String => ProcessVariable F
deriving DecidableEq

/-- What `ConsensusRoundInput` checks, state by state. -/
def roundInputChecks (roundIdentity : RoundIdentity) (participatingEdges : List String)
    (replicatedStates : List (EdgeLocalReplicatedState F)) : List (Bool × String) :=
  replicatedStates.flatMap fun state =>
    [(state.roundIdentity.eq roundIdentity,
        "All replicated states must share the same round identity."),
      (state.ownerEdgeID ∈ participatingEdges,
        "Replicated state owner must be a participating edge.")]

structure ConsensusRoundInput (F : Type) where
  roundIdentity : RoundIdentity
  participatingEdges : List String
  replicatedStates : List (EdgeLocalReplicatedState F)
  admitted : require (roundInputChecks roundIdentity participatingEdges replicatedStates) = .ok ()

/-- Every state that a round input holds is owned by a participating edge. -/
theorem ConsensusRoundInput.owner_mem (input : ConsensusRoundInput F) :
    ∀ state ∈ input.replicatedStates, state.ownerEdgeID ∈ input.participatingEdges := by
  intro state hstate
  have h := require_eq_ok_iff.mp input.admitted (state.ownerEdgeID ∈ input.participatingEdges,
    "Replicated state owner must be a participating edge.")
    (List.mem_flatMap.mpr ⟨state, hstate, by simp⟩)
  simpa using h

/-! ## Evidence -/

inductive ConsensusStatus where
  | success
  | failedConsensus
deriving DecidableEq

def ConsensusStatus.text : ConsensusStatus → String
  | .success => "success"
  | .failedConsensus => "failed_consensus"

inductive ExclusionReason where
  | insufficientData
  | inconsistentView
  | trustBelowThreshold
  | suspectedByzantineBehavior
deriving DecidableEq

def ExclusionReason.text : ExclusionReason → String
  | .insufficientData => "insufficient_data"
  | .inconsistentView => "inconsistent_view"
  | .trustBelowThreshold => "trust_below_threshold"
  | .suspectedByzantineBehavior => "suspected_byzantine_behavior"

structure ExclusionDecision where
  roundIdentity : RoundIdentity
  edgeID : String
  reason : ExclusionReason
  detail : Option String
deriving DecidableEq

structure SensorDeviationEvidence (F : Type) where
  sensorName : String
  deviationValue : F
  unit : String
deriving DecidableEq

structure PairwiseDistanceEvidence (F : Type) where
  peerEdgeID : String
  sensorName : String
  distanceValue : F
  unit : String
deriving DecidableEq

structure PerEdgeTrustEvidence (F : Type) where
  roundIdentity : RoundIdentity
  edgeID : String
  score : F
  compatiblePeerCount : Nat
  overallNormalizedDeviation : F
  sensorDeviations : List (SensorDeviationEvidence F)
  pairwiseDistances : List (PairwiseDistanceEvidence F)
deriving DecidableEq

structure TrustRankEntry (F : Type) where
  edgeID : String
  score : F
deriving DecidableEq

structure TrustRanking (F : Type) where
  roundIdentity : RoundIdentity
  participatingEdges : List String
  entries : List (TrustRankEntry F)
deriving DecidableEq

/-- The ids of the entries and the participants are one set. -/
def TrustRanking.covers (ranking : TrustRanking F) (participatingEdges : List String) : Bool :=
  (ranking.entries.map (·.edgeID)).toFinset = participatingEdges.toFinset

def TrustRanking.postInit (ranking : TrustRanking F) : Except PyError Unit :=
  require [(ranking.covers ranking.participatingEdges,
    "Trust ranking must reference only participating edges for the round.")]

/-! ## Results -/

structure ConsensusedValidState (F : Type) where
  roundIdentity : RoundIdentity
  sourceEdges : List String
  sensorValues : Finmap fun _ : String => F
deriving DecidableEq

structure ConsensusResult (F : Type) where
  roundIdentity : RoundIdentity
  status : ConsensusStatus
  participatingEdges : List String
  trustRanking : TrustRanking F
  exclusions : List ExclusionDecision
  consensusedValidState : Option (ConsensusedValidState F)

def ConsensusResult.postInit (result : ConsensusResult F) : Except PyError Unit :=
  require <|
    (result.trustRanking.roundIdentity.eq result.roundIdentity,
      "Trust ranking must share the same round identity as the result.") ::
    (result.exclusions.map fun exclusion => (exclusion.roundIdentity.eq result.roundIdentity,
      "Exclusion decisions must be round-scoped.")) ++
    [(result.trustRanking.covers result.participatingEdges,
        "Trust ranking must reference only participating edges for that round."),
      (!(result.status = .success && result.consensusedValidState.isNone),
        "Successful consensus must include a consensused valid state."),
      (!(result.status = .failedConsensus && result.consensusedValidState.isSome),
        "Failed consensus must not include a consensused valid state."),
      (result.consensusedValidState.all (·.roundIdentity.eq result.roundIdentity),
        "Consensused valid state must share the same round identity.")]

structure ConsensusAuditPackage (F : Type) where
  roundInput : ConsensusRoundInput F
  trustRanking : TrustRanking F
  exclusions : List ExclusionDecision
  trustEvidence : List (PerEdgeTrustEvidence F)
  finalStatus : ConsensusStatus
  consensusResult : ConsensusResult F
  consensusedValidState : Option (ConsensusedValidState F)

def ConsensusAuditPackage.postInit [DecidableEq F] (package : ConsensusAuditPackage F) :
    Except PyError Unit :=
  require <|
    (package.trustRanking.roundIdentity.eq package.roundInput.roundIdentity,
      "Trust ranking must share the round identity of the input.") ::
    (package.exclusions.map fun exclusion =>
      (exclusion.roundIdentity.eq package.roundInput.roundIdentity,
        "Exclusions must be scoped to the audit round.")) ++
    (package.trustEvidence.map fun evidence =>
      (evidence.roundIdentity.eq package.roundInput.roundIdentity,
        "Trust evidence must be scoped to the audit round.")) ++
    [(package.consensusResult.roundIdentity.eq package.roundInput.roundIdentity,
        "Consensus result must share the round identity of the input."),
      (package.consensusResult.trustRanking = package.trustRanking,
        "Audit package trust ranking must match the consensus result."),
      (package.consensusResult.exclusions = package.exclusions,
        "Audit package exclusions must match the consensus result."),
      (package.consensusResult.status = package.finalStatus,
        "Audit package final status must match the consensus result."),
      (package.consensusResult.consensusedValidState = package.consensusedValidState,
        "Audit package valid state must match the consensus result.")]

end TruthFingerprint.Consensus
