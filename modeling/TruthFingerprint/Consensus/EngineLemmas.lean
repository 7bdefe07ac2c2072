import Mathlib
import TruthFingerprint.Consensus.Engine
import TruthFingerprint.Consensus.TrustModelLemmas

/-!
# What the engine returns

`evaluate` returns normally when the trust evaluation does, some edge participates, and the states
that it averages have every sensor (`evaluate_eq_ok_iff`). The checks of its contracts never fail.
-/

namespace TruthFingerprint.Consensus

variable {F : Type} [PyArith F]

theorem requiredQuorum_eq_ok : requiredQuorum n = .ok quorum ↔ n ≠ 0 ∧ quorum = n / 2 + 1 := by
  rw [requiredQuorum]
  split
  · rename_i h
    simp [Nat.le_zero.mp h]
  · rename_i h
    simp at h
    simp [h, eq_comm]

/-! ## The valid state -/

/-- The sensors of the valid state. -/
def sensorNames : List String := ["temperature", "pressure", "rpm"]

theorem exists_scale_iff : (∃ scale ∈ sensorScales (F := F), scale.1 = sensorName) ↔
    sensorName ∈ sensorNames := by
  simp [sensorScales, sensorNames, eq_comm]

/-- The value of a sensor of a state. -/
def valueOf (state : EdgeLocalReplicatedState F) (sensorName : String) : F :=
  ((state.observationsBySensor.lookup sensorName).map (·.value)).getD 0.0

/-- The average of a sensor, before it is rounded. -/
def averageOf (validStates : List (EdgeLocalReplicatedState F)) (sensorName : String) : F :=
  PyArith.sum (validStates.map (valueOf · sensorName)) / FloatArith.ofNat validStates.length

/-- The valid state of states that have every sensor. -/
def validStateOf (roundIdentity : RoundIdentity) (validStates : List (EdgeLocalReplicatedState F)) :
    ConsensusedValidState F where
  roundIdentity := roundIdentity
  sourceEdges := validStates.map (·.ownerEdgeID)
  sensorValues :=
    Finmap.insertAll id (fun name => PyArith.round3 (averageOf validStates name)) sensorNames ∅

variable {validStates : List (EdgeLocalReplicatedState F)}

theorem averageValue_eq_ok (hne : validStates ≠ []) (h : ∀ state ∈ validStates, HasSensors state)
    (hname : sensorName ∈ sensorNames) : averageValue validStates sensorName =
      .ok (PyArith.round3 (averageOf validStates sensorName)) := by
  obtain ⟨scale, hscale, rfl⟩ := (exists_scale_iff (F := F)).mpr hname
  have hvalues : validStates.mapM (sensorValue · scale.1) =
      .ok (validStates.map (valueOf · scale.1)) := by
    refine List.mapM_eq_ok fun state hstate => ?_
    obtain ⟨payload, hpayload⟩ := Option.isSome_iff_exists.mp (h state hstate scale hscale)
    exact sensorValue_eq_ok.mpr ⟨payload, hpayload, by simp [valueOf, hpayload]⟩
  simp only [averageValue, Except.bind_eq_ok, mean_eq_ok]
  refine ⟨_, hvalues, averageOf validStates scale.1, ⟨by simpa using hne, ?_⟩, rfl⟩
  simp [averageOf]

/-- The valid state is built exactly when there are states to average that have every sensor. -/
theorem buildConsensusedValidState_eq_ok_iff {roundIdentity : RoundIdentity} :
    buildConsensusedValidState roundIdentity validStates = .ok validState ↔
      validStates ≠ [] ∧ (∀ state ∈ validStates, HasSensors state) ∧
        validState = validStateOf roundIdentity validStates := by
  have hvalue : validStates ≠ [] → (∀ state ∈ validStates, HasSensors state) →
      buildConsensusedValidState roundIdentity validStates =
        .ok (validStateOf roundIdentity validStates) := fun hne h => by
    simp only [buildConsensusedValidState, Except.bind_eq_ok]
    exact ⟨_, Finmap.insertAllM_eq_ok (fun name hname => averageValue_eq_ok hne h hname) ∅, rfl⟩
  constructor
  · intro h
    obtain ⟨hne, hsensors⟩ : validStates ≠ [] ∧ ∀ state ∈ validStates, HasSensors state := by
      simp only [buildConsensusedValidState, Except.bind_eq_ok] at h
      obtain ⟨values, hvalues, -⟩ := h
      have haverage := Finmap.insertAllM_isOk hvalues
      simp only [averageValue, Except.bind_eq_ok, mean_eq_ok] at haverage
      refine ⟨?_, fun state hstate scale hscale => ?_⟩
      · obtain ⟨_, values, hvalues, _, ⟨hne, -⟩, -⟩ := haverage "rpm" (by simp)
        rintro rfl
        exact hne (Except.ok.inj hvalues).symm
      · obtain ⟨_, values, hvalues, -⟩ := haverage scale.1 (exists_scale_iff.mp ⟨scale, hscale, rfl⟩)
        obtain ⟨_, hvalue⟩ := List.exists_of_mapM_eq_ok hvalues state hstate
        obtain ⟨payload, hpayload, -⟩ := sensorValue_eq_ok.mp hvalue
        simp [hpayload]
    exact ⟨hne, hsensors, Except.ok.inj (h.symm.trans (hvalue hne hsensors))⟩
  · rintro ⟨hne, h, rfl⟩
    exact hvalue hne h

/-! ## The package -/

section Package

variable (input : ConsensusRoundInput F)

/-- The states of a round by owner. -/
def ConsensusRoundInput.states : Finmap fun _ : String => EdgeLocalReplicatedState F :=
  byEdge input.replicatedStates

/-- The states whose owner is not excluded. -/
def validStatesOf : List (EdgeLocalReplicatedState F) :=
  input.replicatedStates.filter (Supported input.states input.participatingEdges ·.ownerEdgeID)

/-- The states that are left reach the quorum. -/
def ReachesQuorum : Prop := input.participatingEdges.length / 2 + 1 ≤ (validStatesOf input).length

instance : Decidable (ReachesQuorum input) := inferInstanceAs (Decidable (_ ≤ _))

def statusOf : ConsensusStatus := if ReachesQuorum input then .success else .failedConsensus

def concludedState : Option (ConsensusedValidState F) :=
  if ReachesQuorum input then some (validStateOf input.roundIdentity (validStatesOf input)) else none

/-- What `evaluate` returns when nothing is missing. -/
def auditPackage : ConsensusAuditPackage F :=
  let trust := trustOf input.roundIdentity input.participatingEdges input.replicatedStates
  { roundInput := input
    trustRanking := trust.1
    exclusions := trust.2.1
    trustEvidence := trust.2.2
    finalStatus := statusOf input
    consensusResult :=
      { roundIdentity := input.roundIdentity
        status := statusOf input
        participatingEdges := input.participatingEdges
        trustRanking := trust.1
        exclusions := trust.2.1
        consensusedValidState := concludedState input }
    consensusedValidState := concludedState input }

/-- The conditions under which `evaluate` returns normally. -/
structure EngineReady : Prop where
  evaluable : Evaluable input.states input.participatingEdges
  participants : input.participatingEdges ≠ []
  sensors : ReachesQuorum input → ∀ state ∈ validStatesOf input, HasSensors state

variable {input}

/-- Excluding by the decisions leaves the states of supported edges. -/
theorem filter_exclusions : (input.replicatedStates.filter (·.ownerEdgeID ∉
    (trustOf input.roundIdentity input.participatingEdges input.replicatedStates).2.1.map
      (·.edgeID))) = validStatesOf input := by
  refine List.filter_congr fun state hstate => ?_
  rw [decide_eq_decide, mem_map_exclusions, not_and, not_not]
  exact ⟨fun h => h (input.owner_mem state hstate), fun h _ => h⟩

theorem conclude_eq_ok_iff : conclude input.roundIdentity (input.participatingEdges.length / 2 + 1)
    (validStatesOf input) = .ok (validState, status) ↔
      (ReachesQuorum input → ∀ state ∈ validStatesOf input, HasSensors state) ∧
        validState = concludedState input ∧ status = statusOf input := by
  have hquorum : (input.participatingEdges.length / 2 + 1 ≤ (validStatesOf input).length) =
      ReachesQuorum input := rfl
  simp only [conclude, concludedState, statusOf, hquorum]
  by_cases h : ReachesQuorum input
  · have hne : validStatesOf input ≠ [] := by
      rintro hnil
      simp [ReachesQuorum, hnil] at h
    simp only [if_pos h, Except.bind_eq_ok, buildConsensusedValidState_eq_ok_iff]
    constructor
    · rintro ⟨_, ⟨-, hsensors, rfl⟩, hpair⟩
      obtain ⟨rfl, rfl⟩ := Prod.mk.inj (Except.ok.inj hpair)
      exact ⟨fun _ => hsensors, rfl, rfl⟩
    · rintro ⟨hsensors, rfl, rfl⟩
      exact ⟨_, ⟨hne, hsensors h, rfl⟩, rfl⟩
  · simp only [if_neg h, pure, Except.pure, Except.ok.injEq, Prod.mk.injEq]
    exact ⟨fun heq => ⟨fun hq => absurd hq h, heq.1.symm, heq.2.symm⟩,
      fun heq => ⟨heq.2.1.symm, heq.2.2.symm⟩⟩

theorem roundIdentity_of_mem_exclusions {decision : ExclusionDecision} (h : decision ∈
    (trustOf input.roundIdentity input.participatingEdges input.replicatedStates).2.1) :
    decision.roundIdentity = input.roundIdentity := by
  obtain ⟨e, -, -, rfl⟩ := mem_exclusions.mp h
  rfl

/-- The result passes its own checks. -/
theorem consensusResult_postInit : (auditPackage input).consensusResult.postInit = .ok () := by
  refine require_eq_ok_iff.mpr ?_
  simp only [auditPackage, List.cons_append, List.forall_mem_append, List.forall_mem_cons,
    List.forall_mem_map, List.not_mem_nil, IsEmpty.forall_iff, implies_true, and_true]
  refine ⟨RoundIdentity.eq_self _, fun decision hd => ?_, covers_trustRanking _, ?_, ?_, ?_⟩
  · rw [roundIdentity_of_mem_exclusions hd, RoundIdentity.eq_self]
  · by_cases h : ReachesQuorum input <;> simp [statusOf, concludedState, h]
  · by_cases h : ReachesQuorum input <;> simp [statusOf, concludedState, h]
  · by_cases h : ReachesQuorum input <;> simp [concludedState, validStateOf, h]

/-- The package passes its own checks. -/
theorem auditPackage_postInit [DecidableEq F] : (auditPackage input).postInit = .ok () := by
  refine require_eq_ok_iff.mpr ?_
  simp only [auditPackage, List.cons_append, List.forall_mem_append, List.forall_mem_cons,
    List.not_mem_nil, IsEmpty.forall_iff, implies_true, and_true, decide_true]
  refine ⟨RoundIdentity.eq_self _, ⟨?_, ?_⟩, RoundIdentity.eq_self _⟩
  · intro check hcheck
    obtain ⟨decision, hd, rfl⟩ := List.mem_map.mp hcheck
    simp only [roundIdentity_of_mem_exclusions hd, RoundIdentity.eq_self]
  · intro check hcheck
    obtain ⟨evidence, he, rfl⟩ := List.mem_map.mp hcheck
    obtain ⟨edge, -, rfl⟩ := List.mem_map.mp he
    exact RoundIdentity.eq_self _

/-- The evaluation returns normally exactly when the engine is ready for its input. -/
theorem evaluate_eq_ok_iff [DecidableEq F] : evaluate input = .ok package ↔
    EngineReady input ∧ package = auditPackage input := by
  simp only [evaluate, Except.bind_eq_ok, Prod.exists, evaluateTrust_eq_ok_iff, requiredQuorum_eq_ok]
  constructor
  · rintro ⟨_, _, _, ⟨heval, htrust⟩, _, ⟨hne, rfl⟩, _, _, hconclude, _, -, _, -, hpackage⟩
    obtain ⟨rfl, rfl, rfl⟩ : _ = _ ∧ _ = _ ∧ _ = _ := by simpa [Prod.ext_iff] using htrust
    rw [filter_exclusions, conclude_eq_ok_iff] at hconclude
    obtain ⟨hsensors, rfl, rfl⟩ := hconclude
    exact ⟨⟨heval, by simpa using hne, hsensors⟩, (Except.ok.inj hpackage).symm⟩
  · rintro ⟨⟨heval, hne, hsensors⟩, rfl⟩
    have hconclude := conclude_eq_ok_iff.mpr ⟨hsensors, rfl, rfl⟩
    rw [← filter_exclusions] at hconclude
    exact ⟨_, _, _, ⟨heval, rfl⟩, _, ⟨by simpa using hne, rfl⟩, concludedState input,
      statusOf input, hconclude, (), consensusResult_postInit, (), auditPackage_postInit, rfl⟩

end Package

end TruthFingerprint.Consensus
