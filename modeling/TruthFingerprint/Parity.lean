import Mathlib
import TruthFingerprint.Abci.Agreement
import TruthFingerprint.Abci.Decoding
import TruthFingerprint.Consensus.CometbftClient
import TruthFingerprint.Consensus.DistinctSources

/-!
# Parity of the two implementations

The engine and the application evaluate one round input, which the application decodes from the
transaction of the engine's client.
-/

namespace TruthFingerprint

open Json Consensus

variable {F : Type}

/-! ## The decoded transaction -/

def SensorValue.ofPayload (payload : ProcessVariable F) : Abci.SensorValue F :=
  ⟨payload.value, payload.unit⟩

/-- What the application decodes of a state. -/
def decodedState [FloatArith F] (state : EdgeLocalReplicatedState F) : Abci.ReplicatedState F where
  ownerEdgeID := state.ownerEdgeID
  sensorValues := some <| Finmap.insertAll id
    (fun name => ((state.observationsBySensor.lookup name).map SensorValue.ofPayload).getD
      Abci.SensorValue.zero) state.observationsBySensor.sortedKeys ∅

/-- What the application decodes of a round input. -/
def decodedTx [FloatArith F] (input : ConsensusRoundInput F) : Abci.RoundInputTx F where
  roundID := input.roundIdentity.roundID
  windowStartedAt := input.roundIdentity.windowStartedAt.isoformat
  windowEndedAt := input.roundIdentity.windowEndedAt.isoformat
  participatingEdges := some input.participatingEdges
  replicatedStates := some ((sortedStates input).map decodedState)

/-- A reader finds the fields of a dictionary whatever their order is. -/
theorem field_sorted {fields : List (String × Json F)} (h : (fields.map (·.1)).Nodup) (name : String) :
    field (fields.insertionSort (·.1 ≤ ·.1)) name = field fields name :=
  (field_perm (List.perm_insertionSort _ _).symm h).symm

theorem decodeSensorValue_serializePayload [FloatArith F] (payload : ProcessVariable F) :
    Abci.decodeSensorValue (serializePayload payload) = .ok (SensorValue.ofPayload payload) := by
  have hfield := @field_sorted F [("value", num payload.value), ("unit", str payload.unit)] (by simp)
  simp only [Abci.decodeSensorValue, Except.bind_eq_ok]
  refine ⟨_, rfl, payload.value, ?_, payload.unit, ?_, rfl⟩
  · rw [hfield]
    rfl
  · rw [hfield]
    rfl

/-- The sensors of a state are decoded one by one, in their sorted order. -/
theorem decodeMap_dict [FloatArith F] (state : EdgeLocalReplicatedState F) :
    Abci.decodeMap Abci.decodeSensorValue (dict <| state.observationsBySensor.sortedKeys.map fun name =>
      (name, ((state.observationsBySensor.lookup name).map serializePayload).getD null)) =
        .ok (decodedState state).sensorValues := by
  have hsorted : ∀ f : String → Json F, (state.observationsBySensor.sortedKeys.map fun name =>
      (name, f name)).insertionSort (·.1 ≤ ·.1) =
        state.observationsBySensor.sortedKeys.map fun name => (name, f name) := fun f => by
    refine List.Pairwise.insertionSort_eq ?_
    rw [List.pairwise_map]
    exact Finmap.pairwise_sortedKeys _
  have hdecode : ∀ name ∈ state.observationsBySensor.sortedKeys, Abci.decodeSensorValue
      (((state.observationsBySensor.lookup name).map serializePayload).getD null) =
        .ok (((state.observationsBySensor.lookup name).map SensorValue.ofPayload).getD
          Abci.SensorValue.zero) := fun name hname => by
    obtain ⟨payload, hpayload⟩ := Finmap.mem_iff.mp (Finmap.mem_sortedKeys.mp hname)
    simp [hpayload, decodeSensorValue_serializePayload]
  rw [dict, Abci.decodeMap, hsorted, Finmap.insertAllM_map]
  exact congrArg (Except.map some) (Finmap.insertAllM_eq_ok hdecode ∅)

theorem decodeState_serializeState [FloatArith F] (state : EdgeLocalReplicatedState F) :
    Abci.decodeState (serializeState state) = .ok (decodedState state) := by
  have hfield := @field_sorted F [("owner_edge_id", str state.ownerEdgeID),
    ("sensor_values", dict <| state.observationsBySensor.sortedKeys.map fun name =>
      (name, ((state.observationsBySensor.lookup name).map serializePayload).getD null))] (by simp)
  simp only [Abci.decodeState, Except.bind_eq_ok]
  refine ⟨_, rfl, _, ?_, _, ?_, rfl⟩
  all_goals rw [hfield]
  exacts [rfl, decodeMap_dict state]

theorem decodeTx_serializeRoundInput [FloatArith F] (input : ConsensusRoundInput F) :
    Abci.decodeTx (serializeRoundInput input) = .ok (decodedTx input) := by
  have hfield := @field_sorted F [("round_id", str input.roundIdentity.roundID),
    ("window_started_at", str input.roundIdentity.windowStartedAt.isoformat),
    ("window_ended_at", str input.roundIdentity.windowEndedAt.isoformat),
    ("participating_edges", arr (input.participatingEdges.map str)),
    ("replicated_states", arr ((sortedStates input).map serializeState))] (by simp)
  have hedges : Abci.decodeSlice Abci.decodeString (arr (input.participatingEdges.map str) : Json F) =
      .ok (some input.participatingEdges) := by
    have hmap : (input.participatingEdges.map str).mapM (Abci.decodeString (F := F)) =
        .ok (input.participatingEdges.map id) := by
      rw [List.mapM_map]
      exact List.mapM_eq_ok fun _ _ => rfl
    rw [List.map_id] at hmap
    simp only [Abci.decodeSlice, hmap]
    rfl
  have hstates : Abci.decodeSlice Abci.decodeState (arr ((sortedStates input).map serializeState)) =
      .ok (some ((sortedStates input).map decodedState)) := by
    have hmap : ((sortedStates input).map serializeState).mapM Abci.decodeState =
        .ok ((sortedStates input).map decodedState) := by
      rw [List.mapM_map]
      exact List.mapM_eq_ok fun state _ => decodeState_serializeState state
    simp only [Abci.decodeSlice, hmap]
    rfl
  simp only [Abci.decodeTx, Except.bind_eq_ok]
  refine ⟨_, rfl, _, ?_, _, ?_, _, ?_, _, ?_, _, ?_, rfl⟩
  all_goals rw [hfield]
  exacts [rfl, rfl, rfl, hedges, hstates]

/-! ## One state per edge -/

/-- Distinct participants, each with one state of exactly the three sensors. -/
structure OneStatePerEdge (input : ConsensusRoundInput F) : Prop where
  nodup : input.participatingEdges.Nodup
  two_le : 2 ≤ input.participatingEdges.length
  owners : (input.replicatedStates.map (·.ownerEdgeID)).Perm input.participatingEdges
  sensors : ∀ state ∈ input.replicatedStates, ∀ name,
    name ∈ state.observationsBySensor ↔ name ∈ sensorNames

theorem lookup_decodedState [FloatArith F] (state : EdgeLocalReplicatedState F) (name : String) :
    (decodedState state).sensorValues.lookup name =
      (state.observationsBySensor.lookup name).map SensorValue.ofPayload := by
  simp only [decodedState, Abci.GoMap.lookup, Option.bind_some, Finmap.lookup_insertAll_id,
    Finmap.mem_sortedKeys]
  by_cases h : name ∈ state.observationsBySensor
  · obtain ⟨payload, hpayload⟩ := Finmap.mem_iff.mp h
    simp [h, hpayload]
  · simp [h, Finmap.lookup_eq_none.mpr h]

variable {input : ConsensusRoundInput ℚ}

namespace OneStatePerEdge

variable (h : OneStatePerEdge input)
include h

theorem exists_state (he : e ∈ input.participatingEdges) :
    ∃ state ∈ input.replicatedStates, state.ownerEdgeID = e :=
  List.mem_map.mp (h.owners.mem_iff.mpr he)

theorem lookup_states {state : EdgeLocalReplicatedState ℚ} (hstate : state ∈ input.replicatedStates) :
    input.states.lookup state.ownerEdgeID = some state :=
  Finmap.lookup_insertAll_of_nodup (h.owners.nodup_iff.mpr h.nodup) hstate ∅

theorem stateOf_decodedTx {state : EdgeLocalReplicatedState ℚ}
    (hstate : state ∈ input.replicatedStates) :
    Abci.stateOf (decodedTx input) state.ownerEdgeID = decodedState state := by
  have hperm : ((sortedStates input).map decodedState).map (·.ownerEdgeID) =
      (sortedStates input).map (·.ownerEdgeID) := by
    simp [decodedState, Function.comp_def]
  have hsorted : (sortedStates input).Perm input.replicatedStates := List.perm_insertionSort _ _
  have hnodup : (((sortedStates input).map decodedState).map (·.ownerEdgeID)).Nodup := by
    rw [hperm, (hsorted.map _).nodup_iff]
    exact h.owners.nodup_iff.mpr h.nodup
  have hlookup : (Abci.stateByEdge ((sortedStates input).map decodedState)).lookup
      (decodedState state).ownerEdgeID = some (decodedState state) :=
    Finmap.lookup_insertAll_of_nodup hnodup
      (List.mem_map_of_mem (hsorted.mem_iff.mpr hstate)) ∅
  exact congrArg (·.getD Abci.ReplicatedState.zero) hlookup

/-- Both sides read one value of a sensor of an edge. -/
theorem sensor_value (he : e ∈ input.participatingEdges) (name : String) :
    ((Abci.stateOf (decodedTx input) e).sensor name).value =
      (payloadOf input.states e name).value := by
  obtain ⟨state, hstate, rfl⟩ := h.exists_state he
  rw [h.stateOf_decodedTx hstate, Abci.ReplicatedState.sensor, lookup_decodedState, payloadOf,
    h.lookup_states hstate, Option.bind_some]
  cases state.observationsBySensor.lookup name <;> rfl

theorem complete (he : e ∈ input.participatingEdges) : Complete input.states e := by
  obtain ⟨state, hstate, rfl⟩ := h.exists_state he
  refine ⟨state, h.lookup_states hstate, fun scale hscale => ?_⟩
  have hmem := (h.sensors state hstate scale.1).mpr (exists_scale_iff.mp ⟨scale, hscale, rfl⟩)
  exact Option.isSome_iff_exists.mpr (Finmap.mem_iff.mp hmem)

theorem stateOf_complete (he : e ∈ input.participatingEdges) :
    (Abci.stateOf (decodedTx input) e).Complete := by
  obtain ⟨state, hstate, rfl⟩ := h.exists_state he
  rw [h.stateOf_decodedTx hstate]
  intro name hname
  rw [Abci.sortedKeys_sensorScales] at hname
  have hmem : name ∈ sensorNames := by
    simp only [List.mem_cons, List.not_mem_nil, or_false] at hname
    rcases hname with rfl | rfl | rfl <;> simp [sensorNames]
  obtain ⟨payload, hpayload⟩ := Finmap.mem_iff.mp ((h.sensors state hstate name).mpr hmem)
  simp [lookup_decodedState, hpayload]

/-- Both sides measure one distance. -/
theorem distance_eq (he : e ∈ input.participatingEdges) (hp : p ∈ input.participatingEdges) :
    Abci.distance (decodedTx input) e p = distance input.states e p := by
  simp only [Abci.distance, Abci.stateDistance, distance, scaledDistance, sensorScales,
    h.sensor_value he, h.sensor_value hp, List.map, List.length, PyArith.sum_rat, List.sum_cons,
    List.sum_nil]
  norm_num
  ring

theorem support_eq (he : e ∈ input.participatingEdges) :
    Abci.support (decodedTx input) e = support input.states input.participatingEdges e := by
  refine List.countP_congr fun p hp => ?_
  rw [h.distance_eq he (List.mem_filter.mp hp).1]
  rfl

theorem supported_iff (he : e ∈ input.participatingEdges) :
    Abci.Supported (decodedTx input) e ↔ Supported input.states input.participatingEdges e := by
  rw [Abci.Supported, Supported, h.support_eq he]
  rfl

end OneStatePerEdge

/-! ## Rounded deviations -/

/-- The mean of the distances that the application looks up for an edge. -/
def keyedMean (tx : Abci.RoundInputTx ℚ) (edgeID : String) : ℚ :=
  let peers := tx.participatingEdges.elems.filter (· ≠ edgeID)
  (peers.map (Abci.keyedDistance tx edgeID)).sum / peers.length

/-- The mean of the distances of an edge. -/
def trueMean (tx : Abci.RoundInputTx ℚ) (edgeID : String) : ℚ :=
  let peers := tx.participatingEdges.elems.filter (· ≠ edgeID)
  (peers.map (Abci.distance tx edgeID)).sum / peers.length

theorem threshold_le_iff (k : ℤ) : (0.75 : ℚ) ≤ k / 1000 ↔ 750 ≤ k := by
  rw [le_div_iff₀ (by norm_num)]
  norm_num
  exact_mod_cast Iff.rfl

theorem round_rat (x : ℚ) : Abci.round x = (NearestInt.halfAway (x * 1000) : ℚ) / 1000 := by
  simp only [Abci.round, GoArith.mathRound_rat]
  norm_num

/-- A mean is suspected by the application from 0.7495 on. -/
theorem suspected_round_iff (x : ℚ) :
    Abci.suspectedByzantineThreshold ≤ Abci.round x ↔ 0.7495 ≤ x := by
  have h := threshold_le_iff (NearestInt.halfAway (x * 1000))
  rw [NearestInt.le_halfAway_iff (by norm_num)] at h
  rw [round_rat, Abci.suspectedByzantineThreshold, h]
  constructor <;> intro h <;> norm_num at h ⊢ <;> linarith

/-- A mean is suspected by the engine from 0.7495 on. -/
theorem suspected_round3_iff (x : ℚ) :
    Consensus.suspectedByzantineThreshold ≤ PyArith.round3 x ↔ 0.7495 ≤ x := by
  have h := threshold_le_iff (NearestInt.halfEven (x * 1000))
  rw [NearestInt.le_halfEven_iff_of_even (by decide)] at h
  rw [PyArith.round3_rat, Consensus.suspectedByzantineThreshold, h]
  constructor <;> intro h <;> norm_num at h ⊢ <;> linarith

/-- The application suspects an edge by the distances that it looks up. -/
theorem goReason_iff {tx : Abci.RoundInputTx ℚ} (he : e ∈ tx.participatingEdges.elems) :
    Abci.exclusionReason tx (Abci.pairwiseMap tx) e = .suspectedByzantine ↔
      0.7495 ≤ keyedMean tx e := by
  have hperm := Abci.peerIDs_perm tx.participatingEdges.elems e
  have hmean : Abci.total ((Abci.peerIDs tx.participatingEdges.elems e).map (Abci.keyedDistance tx e)) /
      FloatArith.ofNat (Abci.peerIDs tx.participatingEdges.elems e).length = keyedMean tx e := by
    rw [Abci.total_rat, (hperm.map _).sum_eq, hperm.length_eq]
    rfl
  rw [← suspected_round_iff, ← hmean, ← Abci.overallDeviation_pairwiseMap he, Abci.exclusionReason]
  simp

/-- The engine suspects an edge by its distances. -/
theorem pyReason_iff (h : OneStatePerEdge input) (he : e ∈ input.participatingEdges) :
    (compared input.states input.participatingEdges e).primaryReason = .suspectedByzantineBehavior ↔
      0.7495 ≤ trueMean (decodedTx input) e := by
  have hmean : meanDistance input.states input.participatingEdges e = trueMean (decodedTx input) e := by
    have hmap : (peersOf input.participatingEdges e).map (distance input.states e) =
        (peersOf input.participatingEdges e).map (Abci.distance (decodedTx input) e) :=
      List.map_congr_left fun p hp => (h.distance_eq he (List.mem_filter.mp hp).1).symm
    rw [meanDistance, hmap]
    rfl
  rw [← suspected_round3_iff, ← hmean, EdgeComparison.primaryReason]
  simp [EdgeComparison.overallNormalizedDeviation, compared]

/-! ## Both sides evaluate -/

theorem distance_nonneg (states : Finmap fun _ : String => EdgeLocalReplicatedState ℚ)
    (e p : String) : 0 ≤ distance states e p := by
  simp only [distance, scaledDistance, sensorScales, List.map, List.length, PyArith.sum_rat,
    List.sum_cons, List.sum_nil, FloatArith.abs_rat, FloatArith.ofNat_rat]
  positivity

/-- The engine is ready for the input. -/
theorem OneStatePerEdge.engineReady (h : OneStatePerEdge input) : EngineReady input where
  evaluable :=
    { complete := fun e he => h.complete he
      peers := fun e he => by
        obtain ⟨x, hx, y, hy, hne⟩ := List.exists_ne_of_nodup h.nodup h.two_le
        by_cases hxe : x = e
        · exact List.ne_nil_of_mem (List.mem_filter.mpr ⟨hy, by simp [← hxe, hne.symm]⟩)
        · exact List.ne_nil_of_mem (List.mem_filter.mpr ⟨hx, by simp [hxe]⟩)
      inverse := fun e he => by
        have hmean : 0 ≤ meanDistance input.states input.participatingEdges e := by
          refine div_nonneg (List.sum_nonneg fun d hd => ?_) (Nat.cast_nonneg _)
          obtain ⟨p, -, rfl⟩ := List.mem_map.mp hd
          exact distance_nonneg _ _ _
        have hround := NearestInt.halfEven_nonneg (mul_nonneg hmean (by norm_num : (0 : ℚ) ≤ 1000))
        refine decide_eq_false fun hzero => ?_
        rw [PyArith.round3_rat] at hzero
        have hpositive : (0 : ℚ) ≤ (NearestInt.halfEven
            (meanDistance input.states input.participatingEdges e * 1000) : ℚ) / 1000 := by positivity
        norm_num at hzero
        linarith }
  participants hnil := by
    have := h.two_le
    simp [hnil] at this
  sensors _ state hstate scale hscale := by
    have hmem := (h.sensors state (List.mem_filter.mp hstate).1 scale.1).mpr
      (exists_scale_iff.mp ⟨scale, hscale, rfl⟩)
    exact Option.isSome_iff_exists.mpr (Finmap.mem_iff.mp hmem)

theorem OneStatePerEdge.comparable (h : OneStatePerEdge input) :
    Abci.Comparable (decodedTx input) := by
  refine (Abci.comparable_iff ?_).mpr fun _ he => h.stateOf_complete he
  exact List.exists_ne_of_nodup h.nodup h.two_le

/-! ## Agreement -/

/-- One final status, one set of excluded edges with their reasons, one compatible peer count for
each edge, one set of source edges, and sensor values within a thousandth. -/
structure Agrees (round : Abci.CommittedRound ℚ) (package : ConsensusAuditPackage ℚ) : Prop where
  status : round.finalStatus.text = package.finalStatus.text
  exclusions : ∀ edgeID reason,
    (∃ d ∈ round.exclusions.elems, d.edgeID = edgeID ∧ d.reason.text = reason) ↔
      ∃ d ∈ package.exclusions, d.edgeID = edgeID ∧ d.reason.text = reason
  counts : ∀ edgeID count,
    (∃ evidence ∈ round.trustEvidence.elems,
      evidence.edgeID = edgeID ∧ evidence.compatiblePeerCount = count) ↔
        ∃ evidence ∈ package.trustEvidence,
          evidence.edgeID = edgeID ∧ evidence.compatiblePeerCount = count
  sources : ∀ edgeID, edgeID ∈ round.sourceEdges ↔ edgeID ∈ package.sourceEdges
  values : ∀ sensorName, Option.Rel (fun value value' => |value - value'| ≤ 0.001)
    (round.consensusedValidState.bind (·.sensorValues.lookup sensorName))
    (package.consensusedValidState.bind (·.sensorValues.lookup sensorName))

/-- The distances that the application looks up count as many compatible peers as the true ones,
and put the mean of an edge that it excludes on the same side of the reason's threshold. -/
structure KeyedVerdicts (tx : Abci.RoundInputTx ℚ) : Prop where
  counts : ∀ e ∈ tx.participatingEdges.elems, Abci.keyedSupport tx e = Abci.support tx e
  reasons : ∀ e ∈ tx.participatingEdges.elems, ¬ Abci.Kept tx e →
    (0.7495 ≤ keyedMean tx e ↔ 0.7495 ≤ trueMean tx e)

theorem KeyedVerdicts.kept_iff (hv : KeyedVerdicts (decodedTx input)) (h : OneStatePerEdge input)
    (he : e ∈ input.participatingEdges) :
    Abci.Kept (decodedTx input) e ↔ Supported input.states input.participatingEdges e := by
  rw [Abci.Kept, hv.counts e he, ← h.supported_iff he, Abci.Supported]

/-- The compatible peer count of an edge, on both sides. -/
theorem goCount_iff {tx : Abci.RoundInputTx ℚ} :
    (∃ evidence ∈ (Abci.committedRound tx (Abci.pairwiseMap tx) height).trustEvidence.elems,
      evidence.edgeID = e ∧ evidence.compatiblePeerCount = count) ↔
        e ∈ tx.participatingEdges.elems ∧ Abci.keyedSupport tx e = count := by
  simp only [Abci.committedRound, Abci.Slice.elems_some, List.mem_insertionSort, List.mem_map,
    exists_exists_and_eq_and, Abci.trustEvidence]
  constructor
  · rintro ⟨e, he, rfl, rfl⟩
    exact ⟨he, (Abci.compatiblePeers_pairwiseMap he).symm⟩
  · rintro ⟨he, rfl⟩
    exact ⟨e, he, rfl, Abci.compatiblePeers_pairwiseMap he⟩

theorem pyCount_iff :
    (∃ evidence ∈ (auditPackage input).trustEvidence,
      evidence.edgeID = e ∧ evidence.compatiblePeerCount = count) ↔
        e ∈ input.participatingEdges ∧ support input.states input.participatingEdges e = count := by
  simp only [auditPackage, trustOf, List.mem_map, exists_exists_and_eq_and,
    EdgeComparison.evidence, compatiblePeerCount_compared]
  constructor
  · rintro ⟨e, he, rfl, rfl⟩
    exact ⟨he, rfl⟩
  · rintro ⟨he, rfl⟩
    exact ⟨e, he, rfl, rfl⟩

theorem goExclusion_iff {tx : Abci.RoundInputTx ℚ} :
    (∃ d ∈ (Abci.committedRound tx (Abci.pairwiseMap tx) height).exclusions.elems,
      d.edgeID = e ∧ d.reason.text = reason) ↔
        e ∈ tx.participatingEdges.elems ∧ ¬ Abci.Kept tx e ∧
          (Abci.exclusionReason tx (Abci.pairwiseMap tx) e).text = reason := by
  simp only [Abci.committedRound, Abci.Slice.elems_some, Abci.mem_exclusions]
  constructor
  · rintro ⟨_, ⟨e, he, hnot, rfl⟩, rfl, rfl⟩
    exact ⟨he, hnot, rfl⟩
  · rintro ⟨he, hnot, rfl⟩
    exact ⟨_, ⟨e, he, hnot, rfl⟩, rfl, rfl⟩

theorem pyExclusion_iff :
    (∃ d ∈ (auditPackage input).exclusions, d.edgeID = e ∧ d.reason.text = reason) ↔
      e ∈ input.participatingEdges ∧ ¬ Supported input.states input.participatingEdges e ∧
        (compared input.states input.participatingEdges e).primaryReason.text = reason := by
  simp only [auditPackage, mem_exclusions]
  constructor
  · rintro ⟨_, ⟨e, he, hnot, rfl⟩, rfl, rfl⟩
    exact ⟨he, hnot, rfl⟩
  · rintro ⟨he, hnot, rfl⟩
    exact ⟨_, ⟨e, he, hnot, rfl⟩, rfl, rfl⟩

/-- The reasons of an edge have one text exactly when both or neither side suspects it. -/
theorem reason_text_iff {tx : Abci.RoundInputTx ℚ} {edge : EdgeComparison ℚ} :
    (Abci.exclusionReason tx (Abci.pairwiseMap tx) e).text = edge.primaryReason.text ↔
      (Abci.exclusionReason tx (Abci.pairwiseMap tx) e = .suspectedByzantine ↔
        edge.primaryReason = .suspectedByzantineBehavior) := by
  rw [Abci.exclusionReason, EdgeComparison.primaryReason]
  split <;> split <;> simp [Abci.ExclusionReason.text, ExclusionReason.text]

section Verdicts

variable (h : OneStatePerEdge input)
include h

/-- With the right verdicts the kept edges own the states that the engine averages. -/
theorem KeyedVerdicts.sources_perm (hv : KeyedVerdicts (decodedTx input)) :
    (Abci.validEdges (decodedTx input) (Abci.pairwiseMap (decodedTx input))).Perm
      ((validStatesOf input).map (·.ownerEdgeID)) := by
  rw [map_owner_validStatesOf]
  refine Abci.validEdges_perm.trans (.trans (.of_eq ?_) (h.owners.filter _).symm)
  exact List.filter_congr fun e he => decide_eq_decide.mpr (hv.kept_iff h he)

/-- A valid state has the value that the application reads for its owner. -/
theorem valueOf_eq {state : EdgeLocalReplicatedState ℚ} (hstate : state ∈ input.replicatedStates)
    (name : String) : valueOf state name =
      ((Abci.stateOf (decodedTx input) state.ownerEdgeID).sensor name).value := by
  have he := h.owners.subset (List.mem_map_of_mem hstate)
  rw [h.sensor_value he, payloadOf, h.lookup_states hstate, Option.bind_some, valueOf]
  cases state.observationsBySensor.lookup name <;> rfl

/-- The averages differ in their rounding only. -/
theorem KeyedVerdicts.average_close (hv : KeyedVerdicts (decodedTx input)) (name : String) :
    |Abci.round (Abci.total ((Abci.validEdges (decodedTx input)
        (Abci.pairwiseMap (decodedTx input))).map fun e =>
          ((Abci.stateOf (decodedTx input) e).sensor name).value) /
        FloatArith.ofNat (Abci.validEdges (decodedTx input)
          (Abci.pairwiseMap (decodedTx input))).length) -
      PyArith.round3 (averageOf (validStatesOf input) name)| ≤ 0.001 := by
  have hperm := hv.sources_perm h
  have hsum : Abci.total ((Abci.validEdges (decodedTx input)
      (Abci.pairwiseMap (decodedTx input))).map fun e =>
        ((Abci.stateOf (decodedTx input) e).sensor name).value) =
      ((validStatesOf input).map (valueOf · name)).sum := by
    rw [Abci.total_rat, (hperm.map _).sum_eq, List.map_map]
    refine congrArg List.sum (List.map_congr_left fun state hstate => ?_)
    exact (valueOf_eq h (List.mem_filter.mp hstate).1 name).symm
  have hlength : (Abci.validEdges (decodedTx input) (Abci.pairwiseMap (decodedTx input))).length =
      (validStatesOf input).length := by
    rw [hperm.length_eq, List.length_map]
  have hclose := NearestInt.abs_halfAway_sub_halfEven_le (averageOf (validStatesOf input) name * 1000)
  rw [hsum, hlength, round_rat, PyArith.round3_rat]
  change |(NearestInt.halfAway (averageOf (validStatesOf input) name * 1000) : ℚ) / 1000 - _| ≤ _
  rw [← sub_div, abs_div]
  norm_num
  linarith

/-- Right verdicts put the application at the quorum when the engine is. -/
theorem KeyedVerdicts.quorum_iff (hv : KeyedVerdicts (decodedTx input)) :
    Abci.quorum (decodedTx input) ≤ (Abci.validEdges (decodedTx input)
      (Abci.pairwiseMap (decodedTx input))).length ↔ ReachesQuorum input := by
  rw [(hv.sources_perm h).length_eq, List.length_map]
  exact Iff.rfl

theorem KeyedVerdicts.sources_iff (hv : KeyedVerdicts (decodedTx input)) (height : Int) (e : String) :
    e ∈ (Abci.committedRound (decodedTx input) (Abci.pairwiseMap (decodedTx input)) height).sourceEdges ↔
      e ∈ (auditPackage input).sourceEdges := by
  by_cases hq : ReachesQuorum input
  · have hsuccess : (Abci.committedRound (decodedTx input) (Abci.pairwiseMap (decodedTx input))
        height).finalStatus = .success :=
      Abci.finalStatus_eq_success_iff.mpr ((hv.quorum_iff h).mpr hq)
    rw [Abci.sourceEdges_of_success hsuccess, sourceEdges_auditPackage hq]
    exact (hv.sources_perm h).mem_iff
  · have hq' := mt (hv.quorum_iff h).mp hq
    simp [Abci.CommittedRound.sourceEdges, Abci.committedRound, hq', auditPackage, concludedState, hq,
      ConsensusAuditPackage.sourceEdges]

/-- Both valid states have values of the three sensors, and they are close. -/
theorem KeyedVerdicts.values_close (hv : KeyedVerdicts (decodedTx input)) (height : Int)
    (name : String) : Option.Rel (fun value value' : ℚ => |value - value'| ≤ 0.001)
      ((Abci.committedRound (decodedTx input) (Abci.pairwiseMap (decodedTx input))
        height).consensusedValidState.bind (·.sensorValues.lookup name))
      ((auditPackage input).consensusedValidState.bind (·.sensorValues.lookup name)) := by
  by_cases hq : ReachesQuorum input
  · have hq' := (hv.quorum_iff h).mpr hq
    have hnames : name ∈ (Abci.sensorScales (F := ℚ)).sortedKeys ↔ name ∈ sensorNames := by
      rw [Abci.sortedKeys_sensorScales]
      simp only [sensorNames, List.mem_cons, List.not_mem_nil, or_false]
      tauto
    simp only [Abci.committedRound, hq', auditPackage, concludedState, hq, if_true, Option.bind_some,
      Abci.buildValidState, Abci.GoMap.lookup, validStateOf, Finmap.lookup_insertAll_id, hnames]
    by_cases hname : name ∈ sensorNames
    · simp only [if_pos hname]
      exact .some (hv.average_close h name)
    · simp only [if_neg hname]
      exact .none
  · have hq' := mt (hv.quorum_iff h).mp hq
    simp only [Abci.committedRound, hq', auditPackage, concludedState, hq, if_false, Option.bind_none]
    exact .none

theorem KeyedVerdicts.agrees (hv : KeyedVerdicts (decodedTx input)) (height : Int) :
    Agrees (Abci.committedRound (decodedTx input) (Abci.pairwiseMap (decodedTx input)) height)
      (auditPackage input) where
  status := by
    simp only [Abci.committedRound, auditPackage, statusOf, hv.quorum_iff h]
    split <;> rfl
  exclusions edgeID reason := by
    rw [goExclusion_iff, pyExclusion_iff]
    refine and_congr_right fun he => ?_
    rw [hv.kept_iff h he]
    refine and_congr_right fun hnot => ?_
    have hnot' : ¬ Abci.Kept (decodedTx input) edgeID := mt (hv.kept_iff h he).mp hnot
    have htext := reason_text_iff.mpr <|
      (goReason_iff he).trans <| (hv.reasons edgeID he hnot').trans (pyReason_iff h he).symm
    rw [htext]
  counts edgeID count := by
    rw [goCount_iff, pyCount_iff]
    refine and_congr_right fun he => ?_
    rw [hv.counts edgeID he, h.support_eq he]
  sources := hv.sources_iff h height
  values := hv.values_close h height

/-- Sides that agree have the right verdicts. -/
theorem keyedVerdicts_of_agrees (hagrees : Agrees
    (Abci.committedRound (decodedTx input) (Abci.pairwiseMap (decodedTx input)) height)
    (auditPackage input)) : KeyedVerdicts (decodedTx input) := by
  have hcounts : ∀ e ∈ input.participatingEdges,
      Abci.keyedSupport (decodedTx input) e = Abci.support (decodedTx input) e := fun e he => by
    have hcount := (hagrees.counts e _).mp (goCount_iff.mpr ⟨he, rfl⟩)
    rw [h.support_eq he]
    exact (pyCount_iff.mp hcount).2.symm
  refine ⟨hcounts, fun e he hnot => ?_⟩
  have hexcluded := (hagrees.exclusions e _).mp (goExclusion_iff.mpr ⟨he, hnot, rfl⟩)
  rw [← goReason_iff he, ← pyReason_iff h he]
  exact reason_text_iff.mp (pyExclusion_iff.mp hexcluded).2.2.symm

end Verdicts

/-- Three edges that agree and one that does not. -/
def outlierInput : ConsensusRoundInput ℚ where
  roundIdentity := sampleIdentity
  participatingEdges := ["edge-1", "edge-2", "edge-3", "edge-4"]
  replicatedStates := [fullState "edge-1" 70 5 1200, fullState "edge-2" 71 5 1210,
    fullState "edge-3" 72 5 1190, fullState "edge-4" 400 50 9000]
  admitted := by decide +kernel

theorem fullState_sensors (edgeID : String) (t p r : ℚ) (name : String) :
    name ∈ (fullState edgeID t p r).observationsBySensor ↔ name ∈ sensorNames := by
  simp [fullState, sensorNames, Finmap.mem_list_toFinmap, exists_or]

/-- The keys of `plant`, `line->cell` and of `plant->line`, `cell` are one. -/
def arrowInput : ConsensusRoundInput ℚ where
  roundIdentity := sampleIdentity
  participatingEdges := ["plant", "line->cell", "plant->line", "cell"]
  replicatedStates := [fullState "plant" 70 5 1200, fullState "line->cell" 70 5 1200,
    fullState "plant->line" 400 5 1200, fullState "cell" 70 5 1200]
  admitted := by decide +kernel

theorem arrowInput_oneStatePerEdge : OneStatePerEdge arrowInput :=
  ⟨by decide +kernel, by decide +kernel, by decide +kernel, by
    simp [arrowInput, fullState_sensors]⟩

end TruthFingerprint
