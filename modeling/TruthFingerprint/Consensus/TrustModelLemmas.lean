import Mathlib
import TruthFingerprint.Consensus.TrustModel

/-!
# What the trust evaluation returns

`evaluateTrust` returns normally when every participating edge has a complete state and a peer, and
it then returns the evidence of the comparisons `compared` (`evaluateTrust_eq_ok_iff`). An edge is
not excluded when it is `Supported`.
-/

namespace TruthFingerprint.Consensus

variable {F : Type} [PyArith F]

theorem getItem_eq_ok {found : Option V} : getItem found key = .ok value ↔ found = some value := by
  cases found <;> simp [getItem]

theorem mean_eq_ok {values : List F} : mean values = .ok m ↔
    values ≠ [] ∧ m = PyArith.sum values / FloatArith.ofNat values.length := by
  rw [mean]
  split
  · rename_i h
    simp [List.length_eq_zero_iff.mp h]
  · rename_i h
    simp [List.length_eq_zero_iff] at h
    simp [h, eq_comm]

theorem divide_eq_ok {x y : F} : divide x y = .ok q ↔ FloatArith.eq y 0.0 = false ∧ q = x / y := by
  rw [divide]
  split
  · rename_i h
    simp [h]
  · rename_i h
    simp [h, eq_comm]

omit [PyArith F] in
theorem sensorValue_eq_ok {state : EdgeLocalReplicatedState F} : sensorValue state sensorName = .ok v ↔
    ∃ payload, state.observationsBySensor.lookup sensorName = some payload ∧ payload.value = v := by
  simp [sensorValue, Except.bind_eq_ok, getItem_eq_ok, pure, Except.pure]

/-! ## Complete states -/

/-- A state with a payload of every sensor that is compared. -/
def HasSensors (state : EdgeLocalReplicatedState F) : Prop :=
  ∀ scale ∈ sensorScales (F := F), (state.observationsBySensor.lookup scale.1).isSome

instance (state : EdgeLocalReplicatedState F) : Decidable (HasSensors state) :=
  inferInstanceAs (Decidable (∀ scale ∈ _, _))

section States

variable (states : Finmap fun _ : String => EdgeLocalReplicatedState F) (edges : List String)

/-- An edge with such a state. -/
def Complete (edgeID : String) : Prop := ∃ state, states.lookup edgeID = some state ∧ HasSensors state

instance (edgeID : String) : Decidable (Complete states edgeID) :=
  match h : states.lookup edgeID with
  | none => isFalse fun ⟨_, hstate, _⟩ => by simp [h] at hstate
  | some state => decidable_of_iff (HasSensors state)
      ⟨fun hs => ⟨state, h, hs⟩, fun ⟨_, hstate, hs⟩ => by rwa [Option.some.inj (h.symm.trans hstate)]⟩

/-- The payload of a sensor of an edge. -/
def payloadOf (edgeID sensorName : String) : ProcessVariable F :=
  ((states.lookup edgeID).bind (·.observationsBySensor.lookup sensorName)).getD ⟨0.0, ""⟩

/-- The distance of two edges by one sensor. -/
def scaledDistance (edgeID peerID : String) (scale : String × F) : F :=
  FloatArith.abs ((payloadOf states edgeID scale.1).value - (payloadOf states peerID scale.1).value) /
    scale.2

/-- The normalized distance of two edges. -/
def distance (edgeID peerID : String) : F :=
  let distances := sensorScales.map (scaledDistance states edgeID peerID)
  PyArith.sum distances / FloatArith.ofNat distances.length

variable {states} {edges}

theorem Complete.lookup (h : Complete states e) (hscale : scale ∈ sensorScales (F := F)) :
    ∃ state, states.lookup e = some state ∧
      state.observationsBySensor.lookup scale.1 = some (payloadOf states e scale.1) := by
  obtain ⟨state, hstate, hsensors⟩ := h
  obtain ⟨payload, hpayload⟩ := Option.isSome_iff_exists.mp (hsensors scale hscale)
  exact ⟨state, hstate, by simp [payloadOf, hstate, hpayload]⟩

theorem pairDistance_eq_ok (he : Complete states e) (hp : Complete states p) :
    pairDistance states (e, p) = .ok (distance states e p) := by
  obtain ⟨left, hleft, -⟩ := id he
  obtain ⟨right, hright, -⟩ := id hp
  have hdistances : sensorScales.mapM (normalizedDistance left right) =
      .ok (sensorScales.map (scaledDistance states e p)) := by
    refine List.mapM_eq_ok fun scale hscale => ?_
    obtain ⟨_, hl, hlv⟩ := he.lookup hscale
    obtain ⟨_, hr, hrv⟩ := hp.lookup hscale
    obtain rfl := Option.some.inj (hleft.symm.trans hl)
    obtain rfl := Option.some.inj (hright.symm.trans hr)
    rw [normalizedDistance, sensorValue_eq_ok.mpr ⟨_, hlv, rfl⟩, sensorValue_eq_ok.mpr ⟨_, hrv, rfl⟩]
    rfl
  simp only [pairDistance, hleft, hright, getItem, normalizedPairDistance, hdistances, bind,
    Except.bind]
  exact mean_eq_ok.mpr ⟨by simp [sensorScales], rfl⟩

theorem complete_of_pairDistance (h : pairDistance states (e, p) = .ok d) :
    Complete states e ∧ Complete states p := by
  simp only [pairDistance, normalizedPairDistance, Except.bind_eq_ok, getItem_eq_ok] at h
  obtain ⟨left, hleft, right, hright, distances, hdistances, -⟩ := h
  have hsensors := List.exists_of_mapM_eq_ok hdistances
  simp only [normalizedDistance, Except.bind_eq_ok, sensorValue_eq_ok] at hsensors
  refine ⟨⟨left, hleft, fun scale hscale => ?_⟩, right, hright, fun scale hscale => ?_⟩
  · obtain ⟨_, _, ⟨payload, hpayload, -⟩, -⟩ := hsensors scale hscale
    simp [hpayload]
  · obtain ⟨_, _, -, _, ⟨payload, hpayload, -⟩, -⟩ := hsensors scale hscale
    simp [hpayload]

/-! ## Comparisons -/

variable (states edges)

def peersOf (edgeID : String) : List String := edges.filter (· ≠ edgeID)

def sensorCompared (edgeID : String) (scale : String × F) : SensorComparison F where
  sensorName := scale.1
  unit := (payloadOf states edgeID scale.1).unit
  peerDistances := (peersOf edges edgeID).map fun peerID => (peerID, FloatArith.abs
    ((payloadOf states edgeID scale.1).value - (payloadOf states peerID scale.1).value))
  meanDistance := PyArith.sum ((peersOf edges edgeID).map fun peerID => FloatArith.abs
      ((payloadOf states edgeID scale.1).value - (payloadOf states peerID scale.1).value)) /
    FloatArith.ofNat (peersOf edges edgeID).length

/-- The mean distance of an edge to its peers. -/
def meanDistance (edgeID : String) : F :=
  PyArith.sum ((peersOf edges edgeID).map (distance states edgeID)) /
    FloatArith.ofNat (peersOf edges edgeID).length

/-- What `compareEdge` collects when nothing is missing. -/
def compared (edgeID : String) : EdgeComparison F where
  edgeID := edgeID
  sensors := sensorScales.map (sensorCompared states edges edgeID)
  pairDistances := (peersOf edges edgeID).map (distance states edgeID)
  meanDistance := meanDistance states edges edgeID
  inverse := 1.0 / (1.0 + PyArith.round3 (meanDistance states edges edgeID))

/-- The distances of the pairs of different edges. -/
def pairwiseMap : Finmap fun _ : String × String => F :=
  Finmap.insertAll id (fun pair => distance states pair.1 pair.2) edges.orderedPairs ∅

/-- Every edge has a complete state and a peer, and a score. -/
structure Evaluable : Prop where
  complete : ∀ e ∈ edges, Complete states e
  peers : ∀ e ∈ edges, peersOf edges e ≠ []
  inverse : ∀ e ∈ edges,
    FloatArith.eq (1.0 + PyArith.round3 (meanDistance states edges e)) (0.0 : F) = false

variable {states} {edges}

theorem pairwiseDistances_eq_ok (h : ∀ e ∈ edges, Complete states e) :
    pairwiseDistances states edges = .ok (pairwiseMap states edges) :=
  Finmap.insertAllM_eq_ok (fun _ hpair =>
    pairDistance_eq_ok (h _ (List.mem_orderedPairs.mp hpair).1)
      (h _ (List.mem_orderedPairs.mp hpair).2.1)) ∅

theorem mem_orderedPairs_of_mem_peersOf (he : e ∈ edges) (hp : p ∈ peersOf edges e) :
    (e, p) ∈ edges.orderedPairs := by
  simp only [peersOf, List.mem_filter, decide_eq_true_eq] at hp
  exact List.mem_orderedPairs.mpr ⟨he, hp.1, Ne.symm hp.2⟩

theorem compareSensor_eq_ok {state : EdgeLocalReplicatedState F} (hstate : states.lookup e = some state)
    (he : Complete states e) (hpeers : ∀ p ∈ peersOf edges e, Complete states p)
    (hne : peersOf edges e ≠ []) (hscale : scale ∈ sensorScales (F := F)) :
    compareSensor states state (peersOf edges e) scale.1 = .ok (sensorCompared states edges e scale) := by
  obtain ⟨_, hstate', hpayload⟩ := he.lookup hscale
  obtain rfl := Option.some.inj (hstate.symm.trans hstate')
  have hdistances : (peersOf edges e).mapM (peerDistance states scale.1 (payloadOf states e scale.1)) =
      .ok (sensorCompared states edges e scale).peerDistances := by
    refine List.mapM_eq_ok fun p hp => ?_
    obtain ⟨peer, hpeer, hpayload⟩ := (hpeers p hp).lookup hscale
    simp [peerDistance, hpeer, hpayload, getItem, bind, Except.bind, pure, Except.pure]
  have hmean : mean ((sensorCompared states edges e scale).peerDistances.map (·.2)) =
      .ok (sensorCompared states edges e scale).meanDistance := by
    refine mean_eq_ok.mpr ⟨by simpa [sensorCompared] using hne, ?_⟩
    simp [sensorCompared, Function.comp_def]
  simp only [compareSensor, hpayload, getItem, hdistances, hmean, bind, Except.bind]
  rfl

theorem pairDistances_eq_ok (he : e ∈ edges) : (peersOf edges e).mapM (fun p =>
    getItem ((pairwiseMap states edges).lookup (e, p)) [e, p]) =
      .ok ((peersOf edges e).map (distance states e)) := by
  refine List.mapM_eq_ok fun p hp => getItem_eq_ok.mpr ?_
  rw [pairwiseMap, Finmap.lookup_insertAll_id, if_pos (mem_orderedPairs_of_mem_peersOf he hp)]

theorem compareEdge_eq_ok (h : Evaluable states edges) (he : e ∈ edges) :
    compareEdge states edges (pairwiseMap states edges) e = .ok (compared states edges e) := by
  obtain ⟨state, hstate, -⟩ := h.complete e he
  have hsensors : (sensorScales (F := F)).mapM
      (fun scale => compareSensor states state (peersOf edges e) scale.1) =
        .ok (sensorScales.map (sensorCompared states edges e)) :=
    List.mapM_eq_ok fun scale hscale => compareSensor_eq_ok hstate (h.complete e he)
      (fun p hp => h.complete p (List.mem_filter.mp hp).1) (h.peers e he) hscale
  simp only [compareEdge, Except.bind_eq_ok, getItem_eq_ok, mean_eq_ok, divide_eq_ok]
  refine ⟨state, hstate, _, hsensors, _, pairDistances_eq_ok he, _, ⟨?_, rfl⟩, _, ⟨?_, rfl⟩, ?_⟩
  · simpa using h.peers e he
  · simpa [meanDistance] using h.inverse e he
  · simp [compared, meanDistance, pure, Except.pure]

/-- A comparison that succeeds has a peer. -/
theorem peersOf_ne_nil_of_compareEdge (h : compareEdge states edges pairwise e = .ok edge) :
    peersOf edges e ≠ [] := by
  intro hnil
  simp only [compareEdge, Except.bind_eq_ok, mean_eq_ok] at h
  obtain ⟨state, -, sensors, -, distances, hdistances, m, ⟨hne, -⟩, -⟩ := h
  change (peersOf edges e).mapM _ = _ at hdistances
  rw [hnil, List.mapM_nil] at hdistances
  exact hne (Except.ok.inj hdistances).symm

/-- A comparison that succeeds has a score that can be computed. -/
theorem inverse_of_compareEdge (he : e ∈ edges)
    (h : compareEdge states edges (pairwiseMap states edges) e = .ok edge) :
    FloatArith.eq (1.0 + PyArith.round3 (meanDistance states edges e)) (0.0 : F) = false := by
  simp only [compareEdge, Except.bind_eq_ok, mean_eq_ok, divide_eq_ok] at h
  obtain ⟨state, -, sensors, -, distances, hdistances, m, ⟨-, rfl⟩, q, ⟨hinverse, -⟩, -⟩ := h
  obtain rfl := Except.ok.inj ((pairDistances_eq_ok he).symm.trans hdistances)
  simpa [meanDistance] using hinverse

theorem complete_of_pairwiseDistances (h : pairwiseDistances states edges = .ok pairwise)
    (he : e ∈ edges) (hne : peersOf edges e ≠ []) : Complete states e := by
  obtain ⟨p, hp⟩ := List.exists_mem_of_ne_nil _ hne
  obtain ⟨d, hd⟩ := Finmap.insertAllM_isOk h (e, p) (mem_orderedPairs_of_mem_peersOf he hp)
  exact (complete_of_pairDistance hd).1

/-! ## The evaluation -/

end States

/-- What `evaluateTrust` returns when nothing is missing. -/
def trustOf (roundIdentity : RoundIdentity) (edges : List String)
    (replicatedStates : List (EdgeLocalReplicatedState F)) :
    TrustRanking F × List ExclusionDecision × List (PerEdgeTrustEvidence F) :=
  let comparisons := edges.map (compared (byEdge replicatedStates) edges)
  (trustRanking roundIdentity edges comparisons,
    comparisons.filterMap (·.exclusion roundIdentity (edges.length / 2 + 1)),
    comparisons.map (·.evidence roundIdentity))

variable {roundIdentity : RoundIdentity} {edges : List String}
  {replicatedStates : List (EdgeLocalReplicatedState F)}

theorem covers_trustRanking (states : Finmap fun _ : String => EdgeLocalReplicatedState F) :
    (trustRanking roundIdentity edges (edges.map (compared states edges))).covers edges = true := by
  simp [TrustRanking.covers, trustRanking, compared, Function.comp_def]

/-- The evaluation returns normally exactly when every edge has a complete state and a peer. -/
theorem evaluateTrust_eq_ok_iff : evaluateTrust roundIdentity edges replicatedStates = .ok trust ↔
    Evaluable (byEdge replicatedStates) edges ∧
      trust = trustOf roundIdentity edges replicatedStates := by
  have hvalue : Evaluable (byEdge replicatedStates) edges →
      evaluateTrust roundIdentity edges replicatedStates =
        .ok (trustOf roundIdentity edges replicatedStates) := fun h => by
    simp only [evaluateTrust, Except.bind_eq_ok]
    refine ⟨_, pairwiseDistances_eq_ok h.complete, _,
      List.mapM_eq_ok fun e he => compareEdge_eq_ok h he, (), ?_, rfl⟩
    refine require_eq_ok_iff.mpr fun check hcheck => ?_
    rw [List.mem_singleton.mp hcheck]
    exact covers_trustRanking _
  constructor
  · intro h
    have heval : Evaluable (byEdge replicatedStates) edges := by
      simp only [evaluateTrust, Except.bind_eq_ok] at h
      obtain ⟨pairwise, hpairwise, comparisons, hcomparisons, -⟩ := h
      have hsome := List.exists_of_mapM_eq_ok hcomparisons
      have hpeers : ∀ e ∈ edges, peersOf edges e ≠ [] := fun e he =>
        peersOf_ne_nil_of_compareEdge (hsome e he).choose_spec
      have hcomplete : ∀ e ∈ edges, Complete (byEdge replicatedStates) e := fun e he =>
        complete_of_pairwiseDistances hpairwise he (hpeers e he)
      obtain rfl := Except.ok.inj ((pairwiseDistances_eq_ok hcomplete).symm.trans hpairwise)
      exact ⟨hcomplete, hpeers, fun e he => inverse_of_compareEdge he (hsome e he).choose_spec⟩
    exact ⟨heval, Except.ok.inj (h.symm.trans (hvalue heval))⟩
  · rintro ⟨h, rfl⟩
    exact hvalue h

/-! ## Excluded edges -/

section Supported

variable (states : Finmap fun _ : String => EdgeLocalReplicatedState F)

/-- The peers within the threshold of an edge. -/
def support (edges : List String) (edgeID : String) : Nat :=
  (peersOf edges edgeID).countP fun peerID =>
    FloatArith.le (distance states edgeID peerID) pairwiseConsistencyThreshold

/-- An edge that is part of a quorum of edges within its threshold. -/
def Supported (edges : List String) (edgeID : String) : Prop :=
  edges.length / 2 + 1 ≤ support states edges edgeID + 1

instance (edges : List String) : DecidablePred (Supported states edges) := fun _ =>
  inferInstanceAs (Decidable (_ ≤ _))

@[simp] theorem compatiblePeerCount_compared (edges : List String) (edgeID : String) :
    (compared states edges edgeID).compatiblePeerCount = support states edges edgeID := by
  simp [EdgeComparison.compatiblePeerCount, compared, support, List.countP_map, Function.comp_def]

/-- The decision on an edge that is not supported. -/
def decisionOn (roundIdentity : RoundIdentity) (edges : List String) (edgeID : String) :
    ExclusionDecision where
  roundIdentity := roundIdentity
  edgeID := edgeID
  reason := (compared states edges edgeID).primaryReason
  detail := some (compared states edges edgeID).detail

end Supported

/-- The decisions are those on the participants that are not supported. -/
theorem mem_exclusions {decision : ExclusionDecision} :
    decision ∈ (trustOf roundIdentity edges replicatedStates).2.1 ↔
      ∃ e ∈ edges, ¬ Supported (byEdge replicatedStates) edges e ∧
        decision = decisionOn (byEdge replicatedStates) roundIdentity edges e := by
  simp only [trustOf, List.mem_filterMap, List.mem_map, exists_exists_and_eq_and]
  refine exists_congr fun e => and_congr_right fun _ => ?_
  rw [EdgeComparison.exclusion, compatiblePeerCount_compared, Supported, not_le]
  split
  · rename_i h
    simp only [h, true_and, Option.some.injEq]
    exact eq_comm
  · rename_i h
    simp [h]

theorem mem_map_exclusions : e ∈ (trustOf roundIdentity edges replicatedStates).2.1.map (·.edgeID) ↔
    e ∈ edges ∧ ¬ Supported (byEdge replicatedStates) edges e := by
  simp only [List.mem_map, mem_exclusions]
  constructor
  · rintro ⟨_, ⟨e', he', hnot, rfl⟩, rfl⟩
    exact ⟨he', hnot⟩
  · rintro ⟨he, hnot⟩
    exact ⟨_, ⟨e, he, hnot, rfl⟩, rfl⟩

end TruthFingerprint.Consensus
