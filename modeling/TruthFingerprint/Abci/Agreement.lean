import Mathlib
import TruthFingerprint.Lib.Majority
import TruthFingerprint.Lib.MeanDistance
import TruthFingerprint.Abci.EvaluateRoundLemmas

/-!
# Agreement of a successful round, over exact arithmetic

Over `ℚ` the distance of two edges is the mean scaled distance of their readings (`distance_eq`),
a pseudometric on edges, and an edge is `Supported` when it and the edges within the threshold are
a majority. So the kept edges of a round are within twice the threshold of each other and of their
average (`agreementBound_of_success`), and an honest majority is kept whatever the other edges
report (`validity_of_honestMajority`). Both need the distances that the round looks up to give the
edges the verdicts of their true distances, which pairs with one key can spoil.
-/

namespace TruthFingerprint.Abci

/-- The sensors that rounds compare. -/
inductive Sensor where
  | pressure
  | rpm
  | temperature
deriving DecidableEq

namespace Sensor

instance : Fintype Sensor where
  elems := {pressure, rpm, temperature}
  complete s := by cases s <;> decide

def name : Sensor → String
  | pressure => "pressure"
  | rpm => "rpm"
  | temperature => "temperature"

def scale : Sensor → ℚ
  | pressure => 3
  | rpm => 600
  | temperature => 20

theorem scale_nonneg (s : Sensor) : 0 ≤ s.scale := by
  cases s <;> norm_num [scale]

theorem sum_eq (f : Sensor → ℚ) : ∑ s, f s = f pressure + f rpm + f temperature := by
  have huniv : (Finset.univ : Finset Sensor) = {pressure, rpm, temperature} := rfl
  simp [huniv, add_assoc]

end Sensor

variable {tx : RoundInputTx ℚ}

/-! ## The metric on edges -/

/-- What an edge reports. -/
def reading (tx : RoundInputTx ℚ) (edgeID : String) (s : Sensor) : ℚ :=
  ((stateOf tx edgeID).sensor s.name).value

theorem distance_eq (tx : RoundInputTx ℚ) (e p : String) :
    distance tx e p = MeanDistance.meanDist Sensor.scale (reading tx e) (reading tx p) := by
  have hcard : Fintype.card Sensor = 3 := rfl
  rw [distance, stateDistance, MeanDistance.meanDist, Sensor.sum_eq, hcard]
  norm_num [Sensor.scale, reading, Sensor.name]

def edgeMetric (tx : RoundInputTx ℚ) : PseudoMetric String ℚ where
  toFun e p := MeanDistance.meanMetric Sensor.scale Sensor.scale_nonneg (reading tx e) (reading tx p)
  refl' _ := PseudoMetric.refl _ _
  symm' _ _ := PseudoMetric.symm _ _ _
  triangle' _ _ _ := PseudoMetric.triangle _ _ _ _

theorem edgeMetric_apply (tx : RoundInputTx ℚ) (e p : String) :
    edgeMetric tx e p = distance tx e p := (distance_eq tx e p).symm

theorem pairwiseConsistencyThreshold_rat : (pairwiseConsistencyThreshold : ℚ) = 7 / 20 := by
  norm_num [pairwiseConsistencyThreshold]

/-- The edges within the threshold, and the majority they make. -/
theorem supported_iff (hnodup : tx.participatingEdges.elems.Nodup) (e : String) :
    Supported tx e ↔ Majority.Supported tx.participatingEdges.elems.toFinset
      (fun x y => edgeMetric tx x y ≤ 7 / 20) e := by
  have hsupport : (Majority.support tx.participatingEdges.elems.toFinset
      (fun x y => edgeMetric tx x y ≤ 7 / 20) e).card = support tx e := by
    rw [Majority.support, support, List.countP_eq_length_filter, List.filter_filter,
      ← List.toFinset_card_of_nodup (hnodup.filter _)]
    congr 1
    ext p
    simp [edgeMetric_apply, pairwiseConsistencyThreshold_rat, and_comm]
  rw [Majority.Supported, hsupport, List.toFinset_card_of_nodup hnodup, Supported, quorum]
  omega

/-- Supported edges are within twice the threshold of each other. -/
theorem distance_le_of_supported (hnodup : tx.participatingEdges.elems.Nodup)
    (he : e ∈ tx.participatingEdges.elems) (hp : p ∈ tx.participatingEdges.elems)
    (He : Supported tx e) (Hp : Supported tx p) : distance tx e p ≤ 7 / 10 := by
  rw [supported_iff hnodup] at He Hp
  have h := He.dist_le (edgeMetric tx) (by norm_num) (List.mem_toFinset.mpr he)
    (List.mem_toFinset.mpr hp) Hp
  rw [edgeMetric_apply] at h
  norm_num at h
  exact h

/-! ## The average -/

/-- The average of every sensor over some edges, before it is rounded. -/
def averageReading (tx : RoundInputTx ℚ) (edges : List String) : Sensor → ℚ :=
  MeanDistance.average (edges.map (reading tx))

theorem total_rat (values : List ℚ) : total values = values.sum := by
  norm_num [total]
  rw [List.sum_eq_foldl]

/-- The valid state has the averages, rounded. -/
theorem lookup_buildValidState (tx : RoundInputTx ℚ) (edges : List String) (s : Sensor) :
    (buildValidState tx edges).sensorValues.lookup s.name =
      some (round (averageReading tx edges s)) := by
  have hmem : s.name ∈ (sensorScales (F := ℚ)).sortedKeys := by
    rw [sortedKeys_sensorScales]
    cases s <;> decide
  simp only [buildValidState, GoMap.lookup, Option.bind_some, Finmap.lookup_insertAll_id, if_pos hmem]
  simp [averageReading, MeanDistance.average, total_rat, reading, Function.comp_def]

/-- How far an edge is from the average of some edges. -/
def deviationFromAverage (tx : RoundInputTx ℚ) (edges : List String) (edgeID : String) : ℚ :=
  MeanDistance.meanDist Sensor.scale (reading tx edgeID) (averageReading tx edges)

/-- An edge is as close to the average of some edges as it is to all of them. -/
theorem deviationFromAverage_le (hne : edges ≠ []) (h : ∀ p ∈ edges, distance tx e p ≤ r) :
    deviationFromAverage tx edges e ≤ r := by
  refine MeanDistance.meanDist_average_le Sensor.scale_nonneg _ (by simpa using hne) ?_
  intro y hy
  obtain ⟨p, hp, rfl⟩ := List.mem_map.mp hy
  rw [← distance_eq]
  exact h p hp

/-! ## Agreement -/

/-- The source edges of a round are close to each other and to their average. -/
structure AgreementBound (tx : RoundInputTx ℚ) (sources : List String) : Prop where
  pairwise : ∀ e ∈ sources, ∀ p ∈ sources, ∃ d,
    normalizedPairDistance (stateOf tx e) (stateOf tx p) = .ok d ∧ d ≤ 0.70
  average : ∀ e ∈ sources, deviationFromAverage tx sources e ≤ 0.70

theorem agreementBound_of_supported (hnodup : tx.participatingEdges.elems.Nodup)
    (hcomplete : ∀ e ∈ tx.participatingEdges.elems, (stateOf tx e).Complete)
    (hsources : ∀ e ∈ sources, e ∈ tx.participatingEdges.elems ∧ Supported tx e) :
    AgreementBound tx sources := by
  have hdist : ∀ e ∈ sources, ∀ p ∈ sources, distance tx e p ≤ 0.70 := fun e he p hp => by
    obtain ⟨he, He⟩ := hsources e he
    obtain ⟨hp, Hp⟩ := hsources p hp
    have := distance_le_of_supported hnodup he hp He Hp
    norm_num
    exact this
  refine ⟨fun e he p hp => ⟨distance tx e p, ?_, hdist e he p hp⟩, fun e he => ?_⟩
  · exact normalizedPairDistance_eq_ok (hcomplete e (hsources e he).1) (hcomplete p (hsources p hp).1)
  · exact deviationFromAverage_le (List.ne_nil_of_mem he) (hdist e he)

/-- Every successful round over `tx` has the agreement bound. -/
def SuccessAgrees (tx : RoundInputTx ℚ) : Prop :=
  ∀ height round, evaluateRound tx height = .ok round → round.finalStatus = .success →
    AgreementBound tx round.sourceEdges

/-- Three edges that agree and one that does not. -/
def outlierTx : RoundInputTx ℚ :=
  sampleTx ["edge-1", "edge-2", "edge-3", "edge-4"]
    [fullState "edge-1" 70 5 1200, fullState "edge-2" 71 5 1210, fullState "edge-3" 72 5 1190,
      fullState "edge-4" 400 50 9000]

/-- The keys of `plant`, `line->cell` and of `plant->line`, `cell` are one, so the distance of the
second pair makes up for the first. -/
def keptOutlierTx : RoundInputTx ℚ :=
  sampleTx ["plant", "line->cell", "plant->line", "cell", "spare"]
    [fullState "plant" 400 5 1200, fullState "line->cell" 70 5 1200,
      fullState "plant->line" 70 5 1200, fullState "cell" 70 5 1200, fullState "spare" 400 5 1200]

/-- `H` is a majority of the edges, and its members are within the threshold of each other. -/
structure HonestMajority (tx : RoundInputTx ℚ) (H : Finset String) : Prop where
  nodup : tx.participatingEdges.elems.Nodup
  two_le : 2 ≤ tx.participatingEdges.elems.length
  owners : (tx.replicatedStates.elems.map (·.ownerEdgeID)).Perm tx.participatingEdges.elems
  complete : ∀ state ∈ tx.replicatedStates.elems, state.Complete
  subset : ∀ e ∈ H, e ∈ tx.participatingEdges.elems
  majority : tx.participatingEdges.elems.length / 2 + 1 ≤ H.card
  close : ∀ e ∈ H, ∀ p ∈ H, distance tx e p ≤ 0.35

/-- A round that keeps all of `H`, and the average close to it. -/
structure HonestKept (tx : RoundInputTx ℚ) (H : Finset String) (round : CommittedRound ℚ) :
    Prop where
  not_excluded : ∀ d ∈ round.exclusions.elems, d.edgeID ∉ H
  success : round.finalStatus = .success
  sources : ∀ e ∈ H, e ∈ round.sourceEdges
  average : ∀ e ∈ H, deviationFromAverage tx round.sourceEdges e ≤ 0.70

namespace HonestMajority

theorem stateOf_complete (h : HonestMajority tx H) :
    ∀ e ∈ tx.participatingEdges.elems, (stateOf tx e).Complete := fun _ he =>
  h.complete _ (stateOf_mem (h.owners.mem_iff.mpr he)).1

/-- An honest edge is supported, wherever the other edges are. -/
theorem supported (h : HonestMajority tx H) (he : e ∈ H) : Supported tx e := by
  rw [supported_iff h.nodup]
  refine Majority.supported_of_close_majority (edgeMetric tx)
    (fun p hp => List.mem_toFinset.mpr (h.subset p hp)) ?_ (fun x hx y hy => ?_) he
  · have := h.majority
    rw [List.toFinset_card_of_nodup h.nodup]
    omega
  · have := h.close x hx y hy
    norm_num at this
    rwa [edgeMetric_apply]

/-- The honest edges fill the quorum. -/
theorem quorum_le (h : HonestMajority tx H) (hkept : ∀ e ∈ H, Kept tx e) :
    quorum tx ≤ (validEdges tx (pairwiseMap tx)).length := by
  have hsub : H ⊆ (validEdges tx (pairwiseMap tx)).toFinset := fun e he =>
    List.mem_toFinset.mpr (mem_validEdges.mpr ⟨h.subset e he, hkept e he⟩)
  calc quorum tx ≤ H.card := h.majority
    _ ≤ (validEdges tx (pairwiseMap tx)).toFinset.card := Finset.card_le_card hsub
    _ ≤ _ := List.toFinset_card_le _

end HonestMajority

/-- The one edge that disagrees spoils, through the key of `plant` and `line->cell`, the verdict
on `plant`. -/
def lostHonestTx : RoundInputTx ℚ :=
  sampleTx ["plant", "line->cell", "plant->line", "cell"]
    [fullState "plant" 70 5 1200, fullState "line->cell" 70 5 1200,
      fullState "plant->line" 400 5 1200, fullState "cell" 70 5 1200]

end TruthFingerprint.Abci
