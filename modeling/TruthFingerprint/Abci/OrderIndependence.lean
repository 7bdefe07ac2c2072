import Mathlib
import TruthFingerprint.Abci.EvaluateRoundLemmas
import TruthFingerprint.Lib.NonnegFloat
import TruthFingerprint.Lib.Sorting

/-!
# Order of submission

Every list that a round is made of is sorted before a number is computed from it or it is returned,
so the edges and states of a transaction may come in any order. The map of pairwise distances is
the exception: where two pairs have one key, it keeps the distance of the pair that comes last
(`pairwiseMap_reordered_iff`). So a round does not depend on the order when such pairs are at one
distance (`orderIndependent_of_keyedAlike`).

Readings that are decoded from JSON are finite. The distances of a round are then nonnegative
floats, and so are its scores (`nonneg_score`): no score is NaN, and the ranking is a linear order
(`rankedBefore_iff`).
-/

namespace TruthFingerprint.Abci

/-! ## Reordered transactions -/

section Reordered

variable {F : Type} [GoArith F] {tx tx' : RoundInputTx F}

/-- The edges and states of `tx` in another order. -/
structure Reordered (tx tx' : RoundInputTx F) : Prop where
  edges : tx'.participatingEdges.elems.Perm tx.participatingEdges.elems
  states : tx'.replicatedStates.elems.Perm tx.replicatedStates.elems

/-- Pairs with one key are at one distance. -/
def KeyedAlike (tx : RoundInputTx F) : Prop :=
  ∀ pair ∈ tx.participatingEdges.elems.orderedPairs,
    ∀ pair' ∈ tx.participatingEdges.elems.orderedPairs, pairKey pair = pairKey pair' →
      distance tx pair.1 pair.2 = distance tx pair'.1 pair'.2

theorem keyedAlike_of_arrowFree (h : ∀ e ∈ tx.participatingEdges.elems, ArrowFree e) :
    KeyedAlike tx := fun _ hpair _ hpair' hkey => by
  rw [keysDistinct_of_arrowFree h _ hpair _ hpair' hkey]

namespace Reordered

variable (h : Reordered tx tx') (howners : (tx.replicatedStates.elems.map (·.ownerEdgeID)).Nodup)
include h

omit [GoArith F] in
theorem mem_orderedPairs (pair : String × String) :
    pair ∈ tx'.participatingEdges.elems.orderedPairs ↔
      pair ∈ tx.participatingEdges.elems.orderedPairs := by
  rw [List.mem_orderedPairs, List.mem_orderedPairs, h.edges.mem_iff, h.edges.mem_iff]

omit [GoArith F] in
theorem peerIDs_eq (e : String) :
    peerIDs tx'.participatingEdges.elems e = peerIDs tx.participatingEdges.elems e :=
  (List.insertionSort_eq_of_perm id (fun _ _ _ _ => Iff.rfl) (fun _ _ _ _ => id)
    (h.edges.symm.filter _)).symm

omit [GoArith F] in
theorem quorum_eq : quorum tx' = quorum tx := by
  rw [quorum, quorum, h.edges.length_eq]

include howners

omit [GoArith F] in
/-- The last state of an owner is its only one. -/
theorem stateOf_eq : stateOf tx' = stateOf tx := by
  have hmap : stateByEdge tx'.replicatedStates.elems = stateByEdge tx.replicatedStates.elems :=
    Finmap.insertAll_eq_of_mem_iff (fun _ hx _ hy => List.inj_on_of_nodup_map howners hx hy)
      (fun _ _ => rfl) (fun _ => h.states.mem_iff) ∅
  funext e
  rw [stateOf, stateOf, hmap]

theorem distance_eq : distance tx' = distance tx := by
  funext e p
  rw [distance, distance, h.stateOf_eq howners]

theorem comparable_iff : Comparable tx' ↔ Comparable tx := by
  simp only [Comparable, h.mem_orderedPairs, h.stateOf_eq howners]

theorem pairwiseMap_eq (hk : KeyedAlike tx) : pairwiseMap tx' = pairwiseMap tx :=
  Finmap.insertAll_eq_of_mem_iff hk (fun _ _ => by rw [h.distance_eq howners])
    h.mem_orderedPairs ∅

variable (pairwise : Finmap fun _ : String => F)

theorem sensorDistance_eq : sensorDistance tx' = sensorDistance tx := by
  funext e sensorName p
  rw [sensorDistance, sensorDistance, h.stateOf_eq howners]

theorem sensorDeviation_eq : sensorDeviation tx' = sensorDeviation tx := by
  funext e sensorName
  simp only [sensorDeviation, h.sensorDistance_eq howners, h.stateOf_eq howners, h.peerIDs_eq]

theorem sensorDeviations_eq : sensorDeviations tx' = sensorDeviations tx := by
  funext e
  simp only [sensorDeviations, h.sensorDeviation_eq howners, h.stateOf_eq howners]

omit howners in
theorem compatiblePeers_eq : compatiblePeers tx' pairwise = compatiblePeers tx pairwise := by
  funext e
  rw [compatiblePeers, compatiblePeers, h.peerIDs_eq]

omit howners in
theorem overallDeviation_eq : overallDeviation tx' pairwise = overallDeviation tx pairwise := by
  funext e
  simp only [overallDeviation, h.peerIDs_eq]

omit howners in
theorem score_eq : score tx' pairwise = score tx pairwise := by
  funext e
  rw [score, score, h.overallDeviation_eq]

theorem trustEvidence_eq : trustEvidence tx' pairwise = trustEvidence tx pairwise := by
  funext e
  simp only [trustEvidence, peerDistances, h.score_eq, h.compatiblePeers_eq, h.overallDeviation_eq,
    h.sensorDistance_eq howners, h.sensorDeviations_eq howners, h.stateOf_eq howners, h.peerIDs_eq]

theorem exclusion_eq : exclusion tx' pairwise = exclusion tx pairwise := by
  funext e
  rw [exclusion, exclusion, exclusionReason, exclusionReason, exclusionDetails, exclusionDetails,
    h.compatiblePeers_eq, h.overallDeviation_eq, h.sensorDeviations_eq howners, h.quorum_eq]

theorem exclusions_eq : exclusions tx' pairwise = exclusions tx pairwise := by
  have hedge : ∀ {e d}, exclusion tx pairwise e = some d → d.edgeID = e := fun {e d} hd => by
    rw [exclusion] at hd
    split at hd
    · exact (Option.some.inj hd) ▸ rfl
    · cases hd
  rw [exclusions, h.exclusion_eq howners]
  refine (List.insertionSort_eq_of_perm ExclusionDecision.edgeID
    (fun _ _ _ _ => Iff.rfl) (fun d hd d' hd' heq => ?_) (h.edges.symm.filterMap _)).symm
  obtain ⟨e, -, he⟩ := List.mem_filterMap.mp hd
  obtain ⟨e', -, he'⟩ := List.mem_filterMap.mp hd'
  obtain rfl : e = e' := (hedge he).symm.trans (heq.trans (hedge he'))
  exact Option.some.inj (he.symm.trans he')

theorem validEdges_eq : validEdges tx' pairwise = validEdges tx pairwise := by
  rw [validEdges, validEdges, h.exclusions_eq howners]
  exact (List.insertionSort_eq_of_perm id (fun _ _ _ _ => Iff.rfl) (fun _ _ _ _ => id)
    (h.edges.symm.filter _)).symm

theorem sortedEvidence_eq :
    (tx'.participatingEdges.elems.map (trustEvidence tx' pairwise)).insertionSort
        (·.edgeID ≤ ·.edgeID) =
      (tx.participatingEdges.elems.map (trustEvidence tx pairwise)).insertionSort
        (·.edgeID ≤ ·.edgeID) := by
  rw [h.trustEvidence_eq howners]
  refine (List.insertionSort_eq_of_perm PerEdgeTrustEvidence.edgeID
    (fun _ _ _ _ => Iff.rfl) (fun d hd d' hd' heq => ?_) (h.edges.symm.map _)).symm
  obtain ⟨e, -, rfl⟩ := List.mem_map.mp hd
  obtain ⟨e', -, rfl⟩ := List.mem_map.mp hd'
  exact congrArg (trustEvidence tx pairwise) heq

theorem buildValidState_eq (edges : List String) :
    buildValidState tx' edges = buildValidState tx edges := by
  simp only [buildValidState, h.stateOf_eq howners]

end Reordered

/-- `tx` with one edge moved to the end. -/
def withLast (tx : RoundInputTx F) (e : String) : RoundInputTx F :=
  { tx with
    participatingEdges := some <|
      tx.participatingEdges.elems.filter (· ≠ e) ++ tx.participatingEdges.elems.filter (· = e) }

omit [GoArith F] in
theorem reordered_withLast (tx : RoundInputTx F) (e : String) : Reordered tx (withLast tx e) where
  edges := by
    have hperm := List.filter_append_perm (· ≠ e) tx.participatingEdges.elems
    simpa [withLast] using hperm
  states := .refl _

/-- The pairs of the last edge are the ones that are kept. -/
theorem lookup_pairwiseMap_withLast (hp : (e, p) ∈ tx.participatingEdges.elems.orderedPairs) :
    (pairwiseMap (withLast tx e)).lookup (pairKey (e, p)) = some (distance tx e p) := by
  obtain ⟨he, hpeer, hne⟩ := List.mem_orderedPairs.mp hp
  have hedges : ∀ x, x ∈ (withLast tx e).participatingEdges.elems ↔ x ∈ tx.participatingEdges.elems :=
    fun x => (reordered_withLast tx e).edges.mem_iff
  let last := (tx.participatingEdges.elems.filter (· = e)).flatMap fun x =>
    ((withLast tx e).participatingEdges.elems.filter (x ≠ ·)).map (x, ·)
  have hmem : (e, p) ∈ last := by
    refine List.mem_flatMap.mpr ⟨e, List.mem_filter.mpr ⟨he, by simp⟩, ?_⟩
    exact List.mem_map_of_mem (List.mem_filter.mpr ⟨(hedges p).mpr hpeer, by simpa using hne⟩)
  have hlast : ∀ pair ∈ last, pairKey pair = pairKey (e, p) → pair = (e, p) := by
    intro pair hpair hkey
    obtain ⟨x, hx, hpair⟩ := List.mem_flatMap.mp hpair
    obtain ⟨y, -, rfl⟩ := List.mem_map.mp hpair
    obtain rfl : x = e := by simpa using (List.mem_filter.mp hx).2
    have happend := congrArg String.toList hkey
    simp only [pairKey, String.toList_append, List.append_cancel_left_eq] at happend
    rw [String.toList_inj.mp happend]
  have hsplit : ∃ first, (withLast tx e).participatingEdges.elems.orderedPairs = first ++ last :=
    ⟨_, List.flatMap_append⟩
  obtain ⟨first, hsplit⟩ := hsplit
  have hfind : last.reverse.find? (pairKey · = pairKey (e, p)) = some (e, p) := by
    obtain ⟨pair, hpair⟩ := Option.isSome_iff_exists.mp
      (List.find?_isSome.mpr ⟨(e, p), List.mem_reverse.mpr hmem, by simp⟩ :
        (last.reverse.find? (pairKey · = pairKey (e, p))).isSome)
    rw [hpair, hlast pair (List.mem_reverse.mp (List.mem_of_find?_eq_some hpair))
      (by simpa using List.find?_some hpair)]
  rw [pairwiseMap, Finmap.lookup_insertAll, hsplit, List.reverse_append, List.find?_append, hfind]
  rfl

/-- The order changes the distances that a round looks up unless pairs with one key are alike. -/
theorem pairwiseMap_reordered_iff
    (howners : (tx.replicatedStates.elems.map (·.ownerEdgeID)).Nodup) :
    (∀ tx', Reordered tx tx' → pairwiseMap tx' = pairwiseMap tx) ↔ KeyedAlike tx := by
  constructor
  · rintro h ⟨e, p⟩ hpair ⟨e', p'⟩ hpair' hkey
    have h₁ := lookup_pairwiseMap_withLast hpair
    have h₂ := lookup_pairwiseMap_withLast hpair'
    rw [h _ (reordered_withLast tx e)] at h₁
    rw [h _ (reordered_withLast tx e'), ← hkey, h₁] at h₂
    exact Option.some.inj h₂
  · exact fun hk tx' h => h.pairwiseMap_eq howners hk

/-- What a round says about the edges. -/
structure RoundOutcome (F : Type) where
  trustRanking : Slice (TrustRankEntry F)
  exclusions : Slice ExclusionDecision
  trustEvidence : Slice (PerEdgeTrustEvidence F)
  finalStatus : FinalStatus
  consensusedValidState : Option (ConsensusedValidState F)
deriving DecidableEq

def CommittedRound.outcome (round : CommittedRound F) : RoundOutcome F where
  trustRanking := round.trustRanking
  exclusions := round.exclusions
  trustEvidence := round.trustEvidence
  finalStatus := round.finalStatus
  consensusedValidState := round.consensusedValidState

/-- The round, or nothing when it fails, has one outcome in every order of submission. -/
def OrderIndependent (tx : RoundInputTx F) : Prop :=
  ∀ tx', Reordered tx tx' → ∀ height,
    (evaluateRound tx' height).toOption.map CommittedRound.outcome =
      (evaluateRound tx height).toOption.map CommittedRound.outcome

theorem toOption_evaluateRound_eq_none (h : ¬Comparable tx) :
    (evaluateRound tx height).toOption = none := by
  cases hr : evaluateRound tx height with
  | error e => rfl
  | ok round => exact absurd (evaluateRound_eq_ok_iff.mp hr).1 h

/-- The rankings are all that is left to compare. -/
theorem Reordered.outcome_eq (h : Reordered tx tx')
    (howners : (tx.replicatedStates.elems.map (·.ownerEdgeID)).Nodup)
    (hranking : trustRanking tx' pairwise = trustRanking tx pairwise) (height : Int) :
    (committedRound tx' pairwise height).outcome = (committedRound tx pairwise height).outcome := by
  simp only [committedRound, CommittedRound.outcome, hranking, h.exclusions_eq howners,
    h.sortedEvidence_eq howners, h.validEdges_eq howners, h.quorum_eq, h.buildValidState_eq howners]

end Reordered

/-! ## Scores -/

section Scores

variable {tx tx' : RoundInputTx Float}

/-- The readings of a transaction are finite, as those decoded from JSON are. -/
def FiniteReadings (tx : RoundInputTx Float) : Prop :=
  ∀ state ∈ tx.replicatedStates.elems, ∀ sensorName sensor,
    state.sensorValues.lookup sensorName = some sensor → sensor.value.isFinite

theorem FiniteReadings.sensor (h : FiniteReadings tx) (e sensorName : String) :
    ((stateOf tx e).sensor sensorName).value.isFinite := by
  have hzero : (SensorValue.zero (F := Float)).value.isFinite := by decide +kernel
  rw [ReplicatedState.sensor]
  cases hs : (stateOf tx e).sensorValues.lookup sensorName with
  | none => exact hzero
  | some sensor =>
    by_cases howner : e ∈ tx.replicatedStates.elems.map (·.ownerEdgeID)
    · exact h _ (stateOf_mem howner).1 _ _ hs
    · have hnone : tx.replicatedStates.elems.reverse.find? (·.ownerEdgeID = e) = none := by
        refine List.find?_eq_none.mpr fun state hstate => ?_
        have hne := ne_of_mem_of_not_mem (List.mem_map_of_mem (List.mem_reverse.mp hstate)) howner
        simpa using hne
      simp [stateOf, stateByEdge, Finmap.lookup_insertAll, hnone, ReplicatedState.zero,
        GoMap.lookup] at hs

theorem nonneg_total {values : List Float} (h : ∀ x ∈ values, x.Nonneg) : (total values).Nonneg := by
  have hfold : ∀ (values : List Float) (acc : Float), acc.Nonneg → (∀ x ∈ values, x.Nonneg) →
      (values.foldl (· + ·) acc).Nonneg := fun values => by
    induction values with
    | nil => exact fun _ hacc _ => hacc
    | cons x values ih =>
      intro acc hacc h
      obtain ⟨hx, hvalues⟩ := List.forall_mem_cons.mp h
      exact ih _ (hacc.add hx) hvalues
  exact hfold values 0.0 Float.nonneg_zero h

theorem nonneg_round {x : Float} (h : x.Nonneg) : (round x).Nonneg := by
  have hmath : ∀ {y : Float}, y.Nonneg → (GoArith.mathRound y).Nonneg := fun {y} hy => by
    change (Binary64.mathRound y).Nonneg
    rw [Binary64.mathRound]
    rcases Float.Model.UnpackedFloat.nonneg_iff.mp hy with hu | hu | ⟨m, e, hm, hu⟩
    · rw [hu]
      exact hy
    · rw [hu]
      exact hy
    · rw [hu]
      exact Float.nonneg_ofNat _
  exact (hmath (h.mul_posFinite (by decide +kernel))).div_posFinite (by decide +kernel)

theorem nonneg_distance (h : FiniteReadings tx) (e p : String) : (distance tx e p).Nonneg := by
  have hsensor : ∀ sensorName, (FloatArith.abs (((stateOf tx e).sensor sensorName).value -
      ((stateOf tx p).sensor sensorName).value)).Nonneg := fun sensorName =>
    Float.nonneg_abs_sub (h.sensor e sensorName) (h.sensor p sensorName)
  refine Float.Nonneg.div_posFinite (((Float.nonneg_zero.add ?_).add ?_).add ?_) (by decide +kernel)
  · exact (hsensor _).div_posFinite (by decide +kernel)
  · exact (hsensor _).div_posFinite (by decide +kernel)
  · exact (hsensor _).div_posFinite (by decide +kernel)

theorem nonneg_score (h : FiniteReadings tx) (he : e ∈ tx.participatingEdges.elems)
    (hpeer : peerIDs tx.participatingEdges.elems e ≠ [])
    (hlength : tx.participatingEdges.elems.length < 2 ^ 63) :
    (score tx (pairwiseMap tx) e).Nonneg := by
  have hpeers : (peerIDs tx.participatingEdges.elems e).length ≤
      tx.participatingEdges.elems.length := by
    rw [(peerIDs_perm _ _).length_eq]
    exact List.length_filter_le _ _
  have hmean : (overallDeviation tx (pairwiseMap tx) e).Nonneg := by
    rw [overallDeviation_pairwiseMap he]
    refine nonneg_round (Float.Nonneg.div_posFinite (nonneg_total fun x hx => ?_) ?_)
    · obtain ⟨p, -, rfl⟩ := List.mem_map.mp hx
      exact nonneg_distance h _ _
    · exact Float.posFinite_ofNat (List.length_pos_iff.mpr hpeer).ne' (hpeers.trans_lt hlength)
  have hone : (1.0 : Float).PosFinite := by decide +kernel
  exact nonneg_round (hone.div_nonneg (hone.nonneg.add hmean))

/-- Distinct edges, at least two and not more than a slice can hold, distinct owners, and the
readings of a decoded transaction. -/
structure DistinctSubmission (tx : RoundInputTx Float) : Prop where
  edges : tx.participatingEdges.elems.Nodup
  two_le : 2 ≤ tx.participatingEdges.elems.length
  length_lt : tx.participatingEdges.elems.length < 2 ^ 63
  owners : (tx.replicatedStates.elems.map (·.ownerEdgeID)).Nodup
  readings : FiniteReadings tx

theorem DistinctSubmission.nonneg_score (h : DistinctSubmission tx)
    (he : e ∈ tx.participatingEdges.elems) : (score tx (pairwiseMap tx) e).Nonneg := by
  obtain ⟨e₁, he₁, e₂, he₂, hne⟩ := List.exists_ne_of_nodup h.edges h.two_le
  have hpeer : ∃ p ∈ tx.participatingEdges.elems, p ≠ e := by
    by_cases heq : e₁ = e
    · exact ⟨e₂, he₂, heq ▸ hne.symm⟩
    · exact ⟨e₁, he₁, heq⟩
  obtain ⟨p, hp, hpe⟩ := hpeer
  have hmem : p ∈ peerIDs tx.participatingEdges.elems e :=
    (peerIDs_perm _ _).mem_iff.mpr (List.mem_filter.mpr ⟨hp, by simpa using hpe⟩)
  exact Abci.nonneg_score h.readings he (List.ne_nil_of_mem hmem) h.length_lt

/-! ## Ranking -/

/-- The place of an entry in the ranking. -/
def rankKey (entry : TrustRankEntry Float) : (ℕ ×ₗ ℤ ×ₗ ℕ)ᵒᵈ ×ₗ String :=
  toLex (OrderDual.toDual entry.score.rank, entry.edgeID)

theorem rankedBefore_iff {left right : TrustRankEntry Float} (hl : left.score.Nonneg)
    (hr : right.score.Nonneg) : RankedBefore left right ↔ rankKey left ≤ rankKey right := by
  have heq : FloatArith.eq left.score right.score = true ↔ left.score.rank = right.score.rank :=
    Float.beq_iff_rank hl hr
  have hlt : FloatArith.lt right.score left.score = true ↔ right.score.rank < left.score.rank :=
    decide_eq_true_iff.trans (Float.lt_iff_rank hr hl)
  rw [RankedBefore, rankKey, rankKey, Prod.Lex.toLex_le_toLex, OrderDual.toDual_lt_toDual]
  split
  · rename_i h
    simp [heq.mp h]
  · rename_i h
    have hne := mt heq.mpr h
    simp [hlt, hne]

/-- Scores do not increase, and edges of one score are in the order of their ids. -/
def Ranked (ranking : List (TrustRankEntry Float)) : Prop :=
  ranking.Pairwise fun left right =>
    right.score < left.score ∨ (left.score == right.score) = true ∧ left.edgeID < right.edgeID

namespace DistinctSubmission

variable (h : DistinctSubmission tx)
include h

theorem rankedBefore_iff : ∀ left ∈ tx.participatingEdges.elems.map fun edgeID =>
      ({ edgeID, score := score tx (pairwiseMap tx) edgeID } : TrustRankEntry Float),
    ∀ right ∈ tx.participatingEdges.elems.map fun edgeID =>
      ({ edgeID, score := score tx (pairwiseMap tx) edgeID } : TrustRankEntry Float),
    RankedBefore left right ↔ rankKey left ≤ rankKey right := by
  intro left hleft right hright
  obtain ⟨e, he, rfl⟩ := List.mem_map.mp hleft
  obtain ⟨p, hp, rfl⟩ := List.mem_map.mp hright
  exact Abci.rankedBefore_iff (h.nonneg_score he) (h.nonneg_score hp)

theorem trustRanking_eq (hr : Reordered tx tx') :
    trustRanking tx' (pairwiseMap tx) = trustRanking tx (pairwiseMap tx) := by
  rw [trustRanking, hr.score_eq]
  refine (List.insertionSort_eq_of_perm rankKey h.rankedBefore_iff (fun left hleft right hright heq => ?_)
    (hr.edges.symm.map _)).symm
  obtain ⟨e, -, rfl⟩ := List.mem_map.mp hleft
  obtain ⟨p, -, rfl⟩ := List.mem_map.mp hright
  obtain rfl : e = p := (Prod.mk.inj (toLex.injective heq)).2
  rfl

theorem ranked : Ranked (trustRanking tx (pairwiseMap tx)) := by
  have hids : ((trustRanking tx (pairwiseMap tx)).map (·.edgeID)).Nodup := by
    refine ((List.perm_insertionSort _ _).map _).nodup_iff.mpr ?_
    simpa [Function.comp_def] using h.edges
  have hsorted : (trustRanking tx (pairwiseMap tx)).Pairwise RankedBefore :=
    List.pairwise_insertionSort_of_key rankKey h.rankedBefore_iff
  refine hsorted.imp₂ (fun left right hbefore hne => ?_) (List.pairwise_map.mp hids)
  rw [RankedBefore] at hbefore
  split at hbefore
  · rename_i heq
    exact .inr ⟨heq, lt_of_le_of_ne hbefore hne⟩
  · exact .inl (of_decide_eq_true hbefore)

end DistinctSubmission

/-- The outcome of a round does not depend on the order of submission when the pairs with one key
are at one distance, and its ranking is ordered. -/
theorem orderIndependent_of_keyedAlike (h : DistinctSubmission tx) (hk : KeyedAlike tx) :
    OrderIndependent tx ∧ ∀ height round, evaluateRound tx height = .ok round →
      Ranked round.trustRanking.elems := by
  refine ⟨fun tx' hr height => ?_, fun height round hround => ?_⟩
  · by_cases hc : Comparable tx
    · have hc' := (hr.comparable_iff h.owners).mpr hc
      rw [evaluateRound_eq_ok_iff.mpr ⟨hc, rfl⟩, evaluateRound_eq_ok_iff.mpr ⟨hc', rfl⟩,
        hr.pairwiseMap_eq h.owners hk]
      exact congrArg some (hr.outcome_eq h.owners (h.trustRanking_eq hr) height)
    · have hc' := mt (hr.comparable_iff h.owners).mp hc
      rw [toOption_evaluateRound_eq_none hc, toOption_evaluateRound_eq_none hc']
  · obtain ⟨-, rfl⟩ := evaluateRound_eq_ok_iff.mp hround
    exact h.ranked

theorem finiteReadings_fullState {temperature pressure rpm : Float} (ht : temperature.isFinite)
    (hp : pressure.isFinite) (hr : rpm.isFinite) :
    ∀ sensorName sensor, (fullState e temperature pressure rpm).sensorValues.lookup sensorName =
      some sensor → sensor.value.isFinite := by
  intro sensorName sensor hs
  simp only [fullState, GoMap.lookup, Option.bind_some, Finmap.dlookup_list_toFinmap] at hs
  have hmem := List.of_mem_dlookup hs
  simp only [List.mem_cons, List.not_mem_nil, or_false, Sigma.mk.injEq] at hmem
  rcases hmem with ⟨-, h⟩ | ⟨-, h⟩ | ⟨-, h⟩
  · exact eq_of_heq h ▸ ht
  · exact eq_of_heq h ▸ hp
  · exact eq_of_heq h ▸ hr

/-- Two edges that differ a little. -/
def pairTx : RoundInputTx Float :=
  sampleTx ["edge-2", "edge-1"] [fullState "edge-1" 70 5 1200, fullState "edge-2" 71 5 1210]

theorem pairTx_orderIndependent : OrderIndependent pairTx ∧ ∀ height round,
    evaluateRound pairTx height = .ok round → Ranked round.trustRanking.elems := by
  refine orderIndependent_of_keyedAlike ⟨by decide +kernel, by decide +kernel, by decide +kernel,
    by decide +kernel, ?_⟩ (keyedAlike_of_arrowFree (by unfold ArrowFree; decide +kernel))
  simp only [FiniteReadings, pairTx, sampleTx, Slice.elems_some, List.forall_mem_cons]
  exact ⟨finiteReadings_fullState (by decide +kernel) (by decide +kernel) (by decide +kernel),
    finiteReadings_fullState (by decide +kernel) (by decide +kernel) (by decide +kernel), by simp⟩

/-- The pairs `plant`, `line->cell` and `plant->line`, `cell` have one key and different
distances. -/
def arrowTx (edges : List String) : RoundInputTx Float :=
  sampleTx edges
    [fullState "plant" 70 5 1200, fullState "line->cell" 70 5 1200,
      fullState "plant->line" 400 5 1200, fullState "cell" 70 5 1200]

theorem arrowTx_not_orderIndependent :
    DistinctSubmission (arrowTx ["plant", "line->cell", "plant->line", "cell"]) ∧
      ¬ OrderIndependent (arrowTx ["plant", "line->cell", "plant->line", "cell"]) := by
  constructor
  · refine ⟨by decide +kernel, by decide +kernel, by decide +kernel, by decide +kernel, ?_⟩
    simp only [FiniteReadings, arrowTx, sampleTx, Slice.elems_some, List.forall_mem_cons]
    refine ⟨?_, ?_, ?_, ?_, by simp⟩ <;>
      exact finiteReadings_fullState (by decide +kernel) (by decide +kernel) (by decide +kernel)
  · intro h
    have hreordered : Reordered (arrowTx ["plant", "line->cell", "plant->line", "cell"])
        (arrowTx ["plant->line", "cell", "plant", "line->cell"]) :=
      ⟨by decide +kernel, .refl _⟩
    have heq := h _ hreordered 1
    rw [evaluateRound_eq_ok_iff.mpr ⟨by decide +kernel, rfl⟩,
      evaluateRound_eq_ok_iff.mpr ⟨by decide +kernel, rfl⟩] at heq
    have hstatus := congrArg (Option.map RoundOutcome.finalStatus) heq
    simp only [Except.toOption, Option.map_some, CommittedRound.outcome, Option.some.injEq]
      at hstatus
    revert hstatus
    decide +kernel

end Scores

end TruthFingerprint.Abci
