import Mathlib
import TruthFingerprint.Abci.ApplicationLemmas

/-!
# Blocks that can be hashed

A block fails as a whole when one of the rounds that it would commit has a number that JSON cannot
write. The deviation of an edge without a peer is `0/0`, so that happens when one edge participates
alone, and it happens when a distance or an average of the readings overflows
(`finite_roundOf_iff`). Such a round is acknowledged all the same, so a block is handled
transaction by transaction exactly when it has none and replaces those that are stored
(`blockHandled_iff`).
-/

namespace TruthFingerprint.Abci

variable {codec : Codec} {app : ConsensusApplication} {tx : RoundInputTx Float}

/-! ## Finite rounds -/

/-- Every edge has a different one to be compared with. -/
def Peered (tx : RoundInputTx F) : Prop :=
  tx.participatingEdges.elems = [] ∨
    ∃ e ∈ tx.participatingEdges.elems, ∃ p ∈ tx.participatingEdges.elems, e ≠ p

instance (tx : RoundInputTx F) : Decidable (Peered tx) :=
  inferInstanceAs (Decidable (_ ∨ ∃ e ∈ _, ∃ p ∈ _, e ≠ p))

/-- The mean distance of an edge to its peers, to three decimals. -/
def meanDistance (tx : RoundInputTx Float) (edgeID : String) : Float :=
  let peers := peerIDs tx.participatingEdges.elems edgeID
  round (total (peers.map (keyedDistance tx edgeID)) / FloatArith.ofNat peers.length)

/-- The average of a sensor over the edges that are kept, to three decimals. -/
def keptAverage (tx : RoundInputTx Float) (sensorName : String) : Float :=
  let kept := (tx.participatingEdges.elems.filter (Kept tx ·)).insertionSort (· ≤ ·)
  round (total (kept.map fun edgeID => ((stateOf tx edgeID).sensor sensorName).value) /
    FloatArith.ofNat kept.length)

/-- The readings, and the distances and averages taken of them, are in the range of binary64. -/
structure InRange (tx : RoundInputTx Float) : Prop where
  readings : ∀ state ∈ tx.replicatedStates.elems, ∀ sensorName sensor,
    state.sensorValues.lookup sensorName = some sensor → sensor.value.isFinite
  distances : ∀ e ∈ tx.participatingEdges.elems, ∀ p ∈ peerIDs tx.participatingEdges.elems e,
    ∀ sensorName ∈ (stateOf tx e).sensorValues.sortedKeys,
      (round (sensorDistance tx e sensorName p)).isFinite
  deviations : ∀ e ∈ tx.participatingEdges.elems,
    ∀ sensorName ∈ (stateOf tx e).sensorValues.sortedKeys,
      (sensorDeviation tx e sensorName).deviationValue.isFinite
  means : ∀ e ∈ tx.participatingEdges.elems,
    (meanDistance tx e).isFinite ∧ (round (1.0 / (1.0 + meanDistance tx e))).isFinite
  averages : quorum tx ≤ (tx.participatingEdges.elems.filter (Kept tx ·)).length →
    ∀ sensorName ∈ (sensorScales (F := Float)).sortedKeys, (keptAverage tx sensorName).isFinite

theorem overallDeviation_eq_meanDistance (he : e ∈ tx.participatingEdges.elems) :
    overallDeviation tx (pairwiseMap tx) e = meanDistance tx e := overallDeviation_pairwiseMap he

/-- The mean over no peer is not a number. -/
theorem meanDistance_of_no_peer (h : peerIDs tx.participatingEdges.elems e = []) :
    (meanDistance tx e).isFinite = false := by
  have hnan : (round (0.0 / FloatArith.ofNat 0 : Float)).isFinite = false := by decide +kernel
  simpa [meanDistance, h, total] using hnan

theorem peered_of_means (h : ∀ e ∈ tx.participatingEdges.elems, (meanDistance tx e).isFinite) :
    Peered tx := by
  by_cases hnil : tx.participatingEdges.elems = []
  · exact .inl hnil
  · obtain ⟨e, he⟩ := List.exists_mem_of_ne_nil _ hnil
    obtain ⟨p, hp⟩ : ∃ p, p ∈ peerIDs tx.participatingEdges.elems e := by
      refine List.exists_mem_of_ne_nil _ fun hnone => ?_
      have hfinite := h e he
      rw [meanDistance_of_no_peer hnone] at hfinite
      cases hfinite
    obtain ⟨-, hp, hne⟩ := List.mem_orderedPairs.mp (mem_orderedPairs_of_mem_peerIDs he hp)
    exact .inr ⟨e, he, p, hp, hne⟩

theorem finite_iff {round : CommittedRound Float} : round.Finite ↔
    (∀ state ∈ round.replicatedStates.elems, ∀ sensorName sensor,
      state.sensorValues.lookup sensorName = some sensor → sensor.value.isFinite) ∧
    (∀ entry ∈ round.trustRanking.elems, entry.score.isFinite) ∧
    (∀ evidence ∈ round.trustEvidence.elems, evidence.score.isFinite ∧
      evidence.overallNormalizedDeviation.isFinite ∧
      (∀ d ∈ evidence.sensorDeviations.elems, d.deviationValue.isFinite) ∧
      ∀ d ∈ evidence.pairwiseDistances.elems, d.distanceValue.isFinite) ∧
    ∀ state, round.consensusedValidState = some state → ∀ sensorName value,
      state.sensorValues.lookup sensorName = some value → value.isFinite := by
  simp only [CommittedRound.Finite, mem_numbers_round]
  constructor
  · intro h
    refine ⟨fun state hstate name sensor hs => h _ (.inl ⟨state, hstate, name, sensor, hs, rfl⟩),
      fun entry hentry => h _ (.inr (.inl ⟨entry, hentry, rfl⟩)), fun evidence he => ⟨?_, ?_, ?_, ?_⟩,
      fun state hstate name value hv => h _ (.inr (.inr (.inr ⟨state, hstate, name, hv⟩)))⟩
    · exact h _ (.inr (.inr (.inl ⟨evidence, he, .inl rfl⟩)))
    · exact h _ (.inr (.inr (.inl ⟨evidence, he, .inr (.inl rfl)⟩)))
    · exact fun d hd => h _ (.inr (.inr (.inl ⟨evidence, he, .inr (.inr (.inl ⟨d, hd, rfl⟩))⟩)))
    · exact fun d hd => h _ (.inr (.inr (.inl ⟨evidence, he, .inr (.inr (.inr ⟨d, hd, rfl⟩))⟩)))
  · rintro ⟨hstates, hranking, hevidence, hvalid⟩ x
      (⟨state, hstate, name, sensor, hs, rfl⟩ | ⟨entry, hentry, rfl⟩ | ⟨evidence, he, hx⟩ |
        ⟨state, hstate, name, hv⟩)
    · exact hstates state hstate name sensor hs
    · exact hranking entry hentry
    · obtain ⟨h1, h2, h3, h4⟩ := hevidence evidence he
      rcases hx with rfl | rfl | ⟨d, hd, rfl⟩ | ⟨d, hd, rfl⟩
      exacts [h1, h2, h3 d hd, h4 d hd]
    · exact hvalid state hstate name x hv

/-- What the evidence on an edge needs to be finite. -/
theorem finite_trustEvidence_iff (he : e ∈ tx.participatingEdges.elems) :
    ((trustEvidence tx (pairwiseMap tx) e).score.isFinite ∧
      (trustEvidence tx (pairwiseMap tx) e).overallNormalizedDeviation.isFinite ∧
      (∀ d ∈ (trustEvidence tx (pairwiseMap tx) e).sensorDeviations.elems,
        d.deviationValue.isFinite) ∧
      ∀ d ∈ (trustEvidence tx (pairwiseMap tx) e).pairwiseDistances.elems,
        d.distanceValue.isFinite) ↔
    (round (1.0 / (1.0 + meanDistance tx e))).isFinite ∧ (meanDistance tx e).isFinite ∧
      (∀ sensorName ∈ (stateOf tx e).sensorValues.sortedKeys,
        (sensorDeviation tx e sensorName).deviationValue.isFinite) ∧
      ∀ sensorName ∈ (stateOf tx e).sensorValues.sortedKeys,
        ∀ p ∈ peerIDs tx.participatingEdges.elems e,
          (round (sensorDistance tx e sensorName p)).isFinite := by
  simp only [trustEvidence, score, overallDeviation_eq_meanDistance he, sensorDeviations,
    peerDistances, Slice.elems_some, List.forall_mem_map, List.forall_mem_flatMap]

/-- What the valid state of a round needs to be finite. -/
theorem finite_validState_iff : (∀ state, (roundOf tx height).consensusedValidState = some state →
      ∀ sensorName value, state.sensorValues.lookup sensorName = some value → value.isFinite) ↔
    (quorum tx ≤ (tx.participatingEdges.elems.filter (Kept tx ·)).length →
      ∀ sensorName ∈ (sensorScales (F := Float)).sortedKeys,
        (keptAverage tx sensorName).isFinite) := by
  simp only [roundOf, consensusedValidState_eq_some_iff, validEdges_pairwiseMap,
    List.length_insertionSort, and_imp]
  constructor
  · intro h hquorum sensorName hs
    refine h _ hquorum rfl sensorName _ ?_
    simp only [buildValidState, GoMap.lookup, Option.bind_some, Finmap.lookup_insertAll_id, if_pos hs]
    rfl
  · rintro h state hquorum rfl sensorName value hvalue
    simp only [buildValidState, GoMap.lookup, Option.bind_some, Finmap.lookup_insertAll_id,
      Option.ite_none_right_eq_some, Option.some.injEq] at hvalue
    obtain ⟨hs, rfl⟩ := hvalue
    exact h hquorum sensorName hs

/-- A round is finite exactly when every edge has a peer and all its numbers are in range. -/
theorem finite_roundOf_iff : (roundOf tx height).Finite ↔ Peered tx ∧ InRange tx := by
  have hrange : (roundOf tx height).Finite ↔ InRange tx := by
    rw [finite_iff, finite_validState_iff]
    simp only [roundOf, committedRound, trustRanking, Slice.elems_some, Slice.elems_appendToNil,
      List.mem_insertionSort, List.forall_mem_map]
    constructor
    · rintro ⟨hreadings, -, hevidence, haverages⟩
      have hevidence := fun e he => (finite_trustEvidence_iff he).mp (hevidence e he)
      exact ⟨hreadings, fun e he p hp s hs => (hevidence e he).2.2.2 s hs p hp,
        fun e he => (hevidence e he).2.2.1, fun e he => ⟨(hevidence e he).2.1, (hevidence e he).1⟩,
        haverages⟩
    · rintro ⟨hreadings, hdistances, hdeviations, hmeans, haverages⟩
      refine ⟨hreadings, fun e he => ?_, fun e he => (finite_trustEvidence_iff he).mpr ?_, haverages⟩
      · simp only [score, overallDeviation_eq_meanDistance he]
        exact (hmeans e he).2
      · exact ⟨(hmeans e he).2, (hmeans e he).1, hdeviations e he,
          fun s hs p hp => hdistances e he p hp s hs⟩
  rw [hrange]
  exact ⟨fun h => ⟨peered_of_means fun e he => (h.means e he).1, h⟩, And.right⟩

/-! ## Handled blocks -/

/-- A transaction that decodes, whose round evaluates, and whose round can be encoded. -/
def Processable (codec : Codec) (height : Int) (rawTx : Bytes) : Prop :=
  ∃ tx round raw, codec.unmarshalTx rawTx = .ok tx ∧ evaluateRound tx height = .ok round ∧
    codec.marshalRound round = .ok raw

/-- The block succeeds with one result for each transaction, and a transaction that cannot be
processed is refused and stages nothing. -/
def BlockHandled (codec : Codec) (app : ConsensusApplication) (req : FinalizeBlockRequest) : Prop :=
  ∃ resp, (finalizeBlock codec app req).2 = .ok resp ∧
    resp.txResults.length = req.txs.length ∧
      ∀ (i : Nat) rawTx result, req.txs[i]? = some rawTx → resp.txResults[i]? = some result →
        ¬ Processable codec req.height rawTx → result.code ≠ 0 ∧
          pendingAfter codec req.height (req.txs.take (i + 1)) =
            pendingAfter codec req.height (req.txs.take i)

theorem processable_iff : Processable codec height rawTx ↔
    ∃ tx round, processTx codec height rawTx = .ok (tx, round) ∧ round.Finite := by
  constructor
  · rintro ⟨tx, round, raw, htx, hround, hraw⟩
    exact ⟨tx, round, processTx_eq_ok_iff.mpr ⟨htx, hround⟩, marshalRound_eq_ok_iff.mp ⟨raw, hraw⟩⟩
  · rintro ⟨tx, round, hprocess, hfinite⟩
    obtain ⟨htx, hround⟩ := processTx_eq_ok_iff.mp hprocess
    obtain ⟨raw, hraw⟩ : ∃ raw, codec.marshalRound round = .ok raw :=
      marshalRound_eq_ok_iff.mpr hfinite
    exact ⟨tx, round, raw, htx, hround, hraw⟩

/-- A transaction that is not acknowledged is refused and stages nothing. -/
theorem refused_of_processTx_error (herr : processTx codec height rawTx = .error err)
    {rawTxs : List Bytes} (hi : rawTxs[i]? = some rawTx) :
    (txResult codec height rawTx).code ≠ 0 ∧
      pendingAfter codec height (rawTxs.take (i + 1)) =
        pendingAfter codec height (rawTxs.take i) := by
  rw [pendingAfter_take_succ hi]
  simp [txResult, deliverTx, herr]

/-- A block that refuses every transaction that it cannot process acknowledges finite rounds. -/
theorem finite_of_blockHandled (h : BlockHandled codec app req) :
    ∀ w ∈ acknowledged codec req.height req.txs, w.2.Finite := by
  rintro ⟨roundID, round⟩ hw
  obtain ⟨resp, hfinal, -, hrefused⟩ := h
  obtain ⟨rawTx, hraw, tx, hprocess, rfl⟩ := mem_acknowledged.mp hw
  obtain ⟨i, hi⟩ := List.mem_iff_getElem?.mp hraw
  by_contra hinfinite
  have hresult : resp.txResults[i]? = some (txResult codec req.height rawTx) := by
    simp [(finalizeBlock_eq_ok_iff.mp hfinal).2, hi]
  refine (hrefused i rawTx _ hi hresult fun hprocessable => ?_).1
    (txResult_code.mpr ⟨tx, round, hprocess⟩)
  obtain ⟨tx', round', hprocess', hfinite⟩ := processable_iff.mp hprocessable
  obtain ⟨rfl, rfl⟩ := Prod.mk.inj (Except.ok.inj (hprocess.symm.trans hprocess'))
  exact hinfinite hfinite

/-- A block is handled exactly when every round that it acknowledges is finite and every stored
round is, unless the block replaces it. -/
theorem blockHandled_iff_finite : BlockHandled codec app req ↔
    (∀ w ∈ acknowledged codec req.height req.txs, w.2.Finite) ∧
      ∀ roundID round, app.state.rounds.lookup roundID = some round → ¬ round.Finite →
        ∃ w ∈ acknowledged codec req.height req.txs, w.1 = roundID := by
  constructor
  · intro h
    refine ⟨finite_of_blockHandled h, fun roundID round hround hinfinite => ?_⟩
    obtain ⟨resp, hfinal, -⟩ := h
    cases hw : StagedStore.lastWrite (acknowledged codec req.height req.txs) roundID with
    | none =>
      refine absurd (finalizeBlock_isOk_iff.mp ⟨resp, hfinal⟩ roundID round ?_) hinfinite
      rw [hw, Option.none_or, hround]
    | some round' => exact ⟨_, StagedStore.exists_of_lastWrite hw, rfl⟩
  · rintro ⟨hfinite, hstored⟩
    obtain ⟨resp, hfinal⟩ : ∃ resp, (finalizeBlock codec app req).2 = .ok resp := by
      refine finalizeBlock_isOk_iff.mpr fun roundID round h => ?_
      rcases Option.or_eq_some_iff.mp h with hw | ⟨hnone, hround⟩
      · exact hfinite _ (StagedStore.exists_of_lastWrite hw)
      · by_contra hinfinite
        obtain ⟨w, hw, rfl⟩ := hstored roundID round hround hinfinite
        obtain ⟨round', hround'⟩ := StagedStore.lastWrite_isSome hw
        simp [hround'] at hnone
    have hresults := (finalizeBlock_eq_ok_iff.mp hfinal).2
    refine ⟨resp, hfinal, by simp [hresults], fun i rawTx result hi hresult hnot => ?_⟩
    obtain rfl : txResult codec req.height rawTx = result := by
      simpa [hresults, hi] using hresult
    cases hprocess : processTx codec req.height rawTx with
    | error err => exact refused_of_processTx_error hprocess hi
    | ok processed =>
      refine absurd (processable_iff.mpr ⟨processed.1, processed.2, hprocess, ?_⟩) hnot
      exact hfinite _ (mem_acknowledged.mpr
        ⟨rawTx, List.mem_of_getElem? hi, processed.1, hprocess, rfl⟩)

/-- One edge that participates alone. -/
def loneTx : RoundInputTx Float := sampleTx ["edge-1"] [fullState "edge-1" 70 5 1200]

end TruthFingerprint.Abci
