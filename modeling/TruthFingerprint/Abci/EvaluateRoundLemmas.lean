import Mathlib
import TruthFingerprint.Abci.EvaluateRound

/-!
# What a round evaluates to

`evaluateRound` succeeds when every state that it compares is complete
(`evaluateRound_eq_ok_iff`). The round is then determined by the distances it finds in the
pairwise map. What it finds for a pair is the distance of the last pair with the same key
(`pairwiseAt_pairwiseMap`), which is the pair itself when the identifiers have no arrow
(`keyedPair_eq_of_arrowFree`). An edge is kept when the keyed distances make it part of a quorum
(`mem_validEdges`), and the round succeeds when a quorum of the entries is kept.
-/

namespace TruthFingerprint.Abci

variable {F : Type}

/-! ## Distance of two states -/

section Distance

variable [GoArith F]

theorem sortedKeys_sensorScales :
    (sensorScales (F := F)).sortedKeys = ["pressure", "rpm", "temperature"] := by
  have hkeys : (sensorScales (F := F)).sortedKeys =
      ["temperature", "pressure", "rpm"].insertionSort (· ≤ ·) := by
    simp [sensorScales, Finmap.sortedKeys, List.toFinmap, Finmap.liftOn, AList.toFinmap,
      List.toAList, AList.keys, List.keys, List.dedupKeys, List.kinsert, List.kerase]
  rw [hkeys]
  decide +kernel

/-- A state with a reading of every sensor that rounds compare. -/
def ReplicatedState.Complete (state : ReplicatedState F) : Prop :=
  ∀ sensorName ∈ (sensorScales (F := F)).sortedKeys, (state.sensorValues.lookup sensorName).isSome

instance (state : ReplicatedState F) : Decidable state.Complete :=
  inferInstanceAs (Decidable (∀ sensorName ∈ _, _))

/-- The normalized distance of two complete states. -/
def stateDistance (left right : ReplicatedState F) : F :=
  (0.0 + FloatArith.abs ((left.sensor "pressure").value - (right.sensor "pressure").value) / 3.0 +
    FloatArith.abs ((left.sensor "rpm").value - (right.sensor "rpm").value) / 600.0 +
    FloatArith.abs ((left.sensor "temperature").value - (right.sensor "temperature").value) /
      20.0) / (0.0 + 1.0 + 1.0 + 1.0)

theorem ReplicatedState.requireSensor_of_isSome {state : ReplicatedState F}
    (h : (state.sensorValues.lookup sensorName).isSome) :
    state.requireSensor sensorName = .ok (state.sensor sensorName) := by
  obtain ⟨sensor, hs⟩ := Option.isSome_iff_exists.mp h
  simp [ReplicatedState.requireSensor, ReplicatedState.sensor, hs]

omit [GoArith F] in
theorem ReplicatedState.requireSensor_error {state : ReplicatedState F}
    (h : state.requireSensor sensorName = .error e) :
    state.sensorValues.lookup sensorName = none ∧ e = missingSensor sensorName state := by
  rw [ReplicatedState.requireSensor] at h
  split at h
  · cases h
  · rename_i hs
    exact ⟨hs, (Except.error.inj h).symm⟩

theorem normalizedPairDistance_eq_ok {left right : ReplicatedState F} (hl : left.Complete)
    (hr : right.Complete) : normalizedPairDistance left right = .ok (stateDistance left right) := by
  simp only [ReplicatedState.Complete, sortedKeys_sensorScales, List.forall_mem_cons] at hl hr
  simp only [normalizedPairDistance, sortedKeys_sensorScales, List.foldlM_cons, List.foldlM_nil,
    addSensorDistance, ReplicatedState.requireSensor_of_isSome hl.1,
    ReplicatedState.requireSensor_of_isSome hl.2.1,
    ReplicatedState.requireSensor_of_isSome hl.2.2.1,
    ReplicatedState.requireSensor_of_isSome hr.1, ReplicatedState.requireSensor_of_isSome hr.2.1,
    ReplicatedState.requireSensor_of_isSome hr.2.2.1]
  rfl

/-- One step fails only on a sensor that one of the states misses, and the error says which. -/
theorem addSensorDistance_error {left right : ReplicatedState F}
    (h : addSensorDistance left right acc sensorName = .error e) :
    ∃ state ∈ [left, right], state.sensorValues.lookup sensorName = none ∧
      e = missingSensor sensorName state := by
  cases hl : left.requireSensor sensorName with
  | error e' =>
    obtain rfl : e' = e := by simpa [addSensorDistance, hl, bind, Except.bind] using h
    exact ⟨left, by simp, ReplicatedState.requireSensor_error hl⟩
  | ok leftSensor =>
    cases hr : right.requireSensor sensorName with
    | error e' =>
      obtain rfl : e' = e := by simpa [addSensorDistance, hl, hr, bind, Except.bind] using h
      exact ⟨right, by simp, ReplicatedState.requireSensor_error hr⟩
    | ok rightSensor =>
      simp [addSensorDistance, hl, hr, bind, Except.bind, pure, Except.pure] at h

/-- The distance of two states exists only when both are complete. -/
theorem complete_of_normalizedPairDistance {left right : ReplicatedState F}
    (h : normalizedPairDistance left right = .ok d) : left.Complete ∧ right.Complete := by
  have hstep : ∀ {acc acc' sensorName}, addSensorDistance left right acc sensorName = .ok acc' →
      (left.sensorValues.lookup sensorName).isSome ∧
        (right.sensorValues.lookup sensorName).isSome := fun {acc acc' sensorName} h => by
    simp only [addSensorDistance, ReplicatedState.requireSensor] at h
    cases hl : left.sensorValues.lookup sensorName <;>
      cases hr : right.sensorValues.lookup sensorName <;>
        simp [hl, hr, bind, Except.bind] at h ⊢
  have hfold : ∀ (names : List String) (acc acc' : F × F),
      names.foldlM (addSensorDistance left right) acc = .ok acc' →
        ∀ sensorName ∈ names, (left.sensorValues.lookup sensorName).isSome ∧
          (right.sensorValues.lookup sensorName).isSome := fun names => by
    induction names with
    | nil => simp
    | cons name names ih =>
      intro acc acc' h
      cases hname : addSensorDistance left right acc name with
      | error e => simp [List.foldlM_cons, hname, bind, Except.bind] at h
      | ok acc₁ =>
        simp only [List.foldlM_cons, hname, bind, Except.bind] at h
        exact List.forall_mem_cons.mpr ⟨hstep hname, ih _ _ h⟩
  cases hf : (sensorScales (F := F)).sortedKeys.foldlM (addSensorDistance left right)
      (0.0, 0.0) with
  | error e => simp [normalizedPairDistance, hf, bind, Except.bind] at h
  | ok acc =>
    have := hfold _ _ _ hf
    exact ⟨fun n hn => (this n hn).1, fun n hn => (this n hn).2⟩

end Distance

/-! ## The map of pairwise distances -/

/-- The last pair of different edges with the key of `pair`. -/
def keyedPair (edges : List String) (pair : String × String) : String × String :=
  (edges.orderedPairs.reverse.find? (pairKey · = pairKey pair)).getD pair

section Pairwise

variable [GoArith F] {tx tx' : RoundInputTx F} {round round' : CommittedRound F}

/-- Every state that the round compares is complete. -/
def Comparable (tx : RoundInputTx F) : Prop :=
  ∀ pair ∈ tx.participatingEdges.elems.orderedPairs,
    (stateOf tx pair.1).Complete ∧ (stateOf tx pair.2).Complete

instance (tx : RoundInputTx F) : Decidable (Comparable tx) :=
  inferInstanceAs (Decidable (∀ pair ∈ _, _))

/-- A round with a pair to compare needs the states of all its edges. -/
theorem comparable_iff (hne : ∃ e ∈ tx.participatingEdges.elems,
    ∃ p ∈ tx.participatingEdges.elems, e ≠ p) :
    Comparable tx ↔ ∀ e ∈ tx.participatingEdges.elems, (stateOf tx e).Complete := by
  obtain ⟨e₁, he₁, e₂, he₂, hne⟩ := hne
  constructor
  · intro h e he
    by_cases heq : e = e₁
    · subst heq
      exact (h (e, e₂) (List.mem_orderedPairs.mpr ⟨he, he₂, hne⟩)).1
    · exact (h (e, e₁) (List.mem_orderedPairs.mpr ⟨he, he₁, heq⟩)).1
  · intro h pair hp
    obtain ⟨h1, h2, -⟩ := List.mem_orderedPairs.mp hp
    exact ⟨h _ h1, h _ h2⟩

def distance (tx : RoundInputTx F) (edgeID peerID : String) : F :=
  stateDistance (stateOf tx edgeID) (stateOf tx peerID)

/-- The map that the nested loops fill when no sensor is missing. -/
def pairwiseMap (tx : RoundInputTx F) : Finmap fun _ : String => F :=
  Finmap.insertAll pairKey (fun pair => distance tx pair.1 pair.2)
    tx.participatingEdges.elems.orderedPairs ∅

theorem pairwiseDistances_eq_ok (h : Comparable tx) :
    pairwiseDistances tx = .ok (pairwiseMap tx) :=
  Finmap.insertAllM_eq_ok (fun pair hp => normalizedPairDistance_eq_ok (h pair hp).1 (h pair hp).2) ∅

theorem evaluateRound_eq_ok_iff : evaluateRound tx height = .ok r ↔
    Comparable tx ∧ r = committedRound tx (pairwiseMap tx) height := by
  constructor
  · intro h
    cases hp : pairwiseDistances tx with
    | error e => simp [evaluateRound, hp, bind, Except.bind] at h
    | ok pairwise =>
      have hc : Comparable tx := fun pair hpair => by
        obtain ⟨d, hd⟩ := Finmap.insertAllM_isOk hp pair hpair
        exact complete_of_normalizedPairDistance hd
      rw [pairwiseDistances_eq_ok hc] at hp
      obtain rfl := Except.ok.inj hp
      simp only [evaluateRound, pairwiseDistances_eq_ok hc, bind, Except.bind, pure,
        Except.pure] at h
      exact ⟨hc, (Except.ok.inj h).symm⟩
  · rintro ⟨hc, rfl⟩
    simp [evaluateRound, pairwiseDistances_eq_ok hc, bind, Except.bind, pure, Except.pure]

/-- A transaction with its empty lists read as nil: all that a round depends on. -/
def RoundInputTx.data (tx : RoundInputTx F) : RoundInputTx F :=
  { tx with
    participatingEdges := tx.participatingEdges.appendToNil
    replicatedStates := tx.replicatedStates.appendToNil }

theorem evaluateRound_data (tx : RoundInputTx F) (height : Int) :
    evaluateRound tx.data height = evaluateRound tx height := by
  obtain ⟨roundID, startedAt, endedAt, edges, states⟩ := tx
  rcases edges with _ | _ | ⟨e, edges⟩ <;> rcases states with _ | _ | ⟨s, states⟩ <;> rfl

/-- A round has the data of its transaction. -/
theorem data_eq_iff (h : evaluateRound tx height = .ok round)
    (h' : evaluateRound tx' height = .ok round') : tx.data = tx'.data ↔ round = round' := by
  constructor
  · intro heq
    rw [← evaluateRound_data, heq, evaluateRound_data, h'] at h
    exact (Except.ok.inj h).symm
  · rintro rfl
    obtain ⟨-, rfl⟩ := evaluateRound_eq_ok_iff.mp h
    obtain ⟨-, heq⟩ := evaluateRound_eq_ok_iff.mp h'
    simp only [committedRound, CommittedRound.mk.injEq] at heq
    obtain ⟨h1, h2, h3, h4, h5, -⟩ := heq
    simp only [RoundInputTx.data, RoundInputTx.mk.injEq]
    exact ⟨h1, h2, h3, h4, h5⟩

/-- The distance that the round uses for a pair. -/
def keyedDistance (tx : RoundInputTx F) (edgeID peerID : String) : F :=
  let pair := keyedPair tx.participatingEdges.elems (edgeID, peerID)
  distance tx pair.1 pair.2

theorem pairwiseAt_pairwiseMap (h : (e, p) ∈ tx.participatingEdges.elems.orderedPairs) :
    pairwiseAt (pairwiseMap tx) e p = keyedDistance tx e p := by
  have hsome : (tx.participatingEdges.elems.orderedPairs.reverse.find?
      (pairKey · = pairKey (e, p))).isSome :=
    List.find?_isSome.mpr ⟨_, List.mem_reverse.mpr h, by simp⟩
  obtain ⟨pair, hpair⟩ := Option.isSome_iff_exists.mp hsome
  simp [pairwiseAt, pairwiseMap, Finmap.lookup_insertAll, keyedDistance, keyedPair, hpair]

end Pairwise

/-! ## Kept edges -/

section Kept

variable [GoArith F] {tx : RoundInputTx F}

/-- The other entries that an edge agrees with, by the distances that the round uses. -/
def keyedSupport (tx : RoundInputTx F) (edgeID : String) : Nat :=
  (tx.participatingEdges.elems.filter (· ≠ edgeID)).countP fun peerID =>
    FloatArith.le (keyedDistance tx edgeID peerID) pairwiseConsistencyThreshold

/-- An edge that the round does not exclude. -/
def Kept (tx : RoundInputTx F) (edgeID : String) : Prop := quorum tx ≤ keyedSupport tx edgeID + 1

instance : DecidablePred (Kept tx) := fun edgeID =>
  inferInstanceAs (Decidable (quorum tx ≤ keyedSupport tx edgeID + 1))

theorem peerIDs_perm (edges : List String) (edgeID : String) :
    (peerIDs edges edgeID).Perm (edges.filter (· ≠ edgeID)) := List.perm_insertionSort _ _

theorem mem_orderedPairs_of_mem_peerIDs (he : e ∈ edges) (hp : p ∈ peerIDs edges e) :
    (e, p) ∈ edges.orderedPairs := by
  have h := (peerIDs_perm edges e).subset hp
  simp only [List.mem_filter, decide_eq_true_eq] at h
  exact List.mem_orderedPairs.mpr ⟨he, h.1, Ne.symm h.2⟩

theorem compatiblePeers_pairwiseMap (he : e ∈ tx.participatingEdges.elems) :
    compatiblePeers tx (pairwiseMap tx) e = keyedSupport tx e := by
  rw [compatiblePeers, keyedSupport, ← (peerIDs_perm _ e).countP_eq]
  refine List.countP_congr fun p hp => ?_
  rw [pairwiseAt_pairwiseMap (mem_orderedPairs_of_mem_peerIDs he hp)]

theorem overallDeviation_pairwiseMap (he : e ∈ tx.participatingEdges.elems) :
    overallDeviation tx (pairwiseMap tx) e =
      round (total ((peerIDs tx.participatingEdges.elems e).map (keyedDistance tx e)) /
        FloatArith.ofNat (peerIDs tx.participatingEdges.elems e).length) := by
  have hmap : (peerIDs tx.participatingEdges.elems e).map (pairwiseAt (pairwiseMap tx) e) =
      (peerIDs tx.participatingEdges.elems e).map (keyedDistance tx e) :=
    List.map_congr_left fun p hp =>
      pairwiseAt_pairwiseMap (mem_orderedPairs_of_mem_peerIDs he hp)
  rw [overallDeviation, hmap]

theorem exclusion_eq_some_iff (he : e ∈ tx.participatingEdges.elems) :
    exclusion tx (pairwiseMap tx) e = some d ↔ ¬ Kept tx e ∧
      d = { edgeID := e, reason := exclusionReason tx (pairwiseMap tx) e,
            detail := ", ".intercalate (exclusionDetails tx (pairwiseMap tx) e) } := by
  rw [exclusion, compatiblePeers_pairwiseMap he, Kept, not_le]
  split
  · rename_i h
    simp [h, eq_comm]
  · rename_i h
    simp [h]

/-- The decisions of a round are those on the entries that are not kept. -/
theorem mem_exclusions : d ∈ exclusions tx (pairwiseMap tx) ↔
    ∃ e ∈ tx.participatingEdges.elems, ¬ Kept tx e ∧
      d = { edgeID := e, reason := exclusionReason tx (pairwiseMap tx) e,
            detail := ", ".intercalate (exclusionDetails tx (pairwiseMap tx) e) } := by
  rw [exclusions, List.mem_insertionSort, List.mem_filterMap]
  exact exists_congr fun e => and_congr_right fun he => exclusion_eq_some_iff he

theorem mem_map_exclusions : e ∈ (exclusions tx (pairwiseMap tx)).map (·.edgeID) ↔
    e ∈ tx.participatingEdges.elems ∧ ¬ Kept tx e := by
  rw [List.mem_map]
  constructor
  · rintro ⟨d, hd, rfl⟩
    obtain ⟨e, he, hk, rfl⟩ := mem_exclusions.mp hd
    exact ⟨he, hk⟩
  · rintro ⟨he, hk⟩
    exact ⟨_, mem_exclusions.mpr ⟨e, he, hk, rfl⟩, rfl⟩

theorem validEdges_pairwiseMap : validEdges tx (pairwiseMap tx) =
    (tx.participatingEdges.elems.filter (Kept tx ·)).insertionSort (· ≤ ·) := by
  refine congrArg (List.insertionSort (· ≤ ·)) (List.filter_congr fun e he => ?_)
  rw [decide_eq_decide, mem_map_exclusions, not_and, not_not]
  exact ⟨fun h => h he, fun h _ => h⟩

theorem validEdges_perm :
    (validEdges tx (pairwiseMap tx)).Perm (tx.participatingEdges.elems.filter (Kept tx ·)) := by
  rw [validEdges_pairwiseMap]
  exact List.perm_insertionSort _ _

theorem mem_validEdges : e ∈ validEdges tx (pairwiseMap tx) ↔
    e ∈ tx.participatingEdges.elems ∧ Kept tx e := by
  rw [validEdges_perm.mem_iff, List.mem_filter, decide_eq_true_eq]

theorem finalStatus_eq_success_iff :
    (committedRound tx (pairwiseMap tx) height).finalStatus = .success ↔
      quorum tx ≤ (validEdges tx (pairwiseMap tx)).length := by
  simp only [committedRound]
  split <;> simp [*]

theorem consensusedValidState_eq_some_iff :
    (committedRound tx (pairwiseMap tx) height).consensusedValidState = some state ↔
      quorum tx ≤ (validEdges tx (pairwiseMap tx)).length ∧
        state = buildValidState tx (validEdges tx (pairwiseMap tx)) := by
  simp only [committedRound]
  split <;> simp [*, eq_comm]

end Kept

/-- The edges that the valid state of a round averages. -/
def CommittedRound.sourceEdges (round : CommittedRound F) : List String :=
  (round.consensusedValidState.map (·.sourceEdges.elems)).getD []

section Kept

variable [GoArith F] {tx : RoundInputTx F}

@[simp] theorem sourceEdges_buildValidState :
    (buildValidState tx edges).sourceEdges.elems = edges := by
  simp [buildValidState]

theorem sourceEdges_of_success
    (h : (committedRound tx (pairwiseMap tx) height).finalStatus = .success) :
    (committedRound tx (pairwiseMap tx) height).sourceEdges = validEdges tx (pairwiseMap tx) := by
  have hstate : (committedRound tx (pairwiseMap tx) height).consensusedValidState =
      some (buildValidState tx (validEdges tx (pairwiseMap tx))) :=
    consensusedValidState_eq_some_iff.mpr ⟨finalStatus_eq_success_iff.mp h, rfl⟩
  simp [CommittedRound.sourceEdges, hstate]

omit [GoArith F] in
/-- The owner of a submitted state has one of the submitted states. -/
theorem stateOf_mem (h : e ∈ tx.replicatedStates.elems.map (·.ownerEdgeID)) :
    stateOf tx e ∈ tx.replicatedStates.elems ∧ (stateOf tx e).ownerEdgeID = e := by
  have hsome : (tx.replicatedStates.elems.reverse.find? (·.ownerEdgeID = e)).isSome := by
    obtain ⟨s, hs, rfl⟩ := List.mem_map.mp h
    exact List.find?_isSome.mpr ⟨s, List.mem_reverse.mpr hs, by simp⟩
  obtain ⟨s, hs⟩ := Option.isSome_iff_exists.mp hsome
  have hstate : stateOf tx e = s := by
    simp [stateOf, stateByEdge, Finmap.lookup_insertAll, hs]
  rw [hstate]
  exact ⟨List.mem_reverse.mp (List.mem_of_find?_eq_some hs), by simpa using List.find?_some hs⟩

end Kept

/-- A state with one reading of every sensor. -/
def fullState (edgeID : String) (temperature pressure rpm : F) : ReplicatedState F where
  ownerEdgeID := edgeID
  sensorValues := some <| List.toFinmap
    [⟨"temperature", ⟨temperature, "degC"⟩⟩, ⟨"pressure", ⟨pressure, "bar"⟩⟩, ⟨"rpm", ⟨rpm, "rpm"⟩⟩]

/-- A round over the given entries and states. -/
def sampleTx (edges : List String) (states : List (ReplicatedState F)) : RoundInputTx F where
  roundID := "round-1"
  windowStartedAt := "2026-01-01T00:00:00+00:00"
  windowEndedAt := "2026-01-01T00:01:00+00:00"
  participatingEdges := some edges
  replicatedStates := some states

/-! ## Keys of pairs -/

/-- No two pairs of different edges have one key. -/
def KeysDistinct (edges : List String) : Prop :=
  ∀ pair ∈ edges.orderedPairs, ∀ pair' ∈ edges.orderedPairs, pairKey pair = pairKey pair' →
    pair = pair'

theorem keyedPair_eq (h : KeysDistinct edges) (hp : pair ∈ edges.orderedPairs) :
    keyedPair edges pair = pair := by
  rw [keyedPair]
  cases hf : edges.orderedPairs.reverse.find? (pairKey · = pairKey pair) with
  | none => rfl
  | some pair' =>
    have hmem := List.mem_reverse.mp (List.mem_of_find?_eq_some hf)
    exact h pair' hmem pair hp (by simpa using List.find?_some hf)

/-- No arrow inside the identifier. -/
def ArrowFree (edgeID : String) : Prop := ¬ "->".toList <:+: edgeID.toList

/-- The first arrow of a key is the one between the two identifiers. -/
theorem append_arrow_inj {a a' b b' : List Char} (ha : ¬ ['-', '>'] <:+: a)
    (ha' : ¬ ['-', '>'] <:+: a') (h : a ++ '-' :: '>' :: b = a' ++ '-' :: '>' :: b') :
    a = a' ∧ b = b' := by
  -- one of the two would continue past the arrow of the other
  have hcont : ∀ {c d d' : List Char}, c ≠ [] → '-' :: '>' :: d = c ++ '-' :: '>' :: d' →
      ['-', '>'] <:+: c := fun {c d d'} hc hd => by
    match c, hc, hd with
    | [x], _, hd => simp at hd
    | x :: y :: c, _, hd =>
      simp only [List.cons_append, List.cons.injEq] at hd
      obtain ⟨rfl, rfl, -⟩ := hd
      exact ⟨[], c, rfl⟩
  rcases List.append_eq_append_iff.mp h with ⟨c, rfl, hc⟩ | ⟨c, rfl, hc⟩
  · by_cases hnil : c = []
    · subst hnil
      simpa using hc
    · exact absurd ((hcont hnil hc).trans (List.suffix_append a c).isInfix) ha'
  · by_cases hnil : c = []
    · subst hnil
      simpa [eq_comm] using hc
    · exact absurd ((hcont hnil hc).trans (List.suffix_append a' c).isInfix) ha

/-- Identifiers without an arrow give every pair of edges a key of its own. -/
theorem keysDistinct_of_arrowFree (h : ∀ edgeID ∈ edges, ArrowFree edgeID) :
    KeysDistinct edges := by
  rintro ⟨e, p⟩ hpair ⟨e', p'⟩ hpair' hkey
  have he := h e (List.mem_orderedPairs.mp hpair).1
  have he' := h e' (List.mem_orderedPairs.mp hpair').1
  have hlist := congrArg String.toList hkey
  simp only [pairKey, String.toList_append] at hlist
  have harrow : "->".toList = ['-', '>'] := by decide
  rw [ArrowFree, harrow] at he he'
  rw [harrow, List.append_assoc, List.append_assoc] at hlist
  obtain ⟨h1, h2⟩ := append_arrow_inj he he' hlist
  rw [String.toList_inj.mp h1, String.toList_inj.mp h2]

/-! ## Support by the true distances -/

section Supported

variable [GoArith F] {tx : RoundInputTx F}

/-- The other entries within the threshold of an edge. -/
def support (tx : RoundInputTx F) (edgeID : String) : Nat :=
  (tx.participatingEdges.elems.filter (· ≠ edgeID)).countP fun peerID =>
    FloatArith.le (distance tx edgeID peerID) pairwiseConsistencyThreshold

/-- An edge that is part of a quorum of entries within its threshold. -/
def Supported (tx : RoundInputTx F) (edgeID : String) : Prop := quorum tx ≤ support tx edgeID + 1

instance : DecidablePred (Supported tx) := fun edgeID =>
  inferInstanceAs (Decidable (quorum tx ≤ support tx edgeID + 1))

/-- Pairs with one key are on one side of the threshold. -/
def KeysFaithful (tx : RoundInputTx F) : Prop :=
  ∀ pair ∈ tx.participatingEdges.elems.orderedPairs,
    FloatArith.le (keyedDistance tx pair.1 pair.2) pairwiseConsistencyThreshold =
      FloatArith.le (distance tx pair.1 pair.2) pairwiseConsistencyThreshold

theorem keyedDistance_eq (h : KeysDistinct tx.participatingEdges.elems)
    (hp : (e, p) ∈ tx.participatingEdges.elems.orderedPairs) :
    keyedDistance tx e p = distance tx e p := by
  rw [keyedDistance, keyedPair_eq h hp]

theorem keysFaithful_of_keysDistinct (h : KeysDistinct tx.participatingEdges.elems) :
    KeysFaithful tx := fun pair hp => by
  rw [keyedDistance_eq h hp]

theorem keyedSupport_eq_support (h : KeysFaithful tx) (he : e ∈ tx.participatingEdges.elems) :
    keyedSupport tx e = support tx e := by
  refine List.countP_congr fun p hp => ?_
  simp only [List.mem_filter, decide_eq_true_eq] at hp
  rw [h (e, p) (List.mem_orderedPairs.mpr ⟨he, hp.1, Ne.symm hp.2⟩)]

theorem kept_iff_supported (h : KeysFaithful tx) (he : e ∈ tx.participatingEdges.elems) :
    Kept tx e ↔ Supported tx e := by
  rw [Kept, Supported, keyedSupport_eq_support h he]

end Supported

end TruthFingerprint.Abci
