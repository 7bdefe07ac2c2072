import Mathlib
import TruthFingerprint.Lib.StagedStore
import TruthFingerprint.Abci.Application
import TruthFingerprint.Abci.EvaluateRoundLemmas

/-!
# What the ABCI methods do

One lemma for what each method does to a node. Seen through the rounds alone, a node is a staged
store (`Node.store`): `FinalizeBlock` stages the rounds that it acknowledges, `Commit` copies what
is staged over what is live, also when it fails, and nothing else writes (`store_run`).
-/

namespace TruthFingerprint.Abci

variable {codec : Codec} {app : ConsensusApplication} {node : Node} {round : CommittedRound Float}

/-! ## Transactions -/

/-- The rounds that a block acknowledges, each with its round id. -/
def acknowledged (codec : Codec) (height : Int) (rawTxs : List Bytes) :
    List (String × CommittedRound Float) :=
  rawTxs.filterMap fun rawTx =>
    (processTx codec height rawTx).toOption.map fun result => (result.1.roundID, result.2)

/-- The result of a transaction does not depend on the ones before it. -/
def txResult (codec : Codec) (height : Int) (rawTx : Bytes) : ExecTxResult :=
  (deliverTx codec height ∅ rawTx).2

theorem processTx_eq_ok_iff : processTx codec height rawTx = .ok (tx, round) ↔
    codec.unmarshalTx rawTx = .ok tx ∧ evaluateRound tx height = .ok round := by
  cases htx : codec.unmarshalTx rawTx with
  | error e => simp [processTx, htx, bind, Except.bind]
  | ok tx' =>
    cases hround : evaluateRound tx' height with
    | error e =>
      simp only [processTx, htx, hround, bind, Except.bind, reduceCtorEq, Except.ok.injEq,
        false_iff, not_and]
      rintro rfl
      simp [hround]
    | ok round' =>
      simp only [processTx, htx, hround, bind, Except.bind, pure, Except.pure, Except.ok.injEq,
        Prod.mk.injEq]
      refine and_congr_right ?_
      rintro rfl
      simp [hround]

/-- A transaction is acknowledged exactly when it decodes and its round evaluates. -/
theorem txResult_code : (txResult codec height rawTx).code = 0 ↔
    ∃ tx round, processTx codec height rawTx = .ok (tx, round) := by
  rw [txResult, deliverTx]
  cases h : processTx codec height rawTx with
  | error e => simp
  | ok result => exact ⟨fun _ => ⟨result.1, result.2, rfl⟩, fun _ => rfl⟩

/-- The round that a transaction with complete states commits. -/
def roundOf (tx : RoundInputTx Float) (height : Int) : CommittedRound Float :=
  committedRound tx (pairwiseMap tx) height

theorem evaluateRound_roundOf {tx : RoundInputTx Float} (hc : Comparable tx) (height : Int) :
    evaluateRound tx height = .ok (roundOf tx height) := evaluateRound_eq_ok_iff.mpr ⟨hc, rfl⟩

theorem processTx_of_comparable {tx : RoundInputTx Float}
    (hdecode : codec.unmarshalTx rawTx = .ok tx) (hc : Comparable tx) :
    processTx codec height rawTx = .ok (tx, roundOf tx height) :=
  processTx_eq_ok_iff.mpr ⟨hdecode, evaluateRound_roundOf hc height⟩

theorem acknowledged_cons {tx : RoundInputTx Float}
    (hdecode : codec.unmarshalTx rawTx = .ok tx) (hc : Comparable tx) :
    acknowledged codec height (rawTx :: rawTxs) =
      (tx.roundID, roundOf tx height) :: acknowledged codec height rawTxs := by
  simp [acknowledged, processTx_of_comparable hdecode hc, Except.toOption]

theorem mem_acknowledged : (roundID, round) ∈ acknowledged codec height rawTxs ↔
    ∃ rawTx ∈ rawTxs, ∃ tx, processTx codec height rawTx = .ok (tx, round) ∧
      tx.roundID = roundID := by
  simp only [acknowledged, List.mem_filterMap]
  refine exists_congr fun rawTx => and_congr_right fun _ => ?_
  cases h : processTx codec height rawTx with
  | error e => simp [Except.toOption]
  | ok result =>
    obtain ⟨tx, round'⟩ := result
    simp only [Except.toOption, Option.map_some, Option.some.injEq, Prod.mk.injEq, Except.ok.injEq]
    constructor
    · rintro ⟨rfl, rfl⟩
      exact ⟨tx, ⟨rfl, rfl⟩, rfl⟩
    · rintro ⟨_, ⟨rfl, rfl⟩, rfl⟩
      exact ⟨rfl, rfl⟩

/-- A block acknowledges the rounds of its transactions with complete states. -/
theorem mem_acknowledged_iff {w : String × CommittedRound Float} :
    w ∈ acknowledged codec height rawTxs ↔ ∃ rawTx ∈ rawTxs, ∃ tx,
      codec.unmarshalTx rawTx = .ok tx ∧ Comparable tx ∧ w = (tx.roundID, roundOf tx height) := by
  obtain ⟨roundID, round⟩ := w
  rw [mem_acknowledged]
  refine exists_congr fun rawTx => and_congr_right fun _ => exists_congr fun tx => ?_
  rw [processTx_eq_ok_iff, evaluateRound_eq_ok_iff, roundOf, Prod.mk.injEq]
  tauto

theorem deliverTxs_results (codec : Codec) (height : Int) (pendingRounds : Rounds Float)
    (rawTxs : List Bytes) :
    (deliverTxs codec height pendingRounds rawTxs).2 = rawTxs.map (txResult codec height) := by
  induction rawTxs generalizing pendingRounds with
  | nil => rfl
  | cons rawTx rawTxs ih =>
    have hhead : (deliverTx codec height pendingRounds rawTx).2 = txResult codec height rawTx := by
      simp only [txResult, deliverTx]
      split <;> rfl
    simp only [deliverTxs, ih, hhead, List.map_cons]

theorem lookup_deliverTx (codec : Codec) (height : Int) (pendingRounds : Rounds Float)
    (rawTx : Bytes) (roundID : String) :
    (deliverTx codec height pendingRounds rawTx).1.lookup roundID =
      (StagedStore.lastWrite (acknowledged codec height [rawTx]) roundID).or
        (pendingRounds.lookup roundID) := by
  rw [deliverTx, acknowledged]
  cases h : processTx codec height rawTx with
  | error e => simp [Except.toOption, h, StagedStore.lastWrite]
  | ok result =>
    obtain ⟨tx, round⟩ := result
    by_cases hid : tx.roundID = roundID
    · subst hid
      simp [Except.toOption, h, StagedStore.lastWrite]
    · simp [Except.toOption, h, StagedStore.lastWrite, hid,
        Finmap.lookup_insert_of_ne _ (Ne.symm hid)]

/-- A block leaves under a round id the last round that it acknowledged with that id. -/
theorem lookup_deliverTxs (codec : Codec) (height : Int) (pendingRounds : Rounds Float)
    (rawTxs : List Bytes) (roundID : String) :
    (deliverTxs codec height pendingRounds rawTxs).1.lookup roundID =
      (StagedStore.lastWrite (acknowledged codec height rawTxs) roundID).or
        (pendingRounds.lookup roundID) := by
  induction rawTxs generalizing pendingRounds with
  | nil => rfl
  | cons rawTx rawTxs ih =>
    have happend : acknowledged codec height (rawTx :: rawTxs) =
        acknowledged codec height [rawTx] ++ acknowledged codec height rawTxs :=
      List.filterMap_append (l := [rawTx])
    rw [deliverTxs, ih, lookup_deliverTx, ← Option.or_assoc, happend]
    congr 1
    simp only [StagedStore.lastWrite, List.reverse_append, List.find?_append]
    cases (acknowledged codec height rawTxs).reverse.find? (·.1 = roundID) <;> simp

theorem lookup_pendingAfter : (pendingAfter codec height rawTxs).lookup roundID =
    StagedStore.lastWrite (acknowledged codec height rawTxs) roundID := by
  rw [pendingAfter, lookup_deliverTxs, Finmap.lookup_empty, Option.or_none]

theorem pendingAfter_take_succ {rawTxs : List Bytes} (h : rawTxs[i]? = some rawTx) :
    pendingAfter codec height (rawTxs.take (i + 1)) =
      (deliverTx codec height (pendingAfter codec height (rawTxs.take i)) rawTx).1 := by
  have happend : ∀ (l : List Bytes) (pending : Rounds Float),
      (deliverTxs codec height pending (l ++ [rawTx])).1 =
        (deliverTx codec height (deliverTxs codec height pending l).1 rawTx).1 := fun l => by
    induction l with
    | nil => exact fun _ => rfl
    | cons x l ih => exact fun pending => ih _
  rw [List.take_add_one, h]
  exact happend _ _

/-! ## FinalizeBlock -/

theorem computeAppHash_eq_ok_iff {rounds : Rounds Float} :
    (∃ hash, computeAppHash codec height rounds = .ok hash) ↔
      ∀ roundID round, rounds.lookup roundID = some round → round.Finite := by
  have hstate : (∃ raw, codec.marshalState ⟨height, none, some rounds⟩ = .ok raw) ↔ _ :=
    encode_state_eq_ok_iff
  rw [← hstate, computeAppHash]
  cases codec.marshalState ⟨height, none, some rounds⟩ <;>
    simp [bind, Except.bind, pure, Except.pure]

@[simp] theorem finalizeBlock_state (codec : Codec) (app : ConsensusApplication)
    (req : FinalizeBlockRequest) : (finalizeBlock codec app req).1.state = app.state := by
  rw [finalizeBlock]
  split <;> rfl

@[simp] theorem finalizeBlock_pendingRounds (codec : Codec) (app : ConsensusApplication)
    (req : FinalizeBlockRequest) :
    (finalizeBlock codec app req).1.pendingRounds = pendingAfter codec req.height req.txs := by
  rw [finalizeBlock]
  split <;> rfl

@[simp] theorem finalizeBlock_pendingBlockHeight (codec : Codec) (app : ConsensusApplication)
    (req : FinalizeBlockRequest) :
    (finalizeBlock codec app req).1.pendingBlockHeight = req.height := by
  rw [finalizeBlock]
  split <;> rfl

/-- A block succeeds exactly when the state that it would commit can be hashed. -/
theorem finalizeBlock_eq_ok_iff : (finalizeBlock codec app req).2 = .ok resp ↔
    computeAppHash codec req.height
        (Finmap.overwrite (pendingAfter codec req.height req.txs) app.state.rounds) =
      .ok resp.appHash ∧ resp.txResults = req.txs.map (txResult codec req.height) := by
  rw [← deliverTxs_results codec req.height ∅ req.txs, pendingAfter, finalizeBlock]
  split
  · rename_i hhash
    simp [hhash]
  · rename_i appHash hhash
    obtain ⟨txResults, appHash'⟩ := resp
    simp [hhash, eq_comm, and_comm]

/-- A block succeeds exactly when the rounds that it would leave are finite. -/
theorem finalizeBlock_isOk_iff : (∃ resp, (finalizeBlock codec app req).2 = .ok resp) ↔
    ∀ roundID round, (StagedStore.lastWrite (acknowledged codec req.height req.txs) roundID).or
      (app.state.rounds.lookup roundID) = some round → round.Finite := by
  have hhash : (∃ hash, computeAppHash codec req.height
      (Finmap.overwrite (pendingAfter codec req.height req.txs) app.state.rounds) = .ok hash) ↔ _ :=
    computeAppHash_eq_ok_iff
  simp only [Finmap.lookup_overwrite, lookup_pendingAfter] at hhash
  rw [← hhash]
  simp only [finalizeBlock_eq_ok_iff]
  constructor
  · rintro ⟨resp, h, -⟩
    exact ⟨resp.appHash, h⟩
  · rintro ⟨appHash, h⟩
    exact ⟨⟨_, appHash⟩, h, rfl⟩

/-- A block reads the committed state only. -/
theorem finalizeBlock_application (codec : Codec) (app : ConsensusApplication)
    (req : FinalizeBlockRequest) :
    finalizeBlock codec app req = finalizeBlock codec app.state.application req := rfl

/-- A block announces the hash that it returns. -/
theorem finalizeBlock_pendingAppHash (codec : Codec) (app : ConsensusApplication)
    (req : FinalizeBlockRequest) : (finalizeBlock codec app req).1.pendingAppHash =
      (finalizeBlock codec app req).2.toOption.map (·.appHash) := by
  rw [finalizeBlock]
  split <;> rfl

/-! ## Commit -/

/-- The state that a commit writes. -/
def ConsensusApplication.committed (app : ConsensusApplication) (hash : Bytes) : LiveState :=
  { app.merged with lastAppHash := some hash }

/-- The hash of the merged state is the one that was announced, if one was. -/
def ConsensusApplication.HashAgrees (app : ConsensusApplication) (hash : Bytes) : Prop :=
  app.pendingAppHash.elems = [] ∨ app.pendingAppHash.elems = hash

instance {hash : Bytes} : Decidable (app.HashAgrees hash) := inferInstanceAs (Decidable (_ ∨ _))

/-- What a commit needs to succeed. -/
structure CommitSucceeds (codec : Codec) (outcome : Outcome) (app : ConsensusApplication)
    (hash raw : Bytes) : Prop where
  hashed : computeAppHash codec app.merged.lastBlockHeight app.merged.rounds = .ok hash
  encoded : codec.marshalIndentState (app.committed hash).persisted = .ok raw
  written : outcome = .written
  agrees : app.HashAgrees hash

theorem commit_of_succeeds {hash raw : Bytes} (h : CommitSucceeds codec outcome node.app hash raw) :
    commit codec outcome node =
      ({ app := { node.app with state := node.app.committed hash }, file := some raw },
        .ok node.app.pendingBlockHeight) := by
  obtain ⟨hhash, hraw, rfl, hagrees⟩ := h
  have hpersist : persistState codec .written node.file node.app.merged = (some raw, .ok hash) := by
    simp only [ConsensusApplication.committed] at hraw
    simp [persistState, hhash, hraw]
  have hcheck : ¬ (0 < node.app.pendingAppHash.elems.length ∧
      hash ≠ node.app.pendingAppHash.elems) := by
    rcases hagrees with h | h <;> simp [h]
  simp only [commit, hpersist, if_neg hcheck]
  rfl

/-- A commit that does not succeed still merges what is pending. Its error does not depend on the
file. -/
theorem commit_of_fails (h : ∀ hash raw, ¬ CommitSucceeds codec outcome app hash raw) :
    ∃ err, ∀ file, ∃ file', commit codec outcome ⟨app, file⟩ =
      ({ app := { app with state := app.merged }, file := file' }, .error err) := by
  simp only [commit]
  cases hhash : computeAppHash codec app.merged.lastBlockHeight app.merged.rounds with
  | error e => exact ⟨e, fun file => ⟨file, by simp [persistState, hhash]⟩⟩
  | ok hash =>
    cases hraw : codec.marshalIndentState (app.committed hash).persisted with
    | error e =>
      simp only [ConsensusApplication.committed] at hraw
      exact ⟨e, fun file => ⟨file, by simp [persistState, hhash, hraw]⟩⟩
    | ok raw =>
      have hraw' := hraw
      simp only [ConsensusApplication.committed] at hraw'
      cases outcome with
      | failed file' err => exact ⟨err, fun file => ⟨file', by simp [persistState, hhash, hraw']⟩⟩
      | written =>
        have hcheck : 0 < app.pendingAppHash.elems.length ∧ hash ≠ app.pendingAppHash.elems := by
          by_contra hcheck
          refine h hash raw ⟨hhash, hraw, rfl, ?_⟩
          by_cases hnil : app.pendingAppHash.elems = []
          · exact .inl hnil
          · refine .inr (by_contra fun hne => hcheck ⟨List.length_pos_iff.mpr hnil, Ne.symm hne⟩)
        exact ⟨hashMismatch hash app.pendingAppHash.elems, fun file => ⟨some raw, by
          simp only [persistState, hhash, hraw', if_pos hcheck]⟩⟩

/-- A commit that can be hashed and written, and whose hash agrees, succeeds. -/
theorem commitSucceeds_of_hash {hash : Bytes}
    (hhash : computeAppHash codec app.merged.lastBlockHeight app.merged.rounds = .ok hash)
    (hagrees : app.HashAgrees hash) : ∃ raw, CommitSucceeds codec .written app hash raw := by
  obtain ⟨raw, hraw⟩ := encode_state_eq_ok_iff.mpr (computeAppHash_eq_ok_iff.mp ⟨hash, hhash⟩)
  exact ⟨raw, hhash, hraw, rfl, hagrees⟩

/-- The commit after a block that succeeded succeeds with the block's hash when it is written. -/
theorem commitSucceeds_of_finalizeBlock (h : (finalizeBlock codec app req).2 = .ok resp) :
    ∃ raw, CommitSucceeds codec .written (finalizeBlock codec app req).1 resp.appHash raw := by
  refine commitSucceeds_of_hash ?_ (.inr ?_)
  · simpa [ConsensusApplication.merged] using (finalizeBlock_eq_ok_iff.mp h).1
  · simp [finalizeBlock_pendingAppHash, h, Except.toOption]

/-- The commit after a block that succeeded, when it is written. -/
theorem commit_of_finalizeBlock (h : (finalizeBlock codec node.app req).2 = .ok resp) :
    (commit codec .written (node.step codec (.finalizeBlock req))).2 = .ok req.height ∧
      (commit codec .written (node.step codec (.finalizeBlock req))).1.app.state = {
        lastBlockHeight := req.height
        lastAppHash := some resp.appHash
        rounds := Finmap.overwrite (pendingAfter codec req.height req.txs)
          node.app.state.rounds } := by
  obtain ⟨raw, hs⟩ := commitSucceeds_of_finalizeBlock h
  have hcommit : commit codec .written (node.step codec (.finalizeBlock req)) = _ :=
    commit_of_succeeds hs
  rw [hcommit]
  simp [ConsensusApplication.committed, ConsensusApplication.merged, Node.step]

theorem commit_eq_ok_iff : (commit codec outcome node).2 = .ok retain ↔
    retain = node.app.pendingBlockHeight ∧
      ∃ hash raw, CommitSucceeds codec outcome node.app hash raw := by
  by_cases h : ∃ hash raw, CommitSucceeds codec outcome node.app hash raw
  · obtain ⟨hash, raw, h⟩ := h
    simp only [commit_of_succeeds h, Except.ok.injEq]
    exact ⟨fun heq => ⟨heq.symm, hash, raw, h⟩, fun heq => heq.1.symm⟩
  · obtain ⟨err, hfail⟩ := commit_of_fails (by simpa using h)
    obtain ⟨file', hc⟩ := hfail node.file
    simp [hc, h]

/-- Every commit, also one that fails, merges what is pending and keeps it pending. -/
theorem commit_app (codec : Codec) (outcome : Outcome) (node : Node) :
    ∃ lastAppHash, (commit codec outcome node).1.app =
      { node.app with state := { node.app.merged with lastAppHash } } := by
  by_cases h : ∃ hash raw, CommitSucceeds codec outcome node.app hash raw
  · obtain ⟨hash, raw, h⟩ := h
    exact ⟨some hash, by rw [commit_of_succeeds h]; rfl⟩
  · obtain ⟨err, hfail⟩ := commit_of_fails (by simpa using h)
    obtain ⟨file', hc⟩ := hfail node.file
    exact ⟨node.app.merged.lastAppHash, by rw [hc]⟩

/-! ## The announced hash -/

/-- A hash that was announced is that of the state that the next commit would leave. -/
def ConsensusApplication.HashAnnounced (codec : Codec) (app : ConsensusApplication) : Prop :=
  ∀ hash, app.pendingAppHash = some hash →
    computeAppHash codec app.merged.lastBlockHeight app.merged.rounds = .ok hash

theorem hashAnnounced_step (h : node.app.HashAnnounced codec) (call : Call) :
    (node.step codec call).app.HashAnnounced codec := by
  cases call with
  | info | query | checkTx => exact h
  | finalizeBlock req =>
    intro hash hhash
    simp only [Node.step, finalizeBlock_pendingAppHash] at hhash
    cases hfinal : (finalizeBlock codec node.app req).2 with
    | error err => simp [hfinal, Except.toOption] at hhash
    | ok resp =>
      obtain rfl : resp.appHash = hash := by simpa [hfinal, Except.toOption] using hhash
      simpa [ConsensusApplication.merged, Node.step] using (finalizeBlock_eq_ok_iff.mp hfinal).1
  | commit outcome =>
    intro hash hhash
    obtain ⟨lastAppHash, happ⟩ := commit_app codec outcome node
    simp only [Node.step, happ] at hhash ⊢
    simpa [ConsensusApplication.merged] using h hash hhash

/-- In every run of a new application the next commit agrees with the announced hash. -/
theorem hashAnnounced_run (codec : Codec) (state : LiveState) (file : Option Bytes)
    (calls : List Call) : (Node.run codec ⟨state.application, file⟩ calls).app.HashAnnounced codec := by
  have hrun : ∀ {node : Node}, node.app.HashAnnounced codec →
      (node.run codec calls).app.HashAnnounced codec := by
    induction calls with
    | nil => exact id
    | cons call calls ih => exact fun h => ih (hashAnnounced_step h call)
  exact hrun fun hash h => by cases h

theorem hashAgrees_of_announced {hash : Bytes} (h : app.HashAnnounced codec)
    (hhash : computeAppHash codec app.merged.lastBlockHeight app.merged.rounds = .ok hash) :
    app.HashAgrees hash := by
  cases hpending : app.pendingAppHash with
  | none => simp [ConsensusApplication.HashAgrees, hpending]
  | some hash' =>
    obtain rfl := Except.ok.inj (hhash.symm.trans (h hash' hpending))
    simp [ConsensusApplication.HashAgrees, hpending]

/-! ## The rounds as a staged store -/

/-- The committed and the pending rounds of a node. -/
def Node.store (node : Node) : StagedStore.Store String (CommittedRound Float) where
  live := node.app.state.rounds.lookup
  staged := node.app.pendingRounds.lookup

/-- What a call does to the rounds. -/
def Call.action (codec : Codec) : Call → StagedStore.Action String (CommittedRound Float)
  | .finalizeBlock req => .stage (acknowledged codec req.height req.txs)
  | .commit _ => .commit
  | .info | .query _ | .checkTx _ => .idle

theorem store_step (codec : Codec) (node : Node) (call : Call) :
    (node.step codec call).store = StagedStore.step node.store (call.action codec) := by
  cases call with
  | info | query | checkTx => rfl
  | finalizeBlock req =>
    have hstaged : (pendingAfter codec req.height req.txs).lookup =
        StagedStore.lastWrite (acknowledged codec req.height req.txs) :=
      funext fun _ => lookup_pendingAfter
    simp [Node.store, Node.step, Call.action, StagedStore.step, hstaged]
  | commit outcome =>
    obtain ⟨lastAppHash, happ⟩ := commit_app codec outcome node
    simp only [Node.store, Node.step, Call.action, StagedStore.step, happ]
    congr 1
    funext roundID
    exact Finmap.lookup_overwrite _ _ _

/-- A run of calls runs the staged store. -/
theorem store_run (codec : Codec) (node : Node) (calls : List Call) :
    (node.run codec calls).store = StagedStore.run node.store (calls.map (Call.action codec)) := by
  induction calls generalizing node with
  | nil => rfl
  | cons call calls ih =>
    change ((node.step codec call).run codec calls).store = _
    rw [ih, store_step]
    rfl

/-! ## Queries -/

/-- The answer to a query that finds this. -/
def answer (codec : Codec) : Option (CommittedRound Float) → Except String QueryResponse
  | none => .ok { code := 1, log := "round not found", value := [] }
  | some round => (codec.marshalRound round).map fun raw => { code := 0, log := "", value := raw }

theorem query_eq (codec : Codec) (app : ConsensusApplication) (roundID : String) :
    query codec app roundID = answer codec (app.state.rounds.lookup roundID) := by
  rw [query]
  cases app.state.rounds.lookup roundID with
  | none => rfl
  | some round =>
    simp only [answer]
    cases codec.marshalRound round <;> rfl

end TruthFingerprint.Abci
