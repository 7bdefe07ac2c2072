import Mathlib
import TruthFingerprint.Abci.ApplicationLemmas

/-!
# What a query finds

A query finds the round that a commit last installed under its id, and an id that was found once
is always found (`query_run`). Resubmitting a round id therefore replaces its round. Within one
block the replaced round was acknowledged and never becomes visible, so every acknowledged round
is found exactly when the transactions of one round id carry the same data
(`runFound_iff`). A commit that fails has merged the pending rounds already, so it
changes no answer exactly when nothing new was pending (`runAtomic_iff`).
-/

namespace TruthFingerprint.Abci

variable {codec : Codec} {node : Node} {round : CommittedRound Float}

/-! ## Runs -/

/-- The round that the last commit to install one installed, or else the old one. -/
theorem lookup_run (codec : Codec) (node : Node) (calls : List Call) (roundID : String) :
    (node.run codec calls).app.state.rounds.lookup roundID =
      (StagedStore.installed roundID (node.app.pendingRounds.lookup roundID)
        (calls.map (Call.action codec))).or (node.app.state.rounds.lookup roundID) := by
  have hlive := congrFun (congrArg StagedStore.Store.live (store_run codec node calls)) roundID
  rw [StagedStore.run_live] at hlive
  exact hlive

/-- Over every run, a query finds the round that the last commit to install one installed, and
the old round when none did. An id that is found stays found. -/
theorem query_run (codec : Codec) (node : Node) (calls : List Call) (roundID : String) :
    query codec (node.run codec calls).app roundID =
        answer codec ((StagedStore.installed roundID (node.app.pendingRounds.lookup roundID)
          (calls.map (Call.action codec))).or (node.app.state.rounds.lookup roundID)) ∧
      ((node.app.state.rounds.lookup roundID).isSome →
        ((node.run codec calls).app.state.rounds.lookup roundID).isSome) := by
  rw [query_eq, lookup_run]
  refine ⟨rfl, fun h => ?_⟩
  simp [h]

/-! ## Acknowledged rounds -/

/-- The query finds exactly this round, and answers with its encoding. -/
structure Finds (codec : Codec) (app : ConsensusApplication) (roundID : String)
    (round : CommittedRound Float) : Prop where
  stored : app.state.rounds.lookup roundID = some round
  answered : query codec app roundID = answer codec (some round)

theorem finds_iff : Finds codec app roundID round ↔
    app.state.rounds.lookup roundID = some round :=
  ⟨Finds.stored, fun h => ⟨h, by rw [query_eq, h]⟩⟩

/-- The block and the commit after it succeed. -/
structure BlockSucceeds (codec : Codec) (node : Node) (req : FinalizeBlockRequest)
    (outcome : Outcome) (resp : FinalizeBlockResponse) : Prop where
  finalized : (finalizeBlock codec node.app req).2 = .ok resp
  committed : ∃ retain, (commit codec outcome (node.step codec (.finalizeBlock req))).2 = .ok retain

/-- Every transaction with code 0 is found after the commit. -/
def AcknowledgedFound (codec : Codec) (node : Node) (req : FinalizeBlockRequest)
    (outcome : Outcome) (resp : FinalizeBlockResponse) : Prop :=
  ∀ (i : Nat) (result : ExecTxResult), resp.txResults[i]? = some result → result.code = 0 →
    ∃ rawTx tx round, req.txs[i]? = some rawTx ∧ codec.unmarshalTx rawTx = .ok tx ∧
      evaluateRound tx req.height = .ok round ∧
      Finds codec (node.run codec [.finalizeBlock req, .commit outcome]).app tx.roundID round

/-- Transactions of the block that decode, compare complete states and name one round carry the
same data. -/
def OneRoundPerID (codec : Codec) (req : FinalizeBlockRequest) : Prop :=
  ∀ rawTx ∈ req.txs, ∀ rawTx' ∈ req.txs, ∀ tx tx', codec.unmarshalTx rawTx = .ok tx →
    codec.unmarshalTx rawTx' = .ok tx' → Comparable tx → Comparable tx' →
      tx.roundID = tx'.roundID → tx.data = tx'.data

/-- The rounds that a block acknowledges agree on an id when its transactions do. -/
theorem acknowledged_agree_iff (codec : Codec) (req : FinalizeBlockRequest) :
    (∀ w ∈ acknowledged codec req.height req.txs, ∀ w' ∈ acknowledged codec req.height req.txs,
      w.1 = w'.1 → w.2 = w'.2) ↔ OneRoundPerID codec req := by
  simp only [mem_acknowledged_iff]
  constructor
  · intro h rawTx hraw rawTx' hraw' tx tx' htx htx' hc hc' hid
    exact (data_eq_iff (evaluateRound_roundOf hc _) (evaluateRound_roundOf hc' _)).mpr
      (h _ ⟨rawTx, hraw, tx, htx, hc, rfl⟩ _ ⟨rawTx', hraw', tx', htx', hc', rfl⟩ hid)
  · rintro h _ ⟨rawTx, hraw, tx, htx, hc, rfl⟩ _ ⟨rawTx', hraw', tx', htx', hc', rfl⟩ hid
    exact (data_eq_iff (evaluateRound_roundOf hc _) (evaluateRound_roundOf hc' _)).mp <|
      h rawTx hraw rawTx' hraw' tx tx' htx htx' hc hc' hid

/-- The transactions of a block are found when the writes that stage them are visible. -/
theorem acknowledgedFound_iff_visible (h : BlockSucceeds codec node req outcome resp) :
    AcknowledgedFound codec node req outcome resp ↔
      ∀ w ∈ acknowledged codec req.height req.txs,
        (StagedStore.run node.store
          [.stage (acknowledged codec req.height req.txs), .commit]).live w.1 = some w.2 := by
  obtain ⟨-, hresults⟩ := finalizeBlock_eq_ok_iff.mp h.finalized
  have hstore := store_run codec node [.finalizeBlock req, .commit outcome]
  have hlive : ∀ roundID, (node.run codec [.finalizeBlock req, .commit outcome]).app.state.rounds.lookup
      roundID = (StagedStore.run node.store
        [.stage (acknowledged codec req.height req.txs), .commit]).live roundID := fun roundID =>
    congrFun (congrArg StagedStore.Store.live hstore) roundID
  constructor
  · rintro hfound ⟨roundID, round⟩ hw
    obtain ⟨rawTx, hraw, tx, hprocess, rfl⟩ := mem_acknowledged.mp hw
    obtain ⟨i, hi⟩ := List.mem_iff_getElem?.mp hraw
    obtain ⟨rawTx', tx', round', hi', htx', hround', hfinds⟩ := hfound i
      (txResult codec req.height rawTx) (by simp [hresults, hi]) (txResult_code.mpr ⟨tx, round, hprocess⟩)
    obtain rfl := Option.some.inj (hi.symm.trans hi')
    obtain ⟨rfl, rfl⟩ := Prod.mk.inj <| Except.ok.inj <|
      hprocess.symm.trans (processTx_eq_ok_iff.mpr ⟨htx', hround'⟩)
    rw [← hlive]
    exact hfinds.stored
  · intro hvisible i result hresult hcode
    obtain ⟨rawTx, hi, rfl⟩ : ∃ rawTx, req.txs[i]? = some rawTx ∧
        txResult codec req.height rawTx = result := by
      simpa [hresults] using hresult
    obtain ⟨tx, round, hprocess⟩ := txResult_code.mp hcode
    obtain ⟨htx, hround⟩ := processTx_eq_ok_iff.mp hprocess
    refine ⟨rawTx, tx, round, hi, htx, hround, finds_iff.mpr ?_⟩
    rw [hlive]
    exact hvisible (tx.roundID, round)
      (mem_acknowledged.mpr ⟨rawTx, List.mem_of_getElem? hi, tx, hprocess, rfl⟩)

/-- A block of finite rounds over finite rounds succeeds, and so does its commit when it is
written. -/
theorem exists_blockSucceeds
    (hstored : ∀ roundID round, node.app.state.rounds.lookup roundID = some round → round.Finite)
    (hrounds : ∀ w ∈ acknowledged codec req.height req.txs, w.2.Finite) :
    ∃ resp, BlockSucceeds codec node req .written resp := by
  obtain ⟨resp, hfinal⟩ : ∃ resp, (finalizeBlock codec node.app req).2 = .ok resp := by
    refine finalizeBlock_isOk_iff.mpr fun roundID round h => ?_
    cases hw : StagedStore.lastWrite (acknowledged codec req.height req.txs) roundID with
    | none =>
      rw [hw, Option.none_or] at h
      exact hstored roundID round h
    | some round' =>
      rw [hw, Option.some_or] at h
      obtain rfl := Option.some.inj h
      exact hrounds _ (StagedStore.exists_of_lastWrite hw)
  obtain ⟨raw, hs⟩ := commitSucceeds_of_finalizeBlock hfinal
  exact ⟨_, hfinal, _, commit_eq_ok_iff.mpr ⟨rfl, _, raw, hs⟩⟩

/-- In the run, every block that succeeds with its commit has its acknowledged rounds found. -/
def RunFound (codec : Codec) (start : Node) (calls : List Call) : Prop :=
  ∀ before req outcome after resp,
    calls = before ++ .finalizeBlock req :: .commit outcome :: after →
    BlockSucceeds codec (start.run codec before) req outcome resp →
    AcknowledgedFound codec (start.run codec before) req outcome resp

/-- No acknowledged round of a run is lost exactly when each block carries one round for an id. -/
theorem runFound_iff (codec : Codec) (start : Node) (calls : List Call) :
    RunFound codec start calls ↔ ∀ before req outcome after resp,
      calls = before ++ .finalizeBlock req :: .commit outcome :: after →
      BlockSucceeds codec (start.run codec before) req outcome resp → OneRoundPerID codec req := by
  refine forall_congr' fun before => forall_congr' fun req => forall_congr' fun outcome =>
    forall_congr' fun after => forall_congr' fun resp => forall_congr' fun _ =>
      forall_congr' fun hblock => ?_
  rw [acknowledgedFound_iff_visible hblock, StagedStore.all_visible_iff, acknowledged_agree_iff]

def firstTx : RoundInputTx Float :=
  sampleTx ["edge-1", "edge-2"] [fullState "edge-1" 70 5 1200, fullState "edge-2" 71 5 1200]

/-- The round of `firstTx` again, with other readings. -/
def secondTx : RoundInputTx Float :=
  sampleTx ["edge-1", "edge-2"] [fullState "edge-1" 80 5 1200, fullState "edge-2" 81 5 1200]

def resubmissionCodec : Codec := documentCodec [firstTx, secondTx] []
  [(⟨7, none, some (Finmap.insert "round-1" (roundOf firstTx 7) ∅)⟩,
      [0x23, 0x9c, 0xa6, 0xf0, 0xfc, 0xaf, 0x3f, 0xaa, 0x68, 0xf9, 0xe9, 0x2e, 0x23, 0x9f, 0x9b,
        0x43, 0x65, 0xf8, 0x36, 0x6b, 0x6f, 0x94, 0xe9, 0xb1, 0xae, 0x2e, 0x29, 0xf1, 0x5c, 0xce,
        0x9c, 0x7d]),
    (⟨7, none, some (Finmap.insert "round-1" (roundOf secondTx 7) ∅)⟩,
      [0xdc, 0x23, 0xd3, 0x25, 0xd0, 0xec, 0x88, 0xa3, 0xc5, 0x51, 0x25, 0x0b, 0xb9, 0x7e, 0xf6,
        0x28, 0xd9, 0xe2, 0xa0, 0xa3, 0xb5, 0x88, 0x80, 0xca, 0x78, 0x52, 0x57, 0x11, 0x04, 0x42,
        0x83, 0xfe]),
    (⟨8, none, some (Finmap.insert "round-1" (roundOf secondTx 8) ∅)⟩,
      [0xe2, 0x1d, 0x9a, 0x3d, 0xa7, 0x35, 0x77, 0x50, 0xcf, 0x16, 0x4a, 0xe1, 0xb8, 0x37, 0x60,
        0x26, 0x5f, 0x4f, 0xa2, 0x2a, 0x6d, 0x6c, 0x8f, 0x12, 0x91, 0xbe, 0x71, 0xaf, 0x30, 0x61,
        0x4c, 0x4f])]

theorem unmarshalTx_firstTx : resubmissionCodec.unmarshalTx firstTx.text = .ok firstTx := by
  simp [resubmissionCodec, documentCodec, RoundInputTx.text]

theorem unmarshalTx_secondTx : resubmissionCodec.unmarshalTx secondTx.text = .ok secondTx := by
  have hne : firstTx.text ≠ secondTx.text := by decide +kernel
  simp only [RoundInputTx.text] at hne
  simp [resubmissionCodec, documentCodec, RoundInputTx.text, hne]

theorem comparable_firstTx : Comparable firstTx := by decide +kernel

theorem comparable_secondTx : Comparable secondTx := by decide +kernel

theorem finite_firstTx : (roundOf firstTx 7).Finite := by decide +kernel

theorem finite_secondTx : (roundOf secondTx 7).Finite := by decide +kernel

/-- Both transactions of the block are acknowledged, and only the second round is stored. -/
theorem sameIDBlock_not_runFound : ¬ RunFound resubmissionCodec .fresh
    [.finalizeBlock ⟨7, [firstTx.text, secondTx.text]⟩, .commit .written] := by
  intro h
  have hack : acknowledged resubmissionCodec 7 [firstTx.text, secondTx.text] =
      [("round-1", roundOf firstTx 7), ("round-1", roundOf secondTx 7)] := by
    rw [acknowledged_cons unmarshalTx_firstTx comparable_firstTx,
      acknowledged_cons unmarshalTx_secondTx comparable_secondTx]
    rfl
  obtain ⟨resp, hblock⟩ : ∃ resp, BlockSucceeds resubmissionCodec .fresh
      ⟨7, [firstTx.text, secondTx.text]⟩ .written resp := by
    refine exists_blockSucceeds (fun _ _ h => by cases h) ?_
    simp only [hack, List.forall_mem_cons]
    exact ⟨finite_firstTx, finite_secondTx, by simp⟩
  have hfound : AcknowledgedFound resubmissionCodec .fresh _ .written resp :=
    h [] _ .written [] resp rfl hblock
  rw [acknowledgedFound_iff_visible hblock, StagedStore.all_visible_iff,
    acknowledged_agree_iff] at hfound
  have hdata := hfound _ (by simp) _ (by simp) firstTx secondTx unmarshalTx_firstTx
    unmarshalTx_secondTx comparable_firstTx comparable_secondTx rfl
  exact absurd hdata (by decide +kernel)

/-! ## Resubmission -/

/-- A round that was found once is the one that every later query finds. -/
def RoundsFinal (codec : Codec) (start : Node) : Prop :=
  ∀ before after roundID round response,
    Finds codec (start.run codec before).app roundID round →
    query codec (start.run codec (before ++ after)).app roundID = .ok response →
    response.code = 0 → Finds codec (start.run codec (before ++ after)).app roundID round

def firstBlock : List Call := [.finalizeBlock ⟨7, [firstTx.text]⟩, .commit .written]

def secondBlock : List Call := [.finalizeBlock ⟨8, [secondTx.text]⟩, .commit .written]

theorem firstBlock_actions : firstBlock.map (Call.action resubmissionCodec) =
    [.stage [("round-1", roundOf firstTx 7)], .commit] := by
  simp only [firstBlock, List.map, Call.action,
    acknowledged_cons unmarshalTx_firstTx comparable_firstTx]
  rfl

theorem secondBlock_actions : secondBlock.map (Call.action resubmissionCodec) =
    [.stage [("round-1", roundOf secondTx 8)], .commit] := by
  simp only [secondBlock, List.map, Call.action,
    acknowledged_cons unmarshalTx_secondTx comparable_secondTx]
  rfl

/-- A later block replaces the round that a query has found. -/
theorem resubmission_not_roundsFinal : ¬ RoundsFinal resubmissionCodec .fresh := by
  intro h
  have hfirst : Finds resubmissionCodec (Node.fresh.run resubmissionCodec firstBlock).app "round-1"
      (roundOf firstTx 7) := finds_iff.mpr <| by
    rw [lookup_run, firstBlock_actions]
    simp [StagedStore.installed, StagedStore.lastWrite]
  have hsecond : Finds resubmissionCodec
      (Node.fresh.run resubmissionCodec (firstBlock ++ secondBlock)).app "round-1"
      (roundOf secondTx 8) := finds_iff.mpr <| by
    rw [lookup_run, List.map_append, firstBlock_actions, secondBlock_actions]
    simp [StagedStore.installed, StagedStore.lastWrite]
  have hfinite : (roundOf secondTx 8).Finite := finite_secondTx
  obtain ⟨raw, hraw⟩ : ∃ raw, resubmissionCodec.marshalRound (roundOf secondTx 8) = .ok raw :=
    marshalRound_eq_ok_iff.mpr hfinite
  have hanswer := hsecond.answered
  simp only [answer, hraw, Except.map] at hanswer
  have hfinal := h firstBlock secondBlock "round-1" _ _ hfirst hanswer rfl
  have heq := Option.some.inj (hfinal.stored.symm.trans hsecond.stored)
  have hheight := congrArg CommittedRound.commitHeight heq
  exact absurd hheight (by decide)

/-! ## Failed commits -/

/-- A commit that returns an error leaves every answer as it was. -/
def CommitAtomic (codec : Codec) (node : Node) (outcome : Outcome) : Prop :=
  ∀ err, (commit codec outcome node).2 = .error err →
    info (commit codec outcome node).1.app = info node.app ∧
      ∀ roundID, query codec (commit codec outcome node).1.app roundID =
        query codec node.app roundID

/-- The merged state can be written: its rounds are finite, and the write succeeds. -/
structure Persistable (node : Node) (outcome : Outcome) : Prop where
  finite : ∀ roundID round, node.app.merged.rounds.lookup roundID = some round → round.Finite
  written : outcome = .written

/-- Nothing pending would change an answer. -/
structure NothingNew (codec : Codec) (node : Node) : Prop where
  height : node.app.pendingBlockHeight = node.app.state.lastBlockHeight
  rounds : ∀ roundID round, node.app.pendingRounds.lookup roundID = some round →
    query codec node.app roundID = answer codec (some round)

theorem persistable_iff (h : node.app.HashAnnounced codec) : Persistable node outcome ↔
    ∃ hash raw, CommitSucceeds codec outcome node.app hash raw := by
  constructor
  · rintro ⟨hfinite, hwritten⟩
    obtain ⟨hash, hhash⟩ := computeAppHash_eq_ok_iff.mpr hfinite
    obtain ⟨raw, hs⟩ := commitSucceeds_of_hash hhash (hashAgrees_of_announced h hhash)
    rw [hwritten]
    exact ⟨hash, raw, hs⟩
  · rintro ⟨hash, raw, hs⟩
    exact ⟨computeAppHash_eq_ok_iff.mp ⟨hash, hs.hashed⟩, hs.written⟩

/-- A commit that fails answers as before exactly when nothing pending is new. -/
theorem commitAtomic_iff (h : node.app.HashAnnounced codec) :
    CommitAtomic codec node outcome ↔ Persistable node outcome ∨ NothingNew codec node := by
  by_cases hp : Persistable node outcome
  · obtain ⟨hash, raw, hs⟩ := (persistable_iff h).mp hp
    refine iff_of_true (fun err herr => ?_) (.inl hp)
    rw [commit_of_succeeds hs] at herr
    cases herr
  · have hnot : ∀ hash raw, ¬ CommitSucceeds codec outcome node.app hash raw := by
      simpa using mt (persistable_iff h).mpr hp
    obtain ⟨err, hfail⟩ := commit_of_fails hnot
    obtain ⟨file, hfail⟩ := hfail node.file
    have hinfo : info (commit codec outcome node).1.app = info node.app ↔
        node.app.pendingBlockHeight = node.app.state.lastBlockHeight := by
      simp [hfail, info, ConsensusApplication.merged]
    have hquery : ∀ roundID, query codec (commit codec outcome node).1.app roundID =
        answer codec ((node.app.pendingRounds.lookup roundID).or
          (node.app.state.rounds.lookup roundID)) := fun roundID => by
      rw [query_eq, hfail, ← Finmap.lookup_overwrite]
      rfl
    constructor
    · intro h
      obtain ⟨h1, h2⟩ := h err (by rw [hfail])
      refine .inr ⟨hinfo.mp h1, fun roundID round hround => ?_⟩
      rw [← h2, hquery, hround, Option.some_or]
    · rintro (h | ⟨hheight, hrounds⟩)
      · exact absurd h hp
      · intro err' _
        refine ⟨hinfo.mpr hheight, fun roundID => ?_⟩
        rw [hquery]
        cases hround : node.app.pendingRounds.lookup roundID with
        | none => rw [Option.none_or, query_eq]
        | some round => rw [Option.some_or, hrounds roundID round hround]

/-- Every commit of a run with rounds pending is atomic. -/
def RunAtomic (codec : Codec) (start : Node) (calls : List Call) : Prop :=
  ∀ before outcome after, calls = before ++ .commit outcome :: after →
    (start.run codec before).app.pendingRounds ≠ ∅ →
      CommitAtomic codec (start.run codec before) outcome

/-- The commits of a run of a new application are atomic exactly when each one can write its state
or has nothing new to merge. -/
theorem runAtomic_iff (codec : Codec) (state : LiveState) (file : Option Bytes)
    (calls : List Call) : RunAtomic codec ⟨state.application, file⟩ calls ↔
      ∀ before outcome after, calls = before ++ .commit outcome :: after →
        (Node.run codec ⟨state.application, file⟩ before).app.pendingRounds ≠ ∅ →
          Persistable (Node.run codec ⟨state.application, file⟩ before) outcome ∨
            NothingNew codec (Node.run codec ⟨state.application, file⟩ before) :=
  forall_congr' fun before => forall_congr' fun _ => forall_congr' fun _ =>
    forall_congr' fun _ => forall_congr' fun _ =>
      commitAtomic_iff (hashAnnounced_run codec state file before)

/-- A write that fails has moved the height already. -/
theorem failedWrite_not_runAtomic : ¬ RunAtomic resubmissionCodec .fresh
    [.finalizeBlock ⟨7, [firstTx.text]⟩, .commit (.failed none "no space left on device")] := by
  intro h
  have hpending : ((Node.fresh.run resubmissionCodec
      [.finalizeBlock ⟨7, [firstTx.text]⟩]).app.pendingRounds).lookup "round-1" =
        some (roundOf firstTx 7) := by
    have hack : acknowledged resubmissionCodec 7 [firstTx.text] = _ :=
      acknowledged_cons unmarshalTx_firstTx comparable_firstTx
    rw [Node.run, List.foldl_cons, List.foldl_nil, Node.step, finalizeBlock_pendingRounds,
      lookup_pendingAfter, hack]
    rfl
  have hatomic := h [.finalizeBlock ⟨7, [firstTx.text]⟩] _ [] rfl fun hnone => by
    rw [hnone] at hpending
    cases hpending
  rcases (commitAtomic_iff (hashAnnounced_run _ .empty none _)).mp hatomic with hp | hnew
  · cases hp.written
  · have hheight := hnew.height
    simp [Node.run, Node.step, LiveState.application, LiveState.empty] at hheight

end TruthFingerprint.Abci
