import Mathlib
import TruthFingerprint.Lib.BlockMachine
import TruthFingerprint.Abci.Finality

/-!
# Agreement of replicas

A replica is a node that finalizes and commits blocks, may finalize a block again before its
commit, and may be re-created from its state file after it. Its answers depend on the committed
state in memory alone, which the state file restores (`replica`), so replicas that start from one
state agree on the blocks they execute (`replicas_agree`).
-/

namespace TruthFingerprint.Abci

open BlockMachine

variable {codec : Codec} {node : Node}

/-- What a node answers to `Info` and `Query`. -/
structure View where
  info : InfoResponse
  query : String → Except String QueryResponse

def Node.view (codec : Codec) (node : Node) : View where
  info := Abci.info node.app
  query := Abci.query codec node.app

/-- Finalize and commit blocks, and start again from the state file. -/
def replicaMachine (codec : Codec) :
    Machine Node FinalizeBlockRequest FinalizeBlockResponse Int String where
  stage node req := (node.step codec (.finalizeBlock req), (finalizeBlock codec node.app req).2)
  commit node := commit codec .written node
  restart node := do
    let app ← newConsensusApplication codec node.file
    pure { node with app }

/-- A node that executes from a state. -/
def Node.ofState (state : LiveState) : Node where
  app := state.application
  file := none

/-- The committed state after a block. -/
def LiveState.next (codec : Codec) (state : LiveState) (req : FinalizeBlockRequest) : LiveState :=
  (commit codec .written ((Node.ofState state).step codec (.finalizeBlock req))).1.app.state

/-- The application and the answer of a commit do not depend on the file. -/
theorem commit_file (codec : Codec) (app : ConsensusApplication) (file file' : Option Bytes) :
    (commit codec .written ⟨app, file⟩).1.app = (commit codec .written ⟨app, file'⟩).1.app ∧
      (commit codec .written ⟨app, file⟩).2 = (commit codec .written ⟨app, file'⟩).2 := by
  by_cases h : ∃ hash raw, CommitSucceeds codec .written app hash raw
  · obtain ⟨hash, raw, h⟩ := h
    rw [commit_of_succeeds h, commit_of_succeeds h]
    exact ⟨rfl, rfl⟩
  · obtain ⟨err, hfail⟩ := commit_of_fails (by simpa using h)
    obtain ⟨_, hc⟩ := hfail file
    obtain ⟨_, hc'⟩ := hfail file'
    rw [hc, hc']
    exact ⟨rfl, rfl⟩

theorem loadState_readsBack {state : LiveState} (h : codec.unmarshalState raw = .ok state.persisted) :
    loadState codec (some raw) = .ok state := by
  simp [loadState, h, LiveState.persisted, bind, Except.bind, pure, Except.pure]

/-- The application that a finalized block leaves, over its committed state. -/
def Finalized (codec : Codec) (node : Node) (req : FinalizeBlockRequest) : Prop :=
  node.app = (finalizeBlock codec node.app.state.application req).1

/-- The state file holds the committed state. -/
def Saved (codec : Codec) (node : Node) : Prop :=
  ∃ raw, node.file = some raw ∧ codec.unmarshalState raw = .ok node.app.state.persisted

theorem Finalized.commit_eq (h : Finalized codec node req) :
    (commit codec .written node).1.app =
        (commit codec .written ((Node.ofState node.app.state).step codec (.finalizeBlock req))).1.app ∧
      (commit codec .written node).2 =
        (commit codec .written ((Node.ofState node.app.state).step codec (.finalizeBlock req))).2 := by
  have hnode : (Node.ofState node.app.state).step codec (.finalizeBlock req) = ⟨node.app, none⟩ := by
    rw [h]
    simp [Node.step, Node.ofState, LiveState.application]
  rw [hnode]
  exact commit_file codec node.app node.file none

/-- A replica depends on its committed state alone. -/
def replica (codec : Codec) :
    Deterministic (replicaMachine codec) (fun node => node.app.state) (Node.view codec) where
  answer state req := (finalizeBlock codec state.application req).2
  ack state req := (commit codec .written ((Node.ofState state).step codec (.finalizeBlock req))).2
  next := LiveState.next codec
  see state := (Node.ofState state).view codec
  Durable state := ReadsBack codec state.persisted
  Staged := Finalized codec
  Saved := Saved codec
  view_eq _ := rfl
  stage_answer node req := by
    rw [← finalizeBlock_application]
    rfl
  stage_core node req := finalizeBlock_state codec node.app req
  stage_staged := fun {node req _} _ => by
    simp [Finalized, replicaMachine, Node.step, ← finalizeBlock_application]
  commit_ack h := h.commit_eq.2
  commit_core h _ := congrArg ConsensusApplication.state h.commit_eq.1
  commit_saved := fun {node req a} h hack hd => by
    rw [← h.commit_eq.2] at hack
    obtain ⟨-, hash, raw, hs⟩ := commit_eq_ok_iff.mp hack
    have hnext : LiveState.next codec node.app.state req = node.app.committed hash := by
      rw [LiveState.next, ← h.commit_eq.1, commit_of_succeeds hs]
    rw [hnext] at hd
    refine ⟨raw, ?_, ?_⟩
    · simp [replicaMachine, commit_of_succeeds hs]
    · simpa [replicaMachine, commit_of_succeeds hs] using hd raw hs.encoded
  restart_saved := fun {node} h => by
    obtain ⟨raw, hfile, hraw⟩ := h
    refine ⟨{ node with app := node.app.state.application }, ?_, rfl, raw, hfile, hraw⟩
    simp [replicaMachine, newConsensusApplication, hfile, loadState_readsBack hraw, bind,
      Except.bind, pure, Except.pure]

/-! ## Agreement -/

/-- Every `FinalizeBlock` and `Commit` of the blocks succeeds, from a state on. -/
def BlocksSucceed (codec : Codec) : LiveState → List FinalizeBlockRequest → Prop
  | _, [] => True
  | state, req :: reqs =>
    (∃ resp, (finalizeBlock codec state.application req).2 = .ok resp) ∧
      (∃ retain, (commit codec .written
        ((Node.ofState state).step codec (.finalizeBlock req))).2 = .ok retain) ∧
      BlocksSucceed codec (state.next codec req) reqs

/-- Every state that the blocks commit is read back from its file as it was written. -/
def BlocksReadBack (codec : Codec) : LiveState → List FinalizeBlockRequest → Prop
  | _, [] => True
  | state, req :: reqs =>
    ReadsBack codec (state.next codec req).persisted ∧
      BlocksReadBack codec (state.next codec req) reqs

theorem replica_answer (codec : Codec) : (replica codec).answer =
    fun state req => (finalizeBlock codec state.application req).2 := rfl

theorem replica_ack (codec : Codec) : (replica codec).ack = fun state req =>
    (commit codec .written ((Node.ofState state).step codec (.finalizeBlock req))).2 := rfl

theorem replica_next (codec : Codec) : (replica codec).next = LiveState.next codec := rfl

theorem replica_durable (codec : Codec) :
    (replica codec).Durable = fun state => ReadsBack codec state.persisted := rfl

theorem succeeds_replica {state : LiveState} {blocks : List FinalizeBlockRequest}
    (hsucceed : BlocksSucceed codec state blocks) (hreads : BlocksReadBack codec state blocks) :
    (replica codec).Succeeds state blocks := by
  induction blocks generalizing state with
  | nil => trivial
  | cons req blocks ih =>
    obtain ⟨hresp, hretain, hsucceed⟩ := hsucceed
    obtain ⟨hread, hreads⟩ := hreads
    rw [Deterministic.succeeds_cons, replica_answer, replica_ack, replica_next, replica_durable]
    exact ⟨hresp, hretain, hread, ih hsucceed hreads⟩

/-- What a replica sees of blocks with the given responses, and with the given answers to `Info`
and `Query` after each. -/
def Observes (codec : Codec) (node : Node) (blocks : List FinalizeBlockRequest)
    (turns : List Turn) (results : List (FinalizeBlockResponse × View)) : Prop :=
  (replicaMachine codec).runTurns (Node.view codec) node (blocks.zip turns) =
    .ok (List.zipWith Turn.show turns results)

/-- Replicas that start from one state get one response for every block, and answer `Info` and
every `Query` alike after it, however often each finalizes a block again or restarts. -/
theorem replicas_agree (codec : Codec) (state : LiveState) (blocks : List FinalizeBlockRequest)
    (hsucceed : BlocksSucceed codec state blocks) (hreads : BlocksReadBack codec state blocks)
    {left right : Node} (hleft : left.app.state = state) (hright : right.app.state = state)
    {turns turns' : List Turn} (hlen : turns.length = blocks.length)
    (hlen' : turns'.length = blocks.length) :
    ∃ results, results.length = blocks.length ∧ Observes codec left blocks turns results ∧
      Observes codec right blocks turns' results := by
  obtain ⟨results, hlength, hresults⟩ :=
    (replica codec).runTurns_eq (succeeds_replica hsucceed hreads)
  exact ⟨results, hlength, hresults left turns hleft hlen, hresults right turns' hright hlen'⟩

/-! ## One block -/

def firstDigest : Bytes :=
  [0x23, 0x9c, 0xa6, 0xf0, 0xfc, 0xaf, 0x3f, 0xaa, 0x68, 0xf9, 0xe9, 0x2e, 0x23, 0x9f, 0x9b, 0x43,
    0x65, 0xf8, 0x36, 0x6b, 0x6f, 0x94, 0xe9, 0xb1, 0xae, 0x2e, 0x29, 0xf1, 0x5c, 0xce, 0x9c, 0x7d]

/-- The state after a block of `firstTx`. -/
def firstState : LiveState where
  lastBlockHeight := 7
  lastAppHash := some firstDigest
  rounds := Finmap.insert "round-1" (roundOf firstTx 7) ∅

def firstCodec : Codec := documentCodec [firstTx] [firstState.persisted]
  [({ firstState with lastAppHash := none }.persisted, firstDigest)]

theorem unmarshalTx_firstCodec : firstCodec.unmarshalTx firstTx.text = .ok firstTx := by
  simp [firstCodec, documentCodec]

theorem pendingAfter_firstCodec :
    pendingAfter firstCodec 7 [firstTx.text] = firstState.rounds := by
  simp only [pendingAfter, deliverTxs, deliverTx,
    processTx_of_comparable unmarshalTx_firstCodec comparable_firstTx]
  rfl

theorem finite_firstState :
    ∀ roundID round, firstState.rounds.lookup roundID = some round → round.Finite := by
  intro roundID round h
  by_cases hid : roundID = "round-1"
  · rw [hid, firstState, Finmap.lookup_insert] at h
    rw [← Option.some.inj h]
    exact finite_firstTx
  · simp [firstState, Finmap.lookup_insert_of_ne _ hid] at h

theorem computeAppHash_firstCodec :
    computeAppHash firstCodec 7 firstState.rounds = .ok firstDigest := by
  rw [computeAppHash, marshalState_of_finite finite_firstState]
  exact congrArg Except.ok documentCodec_sha256

theorem finalizeBlock_firstCodec :
    (finalizeBlock firstCodec LiveState.empty.application ⟨7, [firstTx.text]⟩).2 =
      .ok { txResults := [txResult firstCodec 7 firstTx.text], appHash := firstDigest } := by
  refine finalizeBlock_eq_ok_iff.mpr ⟨?_, rfl⟩
  rw [pendingAfter_firstCodec, ← computeAppHash_firstCodec]
  exact congrArg _ (Finmap.overwrite_onto_empty _)

theorem next_firstCodec : LiveState.empty.next firstCodec ⟨7, [firstTx.text]⟩ = firstState := by
  have hfinal : (finalizeBlock firstCodec (Node.ofState .empty).app ⟨7, [firstTx.text]⟩).2 = _ :=
    finalizeBlock_firstCodec
  rw [LiveState.next, (commit_of_finalizeBlock hfinal).2, pendingAfter_firstCodec]
  exact congrArg (LiveState.mk 7 (some firstDigest)) (Finmap.overwrite_onto_empty _)

/-- A replica that finalizes the block twice and restarts two times, and one that restarts once. -/
theorem firstCodec_replicas_agree : ∃ results, results.length = 1 ∧
    Observes firstCodec .fresh [⟨7, [firstTx.text]⟩] [⟨1, 2⟩] results ∧
      Observes firstCodec .fresh [⟨7, [firstTx.text]⟩] [⟨0, 1⟩] results := by
  have hfinal : (finalizeBlock firstCodec (Node.ofState .empty).app ⟨7, [firstTx.text]⟩).2 = _ :=
    finalizeBlock_firstCodec
  have hreads : ReadsBack firstCodec
      (LiveState.empty.next firstCodec ⟨7, [firstTx.text]⟩).persisted := by
    rw [next_firstCodec]
    exact documentCodec_readsBack
  exact replicas_agree firstCodec .empty [⟨7, [firstTx.text]⟩]
    ⟨⟨_, hfinal⟩, ⟨_, (commit_of_finalizeBlock hfinal).1⟩, trivial⟩ ⟨hreads, trivial⟩
    rfl rfl rfl rfl

end TruthFingerprint.Abci
