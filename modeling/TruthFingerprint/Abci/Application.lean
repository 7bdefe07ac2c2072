import Mathlib
import TruthFingerprint.Abci.Encoding
import TruthFingerprint.Abci.EvaluateRound

/-!
# The consensus application

The application's state and its ABCI methods, over binary64 numbers. The state file is part of a
`Node`, next to the application that writes it, and `os.WriteFile` has an `Outcome` that the
environment chooses.

`loadState` never leaves the map of rounds nil, so the live state (`LiveState`) has a map there.
The writes to standard output are left out.
-/

namespace TruthFingerprint.Abci

/-- The committed state in memory. -/
structure LiveState where
  lastBlockHeight : Int
  lastAppHash : Slice UInt8
  rounds : Rounds Float
deriving DecidableEq

def LiveState.persisted (state : LiveState) : PersistedState Float where
  lastBlockHeight := state.lastBlockHeight
  lastAppHash := state.lastAppHash
  rounds := some state.rounds

structure ConsensusApplication where
  state : LiveState
  pendingRounds : Rounds Float
  pendingBlockHeight : Int
  pendingAppHash : Slice UInt8

/-- An application and the contents of its state file, if there is one. -/
structure Node where
  app : ConsensusApplication
  file : Option Bytes

/-! ## State file -/

/-- What writing the state file does: a write that fails may leave anything there. -/
inductive Outcome where
  | written
  | failed (file : Option Bytes) (err : String)

def LiveState.empty : LiveState where
  lastBlockHeight := 0
  lastAppHash := none
  rounds := ∅

def loadState (codec : Codec) : Option Bytes → Except String LiveState
  | none => pure .empty
  | some raw => do
    let state ← codec.unmarshalState raw
    pure { lastBlockHeight := state.lastBlockHeight
           lastAppHash := state.lastAppHash
           rounds := state.rounds.getD ∅ }

def computeAppHash (codec : Codec) (lastBlockHeight : Int) (rounds : Rounds Float) :
    Except String Bytes := do
  let raw ← codec.marshalState { lastBlockHeight, lastAppHash := none, rounds := some rounds }
  pure (codec.sha256 raw)

/-- The file after the call, and the hash that it returns. -/
def persistState (codec : Codec) (outcome : Outcome) (file : Option Bytes) (state : LiveState) :
    Option Bytes × Except String Bytes :=
  match computeAppHash codec state.lastBlockHeight state.rounds with
  | .error err => (file, .error err)
  | .ok hash =>
    match codec.marshalIndentState { state with lastAppHash := some hash }.persisted with
    | .error err => (file, .error err)
    | .ok raw =>
      match outcome with
      | .written => (some raw, .ok hash)
      | .failed file' err => (file', .error err)

/-- An application over a state that nothing is pending for. -/
def LiveState.application (state : LiveState) : ConsensusApplication where
  state := state
  pendingRounds := ∅
  pendingBlockHeight := 0
  pendingAppHash := none

def newConsensusApplication (codec : Codec) (file : Option Bytes) :
    Except String ConsensusApplication := do
  let state ← loadState codec file
  pure state.application

/-! ## Queries -/

structure InfoResponse where
  lastBlockHeight : Int
  lastBlockAppHash : Slice UInt8
deriving DecidableEq

def info (app : ConsensusApplication) : InfoResponse where
  lastBlockHeight := app.state.lastBlockHeight
  lastBlockAppHash := app.state.lastAppHash

structure QueryResponse where
  code : Nat
  log : String
  value : Bytes
deriving DecidableEq

def query (codec : Codec) (app : ConsensusApplication) (roundID : String) :
    Except String QueryResponse :=
  match app.state.rounds.lookup roundID with
  | none => .ok { code := 1, log := "round not found", value := [] }
  | some round => do
    let raw ← codec.marshalRound round
    pure { code := 0, log := "", value := raw }

structure CheckTxResponse where
  code : Nat
  log : String
deriving DecidableEq

def checkTx (codec : Codec) (rawTx : Bytes) : CheckTxResponse :=
  match codec.unmarshalTx rawTx with
  | .error err => { code := 1, log := err }
  | .ok tx =>
    if tx.roundID = "" ∨ tx.participatingEdges.elems.length = 0 ∨
        tx.replicatedStates.elems.length = 0 then
      { code := 1, log := "invalid round tx" }
    else { code := 0, log := "" }

/-! ## Blocks -/

structure FinalizeBlockRequest where
  height : Int
  txs : List Bytes

structure ExecTxResult where
  code : Nat
  log : String
deriving DecidableEq

structure FinalizeBlockResponse where
  txResults : List ExecTxResult
  appHash : Bytes
deriving DecidableEq

/-- One transaction of a block: decode it and evaluate its round. -/
def processTx (codec : Codec) (height : Int) (rawTx : Bytes) :
    Except String (RoundInputTx Float × CommittedRound Float) := do
  let tx ← codec.unmarshalTx rawTx
  let round ← evaluateRound tx height
  pure (tx, round)

/-- The pending rounds after one transaction, and its result. -/
def deliverTx (codec : Codec) (height : Int) (pendingRounds : Rounds Float) (rawTx : Bytes) :
    Rounds Float × ExecTxResult :=
  match processTx codec height rawTx with
  | .error err => (pendingRounds, { code := 1, log := err })
  | .ok (tx, round) =>
    (pendingRounds.insert tx.roundID round,
      { code := 0
        log := "committed round " ++ round.roundID ++ " status=" ++ round.finalStatus.text })

def deliverTxs (codec : Codec) (height : Int) :
    Rounds Float → List Bytes → Rounds Float × List ExecTxResult
  | pendingRounds, [] => (pendingRounds, [])
  | pendingRounds, rawTx :: rawTxs =>
    let delivered := deliverTx codec height pendingRounds rawTx
    let rest := deliverTxs codec height delivered.1 rawTxs
    (rest.1, delivered.2 :: rest.2)

/-- The pending rounds of a block. -/
def pendingAfter (codec : Codec) (height : Int) (rawTxs : List Bytes) : Rounds Float :=
  (deliverTxs codec height ∅ rawTxs).1

def finalizeBlock (codec : Codec) (app : ConsensusApplication) (req : FinalizeBlockRequest) :
    ConsensusApplication × Except String FinalizeBlockResponse :=
  let delivered := deliverTxs codec req.height ∅ req.txs
  let app' := { app with
    pendingRounds := delivered.1, pendingBlockHeight := req.height, pendingAppHash := none }
  match computeAppHash codec req.height (Finmap.overwrite delivered.1 app.state.rounds) with
  | .error err => (app', .error err)
  | .ok appHash =>
    ({ app' with pendingAppHash := some appHash }, .ok { txResults := delivered.2, appHash })

/-- The live state once the pending rounds and height are merged. -/
def ConsensusApplication.merged (app : ConsensusApplication) : LiveState where
  lastBlockHeight := app.pendingBlockHeight
  lastAppHash := app.state.lastAppHash
  rounds := Finmap.overwrite app.pendingRounds app.state.rounds

def hashMismatch (appHash pendingAppHash : Bytes) : String :=
  "persisted app hash " ++ hexEncode appHash ++ " does not match precommit app hash " ++
    hexEncode pendingAppHash

/-- The node after the call, and the retain height. -/
def commit (codec : Codec) (outcome : Outcome) (node : Node) : Node × Except String Int :=
  let app := { node.app with state := node.app.merged }
  match persistState codec outcome node.file app.state with
  | (file, .error err) => ({ app, file }, .error err)
  | (file, .ok appHash) =>
    if 0 < app.pendingAppHash.elems.length ∧ appHash ≠ app.pendingAppHash.elems then
      ({ app, file }, .error (hashMismatch appHash app.pendingAppHash.elems))
    else
      ({ app := { app with state := { app.state with lastAppHash := some appHash } }, file },
        .ok app.state.lastBlockHeight)

/-! ## Runs -/

/-- A call of an ABCI method. -/
inductive Call where
  | info
  | query (roundID : String)
  | checkTx (rawTx : Bytes)
  | finalizeBlock (req : FinalizeBlockRequest)
  | commit (outcome : Outcome)

/-- A node that starts without a state file. -/
def Node.fresh : Node where
  app := LiveState.empty.application
  file := none

/-- The node after a call. -/
def Node.step (codec : Codec) (node : Node) : Call → Node
  | .info | .query _ | .checkTx _ => node
  | .finalizeBlock req => { node with app := (Abci.finalizeBlock codec node.app req).1 }
  | .commit outcome => (Abci.commit codec outcome node).1

def Node.run (codec : Codec) (node : Node) (calls : List Call) : Node :=
  calls.foldl (Node.step codec) node

end TruthFingerprint.Abci
