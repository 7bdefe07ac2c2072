import Mathlib
import TruthFingerprint.Lib.Json
import TruthFingerprint.Abci.Types

/-!
# Encodings of the application's data

The documents that `encoding/json` writes for the records of `types.go`, by their struct tags, and
the bytes of `json.Marshal` and `json.MarshalIndent`. Both fail exactly on a document with a number
that is not finite (`marshal_eq_ok_iff`). The shortest decimal of a float, the decoders and the
hash are a `Codec`.
-/

namespace TruthFingerprint.Abci

open Json

/-! ## Documents -/

section Documents

variable {F : Type}

def sliceJson (json : α → Json F) : Slice α → Json F
  | none => null
  | some elems => arr (elems.map json)

/-- Map keys are sorted. -/
def goMapJson (json : V → Json F) : GoMap V → Json F
  | none => null
  | some m => obj (m.sortedKeys.map fun key => (key, (m.lookup key).elim null json))

def SensorValue.json (sensor : SensorValue F) : Json F :=
  obj [("value", num sensor.value), ("unit", str sensor.unit)]

def ReplicatedState.json (state : ReplicatedState F) : Json F :=
  obj [("owner_edge_id", str state.ownerEdgeID),
    ("sensor_values", goMapJson SensorValue.json state.sensorValues)]

def RoundInputTx.json (tx : RoundInputTx F) : Json F :=
  obj [("round_id", str tx.roundID), ("window_started_at", str tx.windowStartedAt),
    ("window_ended_at", str tx.windowEndedAt),
    ("participating_edges", sliceJson str tx.participatingEdges),
    ("replicated_states", sliceJson ReplicatedState.json tx.replicatedStates)]

def TrustRankEntry.json (entry : TrustRankEntry F) : Json F :=
  obj [("edge_id", str entry.edgeID), ("score", num entry.score)]

def ExclusionDecision.json (decision : ExclusionDecision) : Json F :=
  obj <| [("edge_id", str decision.edgeID), ("reason", str decision.reason.text)] ++
    if decision.detail = "" then [] else [("detail", str decision.detail)]

def SensorDeviationEvidence.json (deviation : SensorDeviationEvidence F) : Json F :=
  obj [("sensor_name", str deviation.sensorName), ("deviation_value", num deviation.deviationValue),
    ("unit", str deviation.unit)]

def PairwiseDistanceEvidence.json (distance : PairwiseDistanceEvidence F) : Json F :=
  obj [("peer_edge_id", str distance.peerEdgeID), ("sensor_name", str distance.sensorName),
    ("distance_value", num distance.distanceValue), ("unit", str distance.unit)]

def PerEdgeTrustEvidence.json (evidence : PerEdgeTrustEvidence F) : Json F :=
  obj [("edge_id", str evidence.edgeID), ("score", num evidence.score),
    ("compatible_peer_count", int evidence.compatiblePeerCount),
    ("overall_normalized_deviation", num evidence.overallNormalizedDeviation),
    ("sensor_deviations", sliceJson SensorDeviationEvidence.json evidence.sensorDeviations),
    ("pairwise_distances", sliceJson PairwiseDistanceEvidence.json evidence.pairwiseDistances)]

def ConsensusedValidState.json (state : ConsensusedValidState F) : Json F :=
  obj [("source_edges", sliceJson str state.sourceEdges),
    ("sensor_values", goMapJson num state.sensorValues)]

def CommittedRound.json (round : CommittedRound F) : Json F :=
  obj [("round_id", str round.roundID), ("window_started_at", str round.windowStartedAt),
    ("window_ended_at", str round.windowEndedAt),
    ("participating_edges", sliceJson str round.participatingEdges),
    ("replicated_states", sliceJson ReplicatedState.json round.replicatedStates),
    ("trust_ranking", sliceJson TrustRankEntry.json round.trustRanking),
    ("exclusions", sliceJson ExclusionDecision.json round.exclusions),
    ("trust_evidence", sliceJson PerEdgeTrustEvidence.json round.trustEvidence),
    ("final_status", str round.finalStatus.text),
    ("consensused_valid_state",
      (round.consensusedValidState.map ConsensusedValidState.json).getD null),
    ("commit_height", int round.commitHeight)]

@[simp] theorem mem_numbers_sliceJson {json : α → Json F} {s : Slice α} :
    x ∈ (sliceJson json s).numbers ↔ ∃ a ∈ s.elems, x ∈ (json a).numbers := by
  cases s <;> simp [sliceJson]

@[simp] theorem mem_numbers_goMapJson {json : V → Json F} {m : GoMap V} :
    x ∈ (goMapJson json m).numbers ↔
      ∃ key value, m.lookup key = some value ∧ x ∈ (json value).numbers := by
  cases m with
  | none => simp [goMapJson, GoMap.lookup]
  | some m =>
    simp only [goMapJson, mem_numbers_obj, List.mem_map, exists_exists_and_eq_and, GoMap.lookup,
      Option.bind_some, Finmap.mem_sortedKeys]
    refine exists_congr fun key => ?_
    cases hvalue : m.lookup key with
    | none => simp
    | some value => simp [Finmap.mem_of_lookup_eq_some hvalue]

end Documents

/-! ## Text -/

abbrev Bytes := List UInt8

def hexDigits (width n : Nat) : List Char :=
  ((List.range width).map fun i => Nat.digitChar (n / 16 ^ i % 16)).reverse

/-- `hex.EncodeToString` -/
def hexEncode (raw : Bytes) : String :=
  String.ofList (raw.flatMap fun b => hexDigits 2 b.toNat)

def base64Digit (n : Nat) : Char :=
  ("ABCDEFGHIJKLMNOPQRSTUVWXYZabcdefghijklmnopqrstuvwxyz0123456789+/".toList[n]?).getD '='

/-- Standard base64 with padding. -/
def base64 : Bytes → List Char
  | [] => []
  | [a] => [base64Digit (a.toNat / 4), base64Digit (a.toNat % 4 * 16), '=', '=']
  | [a, b] =>
    [base64Digit (a.toNat / 4), base64Digit (a.toNat % 4 * 16 + b.toNat / 16),
      base64Digit (b.toNat % 16 * 4), '=']
  | a :: b :: c :: rest =>
    [base64Digit (a.toNat / 4), base64Digit (a.toNat % 4 * 16 + b.toNat / 16),
      base64Digit (b.toNat % 16 * 4 + c.toNat / 64), base64Digit (c.toNat % 64)] ++ base64 rest

def PersistedState.json (state : PersistedState F) : Json F :=
  obj [("last_block_height", int state.lastBlockHeight),
    ("last_app_hash",
      (state.lastAppHash.map fun hash => str (String.ofList (base64 hash))).getD null),
    ("rounds", goMapJson CommittedRound.json state.rounds)]

/-- A character of a string, with the escapes of `json.Marshal`. -/
def escapeChar (c : Char) : List Char :=
  if c = '"' then ['\\', '"']
  else if c = '\\' then ['\\', '\\']
  else if c = '\x08' then ['\\', 'b']
  else if c = '\x0c' then ['\\', 'f']
  else if c = '\n' then ['\\', 'n']
  else if c = '\r' then ['\\', 'r']
  else if c = '\t' then ['\\', 't']
  else if c.toNat < 32 ∨ c ∈ ['<', '>', '&', '\u2028', '\u2029'] then
    '\\' :: 'u' :: hexDigits 4 c.toNat
  else [c]

def quote (s : String) : List Char := '"' :: s.toList.flatMap escapeChar ++ ['"']

def utf8 (text : List Char) : Bytes := text.flatMap String.utf8EncodeChar

/-- What the application uses of `encoding/json`, `strconv` and `crypto/sha256`: the decoders, the
shortest decimal text of a float, and the hash. -/
structure Codec where
  unmarshalTx : Bytes → Except String (RoundInputTx Float)
  unmarshalState : Bytes → Except String (PersistedState Float)
  floatText : Float → List Char
  sha256 : Bytes → Bytes

namespace Codec

variable (codec : Codec)

def style : Json.Style Float where
  number := codec.floatText
  string := quote

/-- The text, or the error for a number that JSON cannot write. -/
def encode (text : List Char) (json : Json Float) : Except String Bytes :=
  match json.numbers.find? fun x => !x.isFinite with
  | some x => .error ("json: unsupported value: " ++ String.ofList (codec.floatText x))
  | none => .ok (utf8 text)

/-- `json.Marshal` -/
def marshal (json : Json Float) : Except String Bytes :=
  codec.encode (json.compact codec.style) json

/-- `json.MarshalIndent` with two spaces -/
def marshalIndent (json : Json Float) : Except String Bytes :=
  codec.encode (json.indented codec.style [' ', ' '] 0) json

def marshalRound (round : CommittedRound Float) : Except String Bytes := codec.marshal round.json

def marshalState (state : PersistedState Float) : Except String Bytes := codec.marshal state.json

def marshalIndentState (state : PersistedState Float) : Except String Bytes :=
  codec.marshalIndent state.json

end Codec

/-! ## Finite documents -/

/-- Every number of the round is finite. -/
def CommittedRound.Finite (round : CommittedRound Float) : Prop :=
  ∀ x ∈ round.json.numbers, x.isFinite

instance (round : CommittedRound Float) : Decidable round.Finite :=
  inferInstanceAs (Decidable (∀ x ∈ _, _))

variable {codec : Codec}

theorem Codec.encode_eq_ok_iff {json : Json Float} : codec.encode text json = .ok raw ↔
    (∀ x ∈ json.numbers, x.isFinite) ∧ raw = utf8 text := by
  rw [Codec.encode]
  cases hf : json.numbers.find? fun x => !x.isFinite with
  | none =>
    have hall : ∀ x ∈ json.numbers, x.isFinite := fun x hx => by
      have := List.find?_eq_none.mp hf x hx
      rwa [Bool.not_eq_true, Bool.not_eq_false'] at this
    exact ⟨fun h => ⟨hall, (Except.ok.inj h).symm⟩, fun h => by rw [h.2]⟩
  | some x =>
    have hx := List.find?_some hf
    rw [Bool.not_eq_true'] at hx
    constructor
    · intro h
      cases h
    · rintro ⟨h, -⟩
      rw [h x (List.mem_of_find?_eq_some hf)] at hx
      cases hx

/-- The numbers of a round are its readings, scores, deviations, distances and averages. -/
theorem mem_numbers_round {round : CommittedRound F} : x ∈ round.json.numbers ↔
    (∃ state ∈ round.replicatedStates.elems, ∃ sensorName sensor,
      state.sensorValues.lookup sensorName = some sensor ∧ x = sensor.value) ∨
    (∃ entry ∈ round.trustRanking.elems, x = entry.score) ∨
    (∃ evidence ∈ round.trustEvidence.elems, x = evidence.score ∨
      x = evidence.overallNormalizedDeviation ∨
      (∃ d ∈ evidence.sensorDeviations.elems, x = d.deviationValue) ∨
      ∃ d ∈ evidence.pairwiseDistances.elems, x = d.distanceValue) ∨
    ∃ state, round.consensusedValidState = some state ∧
      ∃ sensorName, state.sensorValues.lookup sensorName = some x := by
  have hdecision : ∀ d : ExclusionDecision, x ∉ (d.json : Json F).numbers := fun d => by
    simp only [ExclusionDecision.json]
    split <;> simp
  have hstate : x ∈ ((round.consensusedValidState.map ConsensusedValidState.json).getD null).numbers ↔
      ∃ state, round.consensusedValidState = some state ∧
        ∃ sensorName, state.sensorValues.lookup sensorName = some x := by
    cases round.consensusedValidState <;> simp [ConsensusedValidState.json]
  simp [CommittedRound.json, hdecision, hstate, ReplicatedState.json, SensorValue.json,
    TrustRankEntry.json, PerEdgeTrustEvidence.json, SensorDeviationEvidence.json,
    PairwiseDistanceEvidence.json]

/-- A round can be encoded exactly when it is finite. -/
theorem marshalRound_eq_ok_iff {round : CommittedRound Float} :
    (∃ raw, codec.marshalRound round = .ok raw) ↔ round.Finite := by
  simp only [Codec.marshalRound, Codec.marshal, Codec.encode_eq_ok_iff, CommittedRound.Finite,
    exists_eq, and_true, exists_and_left]

/-- The numbers of a state are those of its rounds. -/
theorem mem_numbers_state {height : Int} {hash : Slice UInt8} {rounds : Rounds Float} {x : Float} :
    x ∈ (PersistedState.json ⟨height, hash, some rounds⟩).numbers ↔
      ∃ roundID round, rounds.lookup roundID = some round ∧ x ∈ round.json.numbers := by
  have hhash : x ∉ ((hash.map fun hash =>
      (str (String.ofList (base64 hash)) : Json Float)).getD null).numbers := by
    cases hash <;> simp
  simp [PersistedState.json, hhash, GoMap.lookup]

theorem finite_state_iff {height : Int} {hash : Slice UInt8} {rounds : Rounds Float} :
    (∀ x ∈ (PersistedState.json ⟨height, hash, some rounds⟩).numbers, x.isFinite) ↔
      ∀ roundID round, rounds.lookup roundID = some round → round.Finite := by
  simp only [mem_numbers_state, CommittedRound.Finite]
  constructor
  · intro h roundID round hround x hx
    exact h x ⟨roundID, round, hround, hx⟩
  · rintro h x ⟨roundID, round, hround, hx⟩
    exact h roundID round hround x hx

/-- A state can be encoded exactly when all its rounds are finite. -/
theorem encode_state_eq_ok_iff {height : Int} {hash : Slice UInt8} {rounds : Rounds Float} :
    (∃ raw, codec.encode text (PersistedState.json ⟨height, hash, some rounds⟩) = .ok raw) ↔
      ∀ roundID round, rounds.lookup roundID = some round → round.Finite := by
  simp only [Codec.encode_eq_ok_iff, exists_and_left, exists_eq, and_true, finite_state_iff]

theorem marshalState_of_finite {height : Int} {hash : Slice UInt8} {rounds : Rounds Float}
    (h : ∀ roundID round, rounds.lookup roundID = some round → round.Finite) :
    codec.marshalState ⟨height, hash, some rounds⟩ =
      .ok (utf8 ((PersistedState.json ⟨height, hash, some rounds⟩).compact codec.style)) :=
  Codec.encode_eq_ok_iff.mpr ⟨finite_state_iff.mpr h, rfl⟩

/-! ## A codec for given documents -/

/-- The shortest text of a number with at most three decimals. -/
def decimalText (x : Float) : List Char :=
  (((GoArith.sprintf3 x).toList.reverse.dropWhile (· = '0')).dropWhile (· = '.')).reverse

def decimalStyle : Json.Style Float where
  number := decimalText
  string := quote

def RoundInputTx.text (tx : RoundInputTx Float) : Bytes := utf8 (tx.json.compact decimalStyle)

/-- A codec that decodes these transactions and state files from their texts, and that hashes the
texts of these states. -/
def documentCodec (txs : List (RoundInputTx Float)) (states : List (PersistedState Float))
    (digests : List (PersistedState Float × Bytes)) : Codec where
  unmarshalTx raw :=
    match txs.find? fun tx => tx.text = raw with
    | some tx => .ok tx
    | none => .error "unexpected end of JSON input"
  unmarshalState raw :=
    match states.find? fun state => utf8 (state.json.indented decimalStyle [' ', ' '] 0) = raw with
    | some state => .ok state
    | none => .error "unexpected end of JSON input"
  floatText := decimalText
  sha256 raw :=
    ((digests.find? fun d => utf8 (d.1.json.compact decimalStyle) = raw).map (·.2)).getD []

/-- A state that a codec reads back from its file as it was written. -/
def ReadsBack (codec : Codec) (state : PersistedState Float) : Prop :=
  ∀ raw, codec.marshalIndentState state = .ok raw → codec.unmarshalState raw = .ok state

theorem documentCodec_style : (documentCodec txs states digests).style = decimalStyle := rfl

theorem documentCodec_sha256 :
    (documentCodec txs states ((state, digest) :: digests)).sha256
      (utf8 (state.json.compact decimalStyle)) = digest := by
  simp [documentCodec]

theorem documentCodec_readsBack : ReadsBack (documentCodec txs [state] digests) state := by
  intro raw hraw
  obtain ⟨-, rfl⟩ := Codec.encode_eq_ok_iff.mp hraw
  rw [documentCodec_style]
  simp [documentCodec]

end TruthFingerprint.Abci
