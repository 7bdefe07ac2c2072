import Mathlib
import TruthFingerprint.Lib.FinmapLoops
import TruthFingerprint.Lib.Json
import TruthFingerprint.Consensus.Contracts

/-!
# Round transactions

The document that `serialize_round_input` dumps: the states in the order of their owners, the
sensors and all other keys sorted.
-/

namespace TruthFingerprint.Consensus

open Json

variable {F : Type}

/-- A dictionary as `json.dumps` writes it with `sort_keys`. -/
def dict (fields : List (String × Json F)) : Json F := obj (fields.insertionSort (·.1 ≤ ·.1))

def serializePayload (payload : ProcessVariable F) : Json F :=
  dict [("value", num payload.value), ("unit", str payload.unit)]

def serializeState (state : EdgeLocalReplicatedState F) : Json F :=
  dict [("owner_edge_id", str state.ownerEdgeID),
    ("sensor_values", dict <| state.observationsBySensor.sortedKeys.map fun sensorName =>
      (sensorName, ((state.observationsBySensor.lookup sensorName).map serializePayload).getD null))]

def sortedStates (input : ConsensusRoundInput F) : List (EdgeLocalReplicatedState F) :=
  input.replicatedStates.insertionSort (·.ownerEdgeID ≤ ·.ownerEdgeID)

def serializeRoundInput (input : ConsensusRoundInput F) : Json F :=
  dict [("round_id", str input.roundIdentity.roundID),
    ("window_started_at", str input.roundIdentity.windowStartedAt.isoformat),
    ("window_ended_at", str input.roundIdentity.windowEndedAt.isoformat),
    ("participating_edges", arr (input.participatingEdges.map str)),
    ("replicated_states", arr ((sortedStates input).map serializeState))]

end TruthFingerprint.Consensus
