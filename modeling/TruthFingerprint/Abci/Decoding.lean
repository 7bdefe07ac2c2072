import Mathlib
import TruthFingerprint.Lib.Json
import TruthFingerprint.Lib.Loops
import TruthFingerprint.Abci.Types

/-!
# Decoding of a transaction

What `json.Unmarshal` makes of a document for `RoundInputTx`: a field that is missing or null keeps
its zero value, the last field with a name counts, and a value of another kind is an error.
-/

namespace TruthFingerprint.Abci

open Json

variable {F : Type}

def kind : Json F → String
  | .null => "null"
  | .bool _ => "bool"
  | .int _ | .num _ => "number"
  | .str _ => "string"
  | .arr _ => "array"
  | .obj _ => "object"

def cannotUnmarshal (json : Json F) (goType : String) : String :=
  "json: cannot unmarshal " ++ kind json ++ " into Go value of type " ++ goType

def decodeString : Json F → Except String String
  | .null => .ok ""
  | .str s => .ok s
  | json => .error (cannotUnmarshal json "string")

def decodeFloat [FloatArith F] : Json F → Except String F
  | .null => .ok 0.0
  | .num x => .ok x
  | .int i =>
    .ok (if 0 ≤ i then FloatArith.ofNat i.toNat else 0.0 - FloatArith.ofNat (-i).toNat)
  | json => .error (cannotUnmarshal json "float64")

def decodeSlice (decode : Json F → Except String α) : Json F → Except String (Slice α)
  | .null => .ok none
  | .arr items => (items.mapM decode).map some
  | json => .error (cannotUnmarshal json "slice")

def decodeMap (decode : Json F → Except String V) : Json F → Except String (GoMap V)
  | .null => .ok none
  | .obj fields => (Finmap.insertAllM (·.1) (fun field => decode field.2) fields ∅).map some
  | json => .error (cannotUnmarshal json "map")

/-- The fields that a record is decoded from. -/
def recordFields (goType : String) : Json F → Except String (List (String × Json F))
  | .null => .ok []
  | .obj fields => .ok fields
  | json => .error (cannotUnmarshal json goType)

def decodeSensorValue [FloatArith F] (json : Json F) : Except String (SensorValue F) := do
  let fields ← recordFields "app.SensorValue" json
  let value ← decodeFloat ((field fields "value").getD null)
  let unit ← decodeString ((field fields "unit").getD null)
  pure { value, unit }

def decodeState [FloatArith F] (json : Json F) : Except String (ReplicatedState F) := do
  let fields ← recordFields "app.ReplicatedState" json
  let ownerEdgeID ← decodeString ((field fields "owner_edge_id").getD null)
  let sensorValues ← decodeMap decodeSensorValue ((field fields "sensor_values").getD null)
  pure { ownerEdgeID, sensorValues }

def decodeTx [FloatArith F] (json : Json F) : Except String (RoundInputTx F) := do
  let fields ← recordFields "app.RoundInputTx" json
  let roundID ← decodeString ((field fields "round_id").getD null)
  let windowStartedAt ← decodeString ((field fields "window_started_at").getD null)
  let windowEndedAt ← decodeString ((field fields "window_ended_at").getD null)
  let participatingEdges ← decodeSlice decodeString ((field fields "participating_edges").getD null)
  let replicatedStates ← decodeSlice decodeState ((field fields "replicated_states").getD null)
  pure { roundID, windowStartedAt, windowEndedAt, participatingEdges, replicatedStates }

end TruthFingerprint.Abci
