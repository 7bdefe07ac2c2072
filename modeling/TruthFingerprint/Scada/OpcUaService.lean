import Mathlib
import TruthFingerprint.Consensus.Contracts

/-!
# The fake OPC UA service

The service projects a consensused valid state to what the supervisory side shows, under an
override for each sensor. Its tables of overrides and frozen values belong to its state, so a
projection returns the service that it leaves behind. The OPC UA server itself is left out.
-/

namespace TruthFingerprint.Scada

open Consensus (ConsensusedValidState DateTime PyError RoundIdentity)

/-- `SUPPORTED_SCADA_SENSORS` -/
inductive Sensor where
  | temperature
  | pressure
  | rpm
deriving DecidableEq

namespace Sensor

def name : Sensor → String
  | temperature => "temperature"
  | pressure => "pressure"
  | rpm => "rpm"

/-- `SCADA_SENSOR_UNITS` -/
def unit : Sensor → String
  | temperature => "degC"
  | pressure => "bar"
  | rpm => "rpm"

/-- The supported sensors as `sorted` orders their names -/
def sorted : List Sensor := [pressure, rpm, temperature]

end Sensor

/-- `SUPPORTED_OVERRIDE_MODES` -/
inductive OverrideMode where
  | matching
  | offset
  | freeze
  | replay
deriving DecidableEq

def OverrideMode.text : OverrideMode → String
  | matching => "match"
  | offset => "offset"
  | freeze => "freeze"
  | replay => "replay"

/-- What the service rounds to six decimals besides the values that it rounds to three. -/
class BehavioralArith (F : Type) extends PyArith F where
  /-- `round(x, 6)` -/
  round6 : F → F

instance : BehavioralArith ℚ where
  round6 x := NearestInt.halfEven (x * 1000000) / 1000000

structure ScadaSensorOverride (F : Type) where
  mode : OverrideMode
  offset : F
  fixedValue : Option F
  replayRoundId : Option String

structure ScadaSensorState (F : Type) where
  value : F
  unit : String
  mode : OverrideMode

structure ScadaBehavioralSensorState (F : Type) where
  loopCurrentMa : F
  pvPercentRange : F
  noiseFloor : F
  rateOfChangeDtdt : F
  localStabilityScore : F
  fieldDeviceMalfunction : Bool
  loopCurrentSaturated : Bool
  coldStart : Bool
  mode : OverrideMode
  sourceRoundId : Option String

/-- What the service reads of a `RawHartPayload`. -/
structure SourcePayload (F : Type) where
  loopCurrentMa : F
  pvPercentRange : F
  noiseFloor : F
  rateOfChangeDtdt : F
  localStabilityScore : F
  fieldDeviceMalfunction : Bool
  loopCurrentSaturated : Bool
  coldStart : Bool

/-- The values of the supported sensors, and their behavioral values where there are any. -/
structure ScadaState (F : Type) where
  compressorId : String
  sourceRoundId : String
  timestamp : String
  sensorValues : Sensor → ScadaSensorState F
  behavioralSourceRoundId : Option String
  behavioralSensorValues : Option (Sensor → ScadaBehavioralSensorState F)

/-- `FakeOpcUaScadaService` -/
structure Service (F : Type) where
  compressorId : String
  currentState : Option (ScadaState F)
  history : List (ScadaState F)
  frozenValues : Sensor → Option F
  overrides : Sensor → ScadaSensorOverride F

namespace Service

variable {F : Type} [BehavioralArith F]

/-- `ScadaSensorOverride()` -/
def noOverride : ScadaSensorOverride F := ⟨.matching, 0.0, none, none⟩

/-- A new service. -/
def new (compressorId : String) : Service F :=
  { compressorId, currentState := none, history := [], frozenValues := fun _ => none,
    overrides := fun _ => noOverride }

/-! ## Overrides -/

/-- `set_sensor_override` -/
def setSensorOverride (service : Service F) (sensor : Sensor) (mode : OverrideMode) (offset : F)
    (fixedValue : Option F) (replayRoundId : Option String) : Service F :=
  let override : ScadaSensorOverride F :=
    ⟨mode, offset, fixedValue.map PyArith.round3, replayRoundId⟩
  let frozenValues :=
    if mode ≠ .freeze then Function.update service.frozenValues sensor none
    else match override.fixedValue with
      | some value => Function.update service.frozenValues sensor (some value)
      | none => service.frozenValues
  { service with overrides := Function.update service.overrides sensor override, frozenValues }

/-- `clear_sensor_override` -/
def clearSensorOverride (service : Service F) (sensor : Sensor) : Service F :=
  { service with
    overrides := Function.update service.overrides sensor noOverride
    frozenValues := Function.update service.frozenValues sensor none }

/-- `clear_overrides` -/
def clearOverrides (service : Service F) : Service F :=
  { service with overrides := fun _ => noOverride, frozenValues := fun _ => none }

/-! ## Supervisory values -/

/-- `_apply_supervisory_override`: the value, and what the table of frozen values holds after it -/
def applySupervisoryOverride (frozen : Option F) (baseValue : F) (override : ScadaSensorOverride F) :
    F × Option F :=
  match override.mode with
  | .matching => (baseValue, frozen)
  | .offset => (PyArith.round3 (baseValue + override.offset), frozen)
  | .freeze =>
    match frozen with
    | some value => (value, some value)
    | none =>
      let value := PyArith.round3 (override.fixedValue.getD baseValue)
      (value, some value)
  | .replay => (baseValue, frozen)

/-! ## Behavioral values -/

/-- `_behavioral_state_from_payload` -/
def behavioralStateFromPayload (payload : SourcePayload F) (sourceRoundId : String) :
    ScadaBehavioralSensorState F where
  loopCurrentMa := PyArith.round3 payload.loopCurrentMa
  pvPercentRange := PyArith.round3 payload.pvPercentRange
  noiseFloor := BehavioralArith.round6 payload.noiseFloor
  rateOfChangeDtdt := BehavioralArith.round6 payload.rateOfChangeDtdt
  localStabilityScore := BehavioralArith.round6 payload.localStabilityScore
  fieldDeviceMalfunction := payload.fieldDeviceMalfunction
  loopCurrentSaturated := payload.loopCurrentSaturated
  coldStart := payload.coldStart
  mode := .matching
  sourceRoundId := some sourceRoundId

/-- `_resolve_historical_behavioral_state` -/
def resolveHistoricalBehavioralState (service : Service F) (sensor : Sensor)
    (replayRoundId : Option String) : Option (ScadaBehavioralSensorState F) :=
  match replayRoundId with
  | some roundId =>
    (service.history.filter (·.sourceRoundId = roundId)).findSome? fun state =>
      state.behavioralSensorValues.map (· sensor)
  | none => service.history.getLast?.bind fun state => state.behavioralSensorValues.map (· sensor)

/-- `_apply_behavioral_override` -/
def applyBehavioralOverride (service : Service F) (sensor : Sensor)
    (current : ScadaBehavioralSensorState F) : ScadaBehavioralSensorState F :=
  let override := service.overrides sensor
  match override.mode with
  | .matching | .offset => { current with mode := override.mode }
  | .freeze | .replay =>
    { (service.resolveHistoricalBehavioralState sensor override.replayRoundId).getD current with
      mode := override.mode }

/-- `_behavioral_source_round_id`: a replayed or frozen round before any other -/
def behavioralSourceRoundId (values : Sensor → ScadaBehavioralSensorState F) : Option String :=
  let named (sensor : Sensor) : Option String := (values sensor).sourceRoundId.filter (· ≠ "")
  let replayed := Sensor.sorted.findSome? fun sensor =>
    if (values sensor).mode = .replay ∨ (values sensor).mode = .freeze then named sensor else none
  replayed.or (Sensor.sorted.findSome? named)

/-! ## Projection -/

/-- A list of names as `repr` writes it -/
def namesRepr (sensors : List Sensor) : String :=
  "[" ++ ", ".intercalate (sensors.map fun sensor => "'" ++ sensor.name ++ "'") ++ "]"

/-- The values of all supported sensors, or those that are missing. -/
def require {α : Type} (lookup : Sensor → Option α) (message : String) :
    Except PyError (Sensor → α) :=
  match lookup .temperature, lookup .pressure, lookup .rpm with
  | some temperature, some pressure, some rpm =>
    .ok fun | .temperature => temperature | .pressure => pressure | .rpm => rpm
  | _, _, _ =>
    .error (.valueError (message ++
      namesRepr (Sensor.sorted.filter fun sensor => (lookup sensor).isNone)))

/-- `project_state`, and the service with the values that it froze -/
def projectState (service : Service F) (validState : ConsensusedValidState F)
    (sourceReplicatedState : Option (Sensor → Option (SourcePayload F))) :
    Except PyError (ScadaState F × Service F) := do
  let values ← require (fun sensor => validState.sensorValues.lookup sensor.name)
    "ConsensusedValidState is missing SCADA sensor values for: "
  let payloads ← sourceReplicatedState.mapM fun observations =>
    require observations "SCADA projection is missing source replicated payloads for: "
  let roundId := validState.roundIdentity.roundID
  let projected (sensor : Sensor) :=
    applySupervisoryOverride (service.frozenValues sensor) (PyArith.round3 (values sensor))
      (service.overrides sensor)
  let behavioral := payloads.map fun payloads sensor =>
    service.applyBehavioralOverride sensor (behavioralStateFromPayload (payloads sensor) roundId)
  let state : ScadaState F :=
    { compressorId := service.compressorId
      sourceRoundId := roundId
      timestamp := validState.roundIdentity.windowEndedAt.isoformat
      sensorValues := fun sensor =>
        ⟨(projected sensor).1, sensor.unit, (service.overrides sensor).mode⟩
      behavioralSourceRoundId := behavioral.bind behavioralSourceRoundId
      behavioralSensorValues := behavioral }
  pure (state, { service with frozenValues := fun sensor => (projected sensor).2 })

/-- `update_from_consensused_state` -/
def updateFromConsensusedState (service : Service F) (validState : ConsensusedValidState F)
    (sourceReplicatedState : Option (Sensor → Option (SourcePayload F))) :
    Except PyError (ScadaState F × Service F) := do
  let (state, service) ← service.projectState validState sourceReplicatedState
  pure (state, { service with currentState := some state, history := service.history ++ [state] })

end Service

end TruthFingerprint.Scada
