import Mathlib
import TruthFingerprint.Scada.OpcUaService

/-!
# The comparison with the SCADA side

Every supported sensor is compared under its tolerance. The sensors that are outside of it diverge,
and nothing else decides.
-/

namespace TruthFingerprint.Comparison

open Consensus (ConsensusedValidState PyError RoundIdentity)
open Scada (ScadaState Sensor)

structure SensorScadaComparison (F : Type) where
  sensorName : Sensor
  physicalValue : F
  scadaValue : F
  absoluteDifference : F
  tolerance : F
  withinTolerance : Bool

structure ScadaComparisonOutput (F : Type) where
  roundIdentity : RoundIdentity
  scadaSourceRoundId : String
  sensorComparisons : List (SensorScadaComparison F)

/-- `divergent_sensors` -/
def ScadaComparisonOutput.divergentSensors {F : Type} (output : ScadaComparisonOutput F) :
    List Sensor :=
  (output.sensorComparisons.filter fun comparison => !comparison.withinTolerance).map (·.sensorName)

/-- `COMPARISON_SENSOR_ORDER` -/
def comparisonSensorOrder : List Sensor := [.temperature, .pressure, .rpm]

variable {F : Type} [PyArith F]

/-- `ScadaToleranceProfile` with its defaults -/
def toleranceFor : Sensor → F
  | .temperature => 2.0
  | .pressure => 0.35
  | .rpm => 120.0

def compareSensor (sensor : Sensor) (physicalValue scadaValue : F) : SensorScadaComparison F :=
  let physicalValue := PyArith.round3 physicalValue
  let scadaValue := PyArith.round3 scadaValue
  let tolerance := PyArith.round3 (toleranceFor sensor)
  let absoluteDifference := PyArith.round3 (FloatArith.abs (physicalValue - scadaValue))
  { sensorName := sensor
    physicalValue := physicalValue
    scadaValue := scadaValue
    absoluteDifference := absoluteDifference
    tolerance := tolerance
    withinTolerance := FloatArith.le absoluteDifference tolerance }

/-- `compare_consensused_to_scada`, with the output that is built of it. A projected state has all
sensors. -/
def compareConsensusedToScada (validState : ConsensusedValidState F) (scadaState : ScadaState F) :
    Except PyError (ScadaComparisonOutput F) := do
  let values ← Scada.Service.require (fun sensor => validState.sensorValues.lookup sensor.name)
    "ConsensusedValidState is missing supported comparison sensors: "
  pure
    { roundIdentity := validState.roundIdentity
      scadaSourceRoundId := scadaState.sourceRoundId
      sensorComparisons := comparisonSensorOrder.map fun sensor =>
        compareSensor sensor (values sensor) (scadaState.sensorValues sensor).value }

/-- A comparison is of the round that was agreed on. -/
theorem roundIdentity_of_compare {validState : ConsensusedValidState F} {scadaState : ScadaState F}
    {output : ScadaComparisonOutput F}
    (h : compareConsensusedToScada validState scadaState = .ok output) :
    output.roundIdentity = validState.roundIdentity := by
  rw [compareConsensusedToScada] at h
  cases hvalues : Scada.Service.require
      (fun sensor => validState.sensorValues.lookup sensor.name)
      "ConsensusedValidState is missing supported comparison sensors: " with
  | error error =>
    rw [hvalues] at h
    cases h
  | ok values =>
    rw [hvalues] at h
    cases h
    rfl

end TruthFingerprint.Comparison
