import Mathlib
import TruthFingerprint.Lib.Loops
import TruthFingerprint.Scada.OpcUaService

/-!
# The SCADA side of a run

A cycle configures the service for its index and then projects the consensused state. The
configuration clears the overrides first, and the frozen values with them. So a frozen cycle shows
what was agreed in that cycle: values stay frozen exactly as long as the consensus repeats them
(`frozenHolds_iff`).
-/

namespace TruthFingerprint.Scada

open Consensus (ConsensusedValidState PyError)

/-- `demo_scada_mode` -/
inductive ScadaMode where
  | none
  | matching
  | offset
  | freeze
  | replay
  | other (name : String)
deriving DecidableEq

/-- What the configuration says about the SCADA side, where it says anything. -/
structure ScadaConfig (F : Type) where
  demoScadaMode : Option ScadaMode
  demoScadaStartCycle : Option Int
  demoScadaOffsetValue : Option F

structure ScadaReplayRuntimeStage where
  active : Bool
  mode : ScadaMode
  startCycle : Int
  replaySourceRoundId : Option String
deriving DecidableEq

variable {F : Type} [BehavioralArith F]

/-- `_resolve_scada_offset` -/
def resolveScadaOffset (config : ScadaConfig F) : Sensor → F
  | .temperature => PyArith.round3 (config.demoScadaOffsetValue.getD 6.0)
  | .pressure => PyArith.round3 (config.demoScadaOffsetValue.getD 6.0 / 10.0)
  | .rpm => PyArith.round3 (config.demoScadaOffsetValue.getD 6.0 * 50.0)

/-- The override that a mode sets for a sensor. -/
def overrideSensor (config : ScadaConfig F) (mode : ScadaMode) (replaySourceRoundId : Option String)
    (service : Service F) (sensor : Sensor) : Service F :=
  match mode with
  | .freeze => service.setSensorOverride sensor .freeze 0.0 none none
  | .replay => service.setSensorOverride sensor .replay 0.0 none replaySourceRoundId
  | .offset => service.setSensorOverride sensor .offset (resolveScadaOffset config sensor) none none
  | _ => service

/-- `configure_scada_replay_runtime_stage` -/
def configureScadaReplayRuntimeStage (service : Service F) (config : ScadaConfig F)
    (cycleIndex : Int) : ScadaReplayRuntimeStage × Service F :=
  let service := service.clearOverrides
  let mode := config.demoScadaMode.getD .matching
  let startCycle := config.demoScadaStartCycle.getD 0
  if mode = .none ∨ mode = .matching ∨ startCycle ≤ 0 ∨ cycleIndex < startCycle then
    (⟨false, .matching, startCycle, none⟩, service)
  else
    let replaySourceRoundId :=
      if mode = .replay then service.history.head?.map (·.sourceRoundId) else none
    (⟨true, mode, startCycle, replaySourceRoundId⟩,
      [Sensor.temperature, .pressure, .rpm].foldl
        (overrideSensor config mode replaySourceRoundId) service)

/-! ## Runs -/

/-- What one cycle is given. -/
structure Cycle (F : Type) where
  config : ScadaConfig F
  index : Int
  validState : ConsensusedValidState F
  sourceReplicatedState : Option (Sensor → Option (SourcePayload F))

/-- A cycle with its stage and the state that it projected. -/
structure CycleRow (F : Type) where
  cycle : Cycle F
  stage : ScadaReplayRuntimeStage
  state : ScadaState F

def runCycle (service : Service F) (cycle : Cycle F) : Except PyError (CycleRow F × Service F) := do
  let configured := configureScadaReplayRuntimeStage service cycle.config cycle.index
  let updated ←
    configured.2.updateFromConsensusedState cycle.validState cycle.sourceReplicatedState
  pure (⟨cycle, configured.1, updated.1⟩, updated.2)

/-- The rows of a run, or the first exception. -/
def runCycles (service : Service F) : List (Cycle F) → Except PyError (List (CycleRow F))
  | [] => .ok []
  | cycle :: cycles => do
    let first ← runCycle service cycle
    let rows ← runCycles first.2 cycles
    pure (first.1 :: rows)

namespace CycleRow

/-- The freeze mode is active. -/
def Frozen (row : CycleRow F) : Prop := row.stage.active ∧ row.stage.mode = .freeze

def value (row : CycleRow F) (sensor : Sensor) : F := (row.state.sensorValues sensor).value

/-- The consensused value of a sensor. -/
def consensused (row : CycleRow F) (sensor : Sensor) : Option F :=
  row.cycle.validState.sensorValues.lookup sensor.name

/-- The consensused value as it is frozen: rounded as a base value, and once more by the table. -/
def frozenBase (row : CycleRow F) (sensor : Sensor) : Option F :=
  (row.consensused sensor).map fun v => PyArith.round3 (PyArith.round3 v)

end CycleRow

/-- A maximal stretch of consecutive cycles in which the freeze mode is active. -/
def FrozenStretch (rows stretch : List (CycleRow F)) : Prop :=
  ∃ before after, rows = before ++ stretch ++ after ∧ (∀ row ∈ stretch, row.Frozen) ∧
    (∀ row ∈ before.getLast?, ¬row.Frozen) ∧ ∀ row ∈ after.head?, ¬row.Frozen

/-- Every sensor shows in a stretch what it shows in its first cycle, and the consensused value in a
cycle without an active stage. -/
def FrozenHolds (rows : List (CycleRow F)) : Prop :=
  (∀ stretch, FrozenStretch rows stretch → ∀ first ∈ stretch.head?, ∀ row ∈ stretch, ∀ sensor,
    row.value sensor = first.value sensor) ∧
  ∀ row ∈ rows, row.stage.active = false → ∀ sensor,
    some (row.value sensor) = (row.consensused sensor).map PyArith.round3

/-- In every stretch the consensus repeats the values of the first cycle, as they are frozen. -/
def SteadyConsensus (rows : List (CycleRow F)) : Prop :=
  ∀ stretch, FrozenStretch rows stretch → ∀ first ∈ stretch.head?, ∀ row ∈ stretch, ∀ sensor,
    row.frozenBase sensor = first.frozenBase sensor

/-! ## What a cycle shows -/

omit [BehavioralArith F] in
theorem lookup_of_require {α : Type} {lookup : Sensor → Option α} {message : String}
    {values : Sensor → α} (h : Service.require lookup message = .ok values) (sensor : Sensor) :
    lookup sensor = some (values sensor) := by
  rw [Service.require] at h
  split at h
  · rename_i htemperature hpressure hrpm
    obtain rfl := Except.ok.inj h
    cases sensor with
    | temperature => exact htemperature
    | pressure => exact hpressure
    | rpm => exact hrpm
  · cases h

/-- A projection shows the rounded consensused value under the override of its sensor. -/
theorem value_of_update {service service' : Service F} {validState : ConsensusedValidState F}
    {source : Option (Sensor → Option (SourcePayload F))} {state : ScadaState F}
    (h : service.updateFromConsensusedState validState source = .ok (state, service'))
    (sensor : Sensor) : ∃ v, validState.sensorValues.lookup sensor.name = some v ∧
      (state.sensorValues sensor).value =
        (Service.applySupervisoryOverride (service.frozenValues sensor) (PyArith.round3 v)
          (service.overrides sensor)).1 := by
  obtain ⟨⟨state', projected⟩, hproject, h⟩ := Except.bind_eq_ok.mp h
  obtain ⟨values, hvalues, hproject⟩ := Except.bind_eq_ok.mp hproject
  obtain ⟨payloads, -, hproject⟩ := Except.bind_eq_ok.mp hproject
  obtain ⟨rfl, -⟩ := Prod.mk.inj (Except.ok.inj h)
  obtain ⟨rfl, -⟩ := Prod.mk.inj (Except.ok.inj hproject)
  exact ⟨values sensor, lookup_of_require hvalues sensor, rfl⟩

/-- An inactive stage leaves the cleared overrides. -/
theorem configure_of_inactive {service : Service F} {config : ScadaConfig F} {index : Int}
    (h : (configureScadaReplayRuntimeStage service config index).1.active = false) :
    (configureScadaReplayRuntimeStage service config index).2 = service.clearOverrides := by
  rw [configureScadaReplayRuntimeStage] at h ⊢
  split_ifs at h ⊢
  rfl

/-- An active freeze overrides every sensor, and no value is frozen yet. -/
theorem configure_of_freeze {service : Service F} {config : ScadaConfig F} {index : Int}
    (hactive : (configureScadaReplayRuntimeStage service config index).1.active)
    (hmode : (configureScadaReplayRuntimeStage service config index).1.mode = .freeze)
    (sensor : Sensor) :
    ((configureScadaReplayRuntimeStage service config index).2.overrides sensor).mode = .freeze ∧
    ((configureScadaReplayRuntimeStage service config index).2.overrides sensor).fixedValue =
      none ∧ (configureScadaReplayRuntimeStage service config index).2.frozenValues sensor = none := by
  unfold configureScadaReplayRuntimeStage at hactive hmode ⊢
  by_cases hinactive : config.demoScadaMode.getD .matching = .none ∨
      config.demoScadaMode.getD .matching = .matching ∨
        config.demoScadaStartCycle.getD 0 ≤ 0 ∨ index < config.demoScadaStartCycle.getD 0
  · simp only [if_pos hinactive, Bool.false_eq_true] at hactive
  · simp only [if_neg hinactive] at hmode ⊢
    simp only [hmode, List.foldl_cons, List.foldl_nil, overrideSensor, Service.setSensorOverride,
      Service.clearOverrides]
    cases sensor <;> simp [Function.update]

theorem runCycle_eq_ok {service service' : Service F} {cycle : Cycle F} {row : CycleRow F} :
    runCycle service cycle = .ok (row, service') ↔ row.cycle = cycle ∧
      row.stage = (configureScadaReplayRuntimeStage service cycle.config cycle.index).1 ∧
      Service.updateFromConsensusedState
        (configureScadaReplayRuntimeStage service cycle.config cycle.index).2 cycle.validState
        cycle.sourceReplicatedState = .ok (row.state, service') := by
  obtain ⟨cycle', stage, state⟩ := row
  rw [runCycle, Except.bind_eq_ok]
  constructor
  · intro ⟨⟨state', updated⟩, hupdate, hrow⟩
    cases hrow
    exact ⟨rfl, rfl, hupdate⟩
  · intro ⟨hcycle, hstage, hupdate⟩
    simp only at hcycle hstage hupdate
    subst hcycle hstage
    exact ⟨_, hupdate, rfl⟩

theorem value_of_inactive {service service' : Service F} {cycle : Cycle F} {row : CycleRow F}
    (h : runCycle service cycle = .ok (row, service')) (hinactive : row.stage.active = false)
    (sensor : Sensor) : some (row.value sensor) = (row.consensused sensor).map PyArith.round3 := by
  obtain ⟨hcycle, hstage, hupdate⟩ := runCycle_eq_ok.mp h
  obtain ⟨v, hv, hvalue⟩ := value_of_update hupdate sensor
  rw [hstage] at hinactive
  rw [configure_of_inactive hinactive] at hvalue
  rw [CycleRow.consensused, hcycle, hv, Option.map_some, CycleRow.value, hvalue]
  rfl

theorem value_of_frozen {service service' : Service F} {cycle : Cycle F} {row : CycleRow F}
    (h : runCycle service cycle = .ok (row, service')) (hfrozen : row.Frozen) (sensor : Sensor) :
    some (row.value sensor) = row.frozenBase sensor := by
  obtain ⟨hcycle, hstage, hupdate⟩ := runCycle_eq_ok.mp h
  obtain ⟨v, hv, hvalue⟩ := value_of_update hupdate sensor
  rw [CycleRow.Frozen, hstage] at hfrozen
  obtain ⟨hmode, hfixed, hnone⟩ := configure_of_freeze hfrozen.1 hfrozen.2 sensor
  rw [CycleRow.frozenBase, CycleRow.consensused, hcycle, hv, Option.map_some, CycleRow.value,
    hvalue]
  simp only [Service.applySupervisoryOverride, hmode, hnone, hfixed, Option.getD_none]

/-- Every row of a run comes from a cycle on some service. -/
theorem runCycle_of_mem {service : Service F} {cycles : List (Cycle F)} {rows : List (CycleRow F)}
    (h : runCycles service cycles = .ok rows) :
    ∀ row ∈ rows, ∃ service service', runCycle service row.cycle = .ok (row, service') := by
  induction cycles generalizing service rows with
  | nil =>
    rw [runCycles, Except.ok.injEq] at h
    subst h
    intro row hrow
    cases hrow
  | cons cycle cycles ih =>
    rw [runCycles, Except.bind_eq_ok] at h
    obtain ⟨⟨row, service'⟩, hrow, h⟩ := h
    obtain ⟨rest, hrest, h⟩ := Except.bind_eq_ok.mp h
    cases h
    have hcycle := (runCycle_eq_ok.mp hrow).1
    exact List.forall_mem_cons.mpr ⟨⟨service, service', hcycle ▸ hrow⟩, ih hrest⟩

/-- A run keeps its values frozen exactly when the consensus repeats them. -/
theorem frozenHolds_iff {service : Service F} {cycles : List (Cycle F)} {rows : List (CycleRow F)}
    (h : runCycles service cycles = .ok rows) : FrozenHolds rows ↔ SteadyConsensus rows := by
  have hinactive : ∀ row ∈ rows, row.stage.active = false → ∀ sensor,
      some (row.value sensor) = (row.consensused sensor).map PyArith.round3 := by
    intro row hrow hactive
    obtain ⟨_, _, hcycle⟩ := runCycle_of_mem h row hrow
    exact value_of_inactive hcycle hactive
  have hvalue {stretch : List (CycleRow F)} (hstretch : FrozenStretch rows stretch) :
      ∀ row ∈ stretch, ∀ sensor, some (row.value sensor) = row.frozenBase sensor := by
    intro row hrow
    obtain ⟨before, after, rfl, hfrozen, -⟩ := hstretch
    obtain ⟨_, _, hcycle⟩ := runCycle_of_mem h row (by simp [hrow])
    exact value_of_frozen hcycle (hfrozen row hrow)
  rw [FrozenHolds, and_iff_left hinactive]
  refine forall₂_congr fun stretch hstretch => forall₂_congr fun first hfirst =>
    forall₂_congr fun row hrow => forall_congr' fun sensor => ?_
  rw [← hvalue hstretch row hrow sensor,
    ← hvalue hstretch first (List.mem_of_mem_head? hfirst) sensor, Option.some.injEq]

/-! ## Two frozen cycles -/

def noon : Consensus.DateTime := ⟨2025, 1, 1, 12, 0, 0, 0, some 0⟩

/-- A state with the same value for every sensor. -/
def agreedState (v : ℚ) : ConsensusedValidState ℚ where
  roundIdentity := ⟨"round-1", noon, noon, by decide⟩
  sourceEdges := ["edge-1", "edge-2", "edge-3"]
  sensorValues := List.toFinmap [⟨"temperature", v⟩, ⟨"pressure", v⟩, ⟨"rpm", v⟩]

/-- A cycle that freezes, from cycle 1 on. -/
def freezeCycle (index : Int) (v : ℚ) : Cycle ℚ :=
  ⟨⟨some .freeze, some 1, none⟩, index, agreedState v, none⟩

theorem runCycles_freezeCycle (v w : ℚ) : ∃ first second,
    runCycles (Service.new "compressor-1") [freezeCycle 1 v, freezeCycle 2 w] =
      .ok [first, second] ∧ first.Frozen ∧ second.Frozen ∧
      (∀ sensor, first.frozenBase sensor = some (PyArith.round3 (PyArith.round3 v))) ∧
      ∀ sensor, second.frozenBase sensor = some (PyArith.round3 (PyArith.round3 w)) := by
  refine ⟨_, _, rfl, ⟨rfl, rfl⟩, ⟨rfl, rfl⟩, fun sensor => ?_, fun sensor => ?_⟩
  · cases sensor <;> rfl
  · cases sensor <;> rfl

/-- The consensus moves from 50 to 60, and the frozen value with it. -/
theorem driftingCycles_not_frozen : ∃ rows,
    runCycles (Service.new "compressor-1") [freezeCycle 1 50, freezeCycle 2 60] = .ok rows ∧
      ¬FrozenHolds rows := by
  obtain ⟨first, second, hrun, hfirst, hsecond, hbase, hbase'⟩ := runCycles_freezeCycle 50 60
  refine ⟨_, hrun, fun h => ?_⟩
  have hstretch : FrozenStretch [first, second] [first, second] :=
    ⟨[], [], rfl, by simp [hfirst, hsecond], by simp, by simp⟩
  have hvalue (row : CycleRow ℚ) (hrow : row ∈ [first, second]) (hfrozen : row.Frozen) :
      some (row.value .rpm) = row.frozenBase .rpm := by
    obtain ⟨_, _, hcycle⟩ := runCycle_of_mem hrun row hrow
    exact value_of_frozen hcycle hfrozen .rpm
  have hsame := h.1 _ hstretch first rfl second (by simp) .rpm
  have hdrift : some (second.value .rpm) = some (first.value .rpm) := congrArg some hsame
  rw [hvalue first (by simp) hfirst, hvalue second (by simp) hsecond, hbase, hbase',
    Option.some.injEq] at hdrift
  exact absurd hdrift (by decide +kernel)

theorem steadyCycles_frozen : ∃ rows,
    runCycles (Service.new "compressor-1") [freezeCycle 1 50, freezeCycle 2 50] = .ok rows ∧
      FrozenHolds rows := by
  obtain ⟨first, second, hrun, -, -, hbase, hbase'⟩ := runCycles_freezeCycle 50 50
  refine ⟨_, hrun, (frozenHolds_iff hrun).mpr ?_⟩
  intro stretch hstretch first' hfirst row hrow sensor
  have hall : ∀ row ∈ stretch, row.frozenBase sensor =
      some (PyArith.round3 (PyArith.round3 50)) := by
    intro row hrow
    obtain ⟨before, after, hsplit, -⟩ := hstretch
    have hmem : row ∈ [first, second] := by
      rw [hsplit]
      simp [hrow]
    rcases List.mem_pair.mp hmem with rfl | rfl
    · exact hbase sensor
    · exact hbase' sensor
  rw [hall row hrow, hall first' (List.mem_of_mem_head? hfirst)]

end TruthFingerprint.Scada
