import Mathlib
import TruthFingerprint.Scada.ReplayBehavior

/-!
# Scenario control

A configuration names one scenario, by itself or through its fault mode or its SCADA mode. The stage
of a cycle overrides both modes and labels the cycle. It is eligible for training exactly if the
modes that it leaves are no fault and a match (`trainingEligible_iff`).
-/

namespace TruthFingerprint.ScenarioControl

open Consensus (PyError)
open Scada (ScadaMode ScadaConfig)

/-- What the cycles read of the configuration -/
structure RuntimeConfig (F : Type) where
  demoScenarioName : String
  demoScenarioStartCycle : Int
  demoFaultMode : String
  demoScadaMode : ScadaMode
  demoScadaStartCycle : Int
  demoScadaOffsetValue : F
  demoDisableRuntimeAutoencoder : Bool
  demoFingerprintSequenceLength : Int
  demoTrainAfterEligibleCycles : Int

def RuntimeConfig.scada {F : Type} (config : RuntimeConfig F) : ScadaConfig F :=
  ⟨some config.demoScadaMode, some config.demoScadaStartCycle, some config.demoScadaOffsetValue⟩

structure RuntimeScenarioControlStage where
  configuredScenario : String
  activeScenario : String
  startCycle : Int
  active : Bool
  faultMode : String
  scadaMode : ScadaMode
  scenarioLabel : String
  trainingLabel : String
  trainingEligible : Bool
  trainingEligibilityReason : String
  expectedOutputChannels : List String
deriving DecidableEq

/-- A character that `str.strip` removes -/
def isStripped (c : Char) : Bool :=
  let n := c.toNat
  (0x9 ≤ n && n ≤ 0xd) || (0x1c ≤ n && n ≤ 0x20) || n = 0x85 || n = 0xa0 || n = 0x1680 ||
    (0x2000 ≤ n && n ≤ 0x200a) || n = 0x2028 || n = 0x2029 || n = 0x202f || n = 0x205f || n = 0x3000

def strip (s : String) : String :=
  String.ofList (((s.toList.dropWhile isStripped).reverse.dropWhile isStripped).reverse)

variable {F : Type}

/-- `_resolve_configured_scenario` -/
def resolveConfiguredScenario (config : RuntimeConfig F) : Except PyError (String × Int) :=
  let explicitScenario := strip config.demoScenarioName
  if explicitScenario ≠ "" then .ok (explicitScenario, config.demoScenarioStartCycle)
  else if (config.demoScadaMode = .replay ∨ config.demoScadaMode = .freeze) ∧
      config.demoFaultMode ≠ "none" then
    .error (.valueError
      "Scenario control supports only one non-normal runtime scenario at a time.")
  else if config.demoScadaMode = .replay then .ok ("scada_replay", config.demoScadaStartCycle)
  else if config.demoScadaMode = .freeze then .ok ("scada_freeze", config.demoScadaStartCycle)
  else if config.demoScadaMode = .offset then .ok ("scada_divergence", config.demoScadaStartCycle)
  else if config.demoFaultMode ≠ "none" then .ok (config.demoFaultMode, 1)
  else .ok ("normal", 1)

/-- The stage of a cycle that is normal -/
def normalStage (configuredScenario : String) (startCycle : Int) (active : Bool) :
    RuntimeScenarioControlStage where
  configuredScenario := configuredScenario
  activeScenario := "normal"
  startCycle := startCycle
  active := active
  faultMode := "none"
  scadaMode := .matching
  scenarioLabel := "normal"
  trainingLabel := "normal"
  trainingEligible := true
  trainingEligibilityReason := "normal_validated_run"
  expectedOutputChannels := ["consensus_alert", "persistence_stage", "fingerprint_lifecycle"]

/-- The stage of a cycle under a scenario -/
def scenarioStage (configuredScenario : String) (startCycle : Int) (faultMode : String)
    (scadaMode : ScadaMode) (scenarioLabel trainingEligibilityReason : String)
    (expectedOutputChannels : List String) : RuntimeScenarioControlStage where
  configuredScenario := configuredScenario
  activeScenario := configuredScenario
  startCycle := startCycle
  active := true
  faultMode := faultMode
  scadaMode := scadaMode
  scenarioLabel := scenarioLabel
  trainingLabel := "non_normal"
  trainingEligible := false
  trainingEligibilityReason := trainingEligibilityReason
  expectedOutputChannels := expectedOutputChannels

/-- The stages of the supported scenarios besides the normal one -/
def stageOfScenario (configuredScenario : String) (startCycle : Int) :
    Option RuntimeScenarioControlStage :=
  if configuredScenario = "scada_replay" then
    some (scenarioStage configuredScenario startCycle "none" .replay "scada_replay" "scada_replay"
      ["consensus_alert", "persistence_stage", "replay_behavior", "fingerprint_inference"])
  else if configuredScenario = "scada_freeze" then
    some (scenarioStage configuredScenario startCycle "none" .freeze "scada_freeze" "scada_freeze"
      ["scada_divergence_alert", "persistence_stage"])
  else if configuredScenario = "scada_divergence" then
    some (scenarioStage configuredScenario startCycle "none" .offset "scada_divergence"
      "scada_divergence" ["scada_divergence_alert", "persistence_stage"])
  else if configuredScenario = "single_edge_exclusion" then
    some (scenarioStage configuredScenario startCycle "single_edge_exclusion" .matching
      "faulty_edge_exclusion" "faulty_edge_exclusion"
      ["consensus_alert", "persistence_stage", "fingerprint_lifecycle"])
  else if configuredScenario = "quorum_loss" then
    some (scenarioStage configuredScenario startCycle "quorum_loss" .matching "quorum_loss"
      "scenario:quorum_loss" ["consensus_alert", "persistence_stage"])
  else none

/-- `resolve_runtime_scenario_control_stage` -/
def resolveRuntimeScenarioControlStage (config : RuntimeConfig F) (cycleIndex : Int) :
    Except PyError RuntimeScenarioControlStage := do
  let (configuredScenario, startCycle) ← resolveConfiguredScenario config
  let startCycle := max startCycle 1
  if configuredScenario = "normal" then pure (normalStage configuredScenario startCycle true)
  else if cycleIndex < startCycle then pure (normalStage configuredScenario startCycle false)
  else match stageOfScenario configuredScenario startCycle with
    | some stage => pure stage
    | none => throw (.valueError ("Unsupported demo scenario '" ++ configuredScenario ++ "'."))

/-- `apply_runtime_scenario_control` -/
def applyRuntimeScenarioControl (config : RuntimeConfig F) (stage : RuntimeScenarioControlStage) :
    RuntimeConfig F :=
  { config with
    demoFaultMode := stage.faultMode
    demoScadaMode := stage.scadaMode
    demoScadaStartCycle := if stage.scadaMode ≠ .matching then stage.startCycle else 0 }

/-- No fault, and a SCADA side that matches -/
def RuntimeConfig.Normal (config : RuntimeConfig F) : Prop :=
  config.demoFaultMode = "none" ∧ config.demoScadaMode = .matching

instance (config : RuntimeConfig F) : Decidable config.Normal :=
  inferInstanceAs (Decidable (_ ∧ _))

theorem stageOfScenario_ineligible {configuredScenario : String} {startCycle : Int}
    {stage : RuntimeScenarioControlStage}
    (h : stageOfScenario configuredScenario startCycle = some stage) :
    stage.trainingEligible = false ∧ ¬(stage.faultMode = "none" ∧ stage.scadaMode = .matching) := by
  rw [stageOfScenario] at h
  split_ifs at h
  · cases h; exact ⟨rfl, by simp [scenarioStage]⟩
  · cases h; exact ⟨rfl, by simp [scenarioStage]⟩
  · cases h; exact ⟨rfl, by simp [scenarioStage]⟩
  · cases h; exact ⟨rfl, by simp [scenarioStage]⟩
  · cases h; exact ⟨rfl, by simp [scenarioStage]⟩

/-- What is resolved: a normal stage, or the stage of a scenario. -/
theorem resolve_cases {config : RuntimeConfig F} {cycleIndex : Int}
    {stage : RuntimeScenarioControlStage}
    (h : resolveRuntimeScenarioControlStage config cycleIndex = .ok stage) :
    (∃ configuredScenario startCycle active,
      stage = normalStage configuredScenario startCycle active) ∨
    ∃ configuredScenario startCycle, stageOfScenario configuredScenario startCycle = some stage := by
  rw [resolveRuntimeScenarioControlStage] at h
  cases hconfigured : resolveConfiguredScenario config with
  | error error =>
    rw [hconfigured] at h
    cases h
  | ok configured =>
    obtain ⟨configuredScenario, startCycle⟩ := configured
    rw [hconfigured] at h
    change (if configuredScenario = "normal" then _ else _) = _ at h
    split_ifs at h
    · cases h; exact .inl ⟨_, _, _, rfl⟩
    · cases h; exact .inl ⟨_, _, _, rfl⟩
    · split at h
      next resolved hresolved =>
        cases h
        exact .inr ⟨_, _, hresolved⟩
      next => cases h

/-- A cycle is eligible for training exactly if it runs without a fault and a SCADA mode. -/
theorem trainingEligible_iff {config : RuntimeConfig F} {cycleIndex : Int}
    {stage : RuntimeScenarioControlStage}
    (h : resolveRuntimeScenarioControlStage config cycleIndex = .ok stage) :
    stage.trainingEligible ↔ (applyRuntimeScenarioControl config stage).Normal := by
  rcases resolve_cases h with ⟨configuredScenario, startCycle, active, rfl⟩ |
    ⟨configuredScenario, startCycle, hscenario⟩
  · exact ⟨fun _ => ⟨rfl, rfl⟩, fun _ => rfl⟩
  · obtain ⟨hineligible, hmodes⟩ := stageOfScenario_ineligible hscenario
    rw [hineligible]
    exact ⟨fun heq => (nomatch heq), fun hnormal => absurd hnormal hmodes⟩

/-- An eligible stage is labelled normal. -/
theorem trainingLabel_of_eligible {config : RuntimeConfig F} {cycleIndex : Int}
    {stage : RuntimeScenarioControlStage}
    (h : resolveRuntimeScenarioControlStage config cycleIndex = .ok stage)
    (heligible : stage.trainingEligible) : stage.trainingLabel = "normal" := by
  rcases resolve_cases h with ⟨configuredScenario, startCycle, active, rfl⟩ |
    ⟨configuredScenario, startCycle, hscenario⟩
  · rfl
  · rw [(stageOfScenario_ineligible hscenario).1] at heligible
    cases heligible

end TruthFingerprint.ScenarioControl
