import Mathlib
import TruthFingerprint.Demo.Cycle
import TruthFingerprint.Lstm.LifecycleLemmas

/-!
# What a run leaves for training

The valid artifacts of a run are those that its cycles have persisted, the last one for every round.
A training window holds only artifacts of clean cycles: a success without divergence, without a fault
and with a SCADA side that matches. A clean cycle is read unless a later one persists its round again.
-/

namespace TruthFingerprint.Demo

open Consensus (PyError)
open Lstm (ArtifactStore DatasetContext Numerics StoredArtifact TrainingDatasetManifest
  TrainingWindow)
open Persistence (AuditPackage)
open Scada (ScadaReplayRuntimeStage Sensor)
open ScenarioControl (RuntimeConfig RuntimeScenarioControlStage)

variable {F A : Type}

/-! ## Frames -/

/-- The two stores have the same valid artifacts. -/
def SameArtifacts (store store' : ArtifactStore F A) : Prop :=
  ∀ key, ArtifactStore.isJsonKey Lstm.validArtifactPrefix key → store'.load key = store.load key

theorem SameArtifacts.refl (store : ArtifactStore F A) : SameArtifacts store store :=
  fun _ _ => rfl

theorem SameArtifacts.trans {store store' store'' : ArtifactStore F A}
    (h : SameArtifacts store store') (h' : SameArtifacts store' store'') :
    SameArtifacts store store'' :=
  fun key hkey => (h' key hkey).trans (h key hkey)

theorem sameArtifacts_save {store : ArtifactStore F A} {key : Text} {object : Lstm.StoredObject F A}
    (h : ¬ArtifactStore.isJsonKey Lstm.validArtifactPrefix key) :
    SameArtifacts store (store.save key object) :=
  fun _ hother => ArtifactStore.load_save_of_ne fun heq => h (heq ▸ hother)

section Frames

variable {numerics : Numerics F A} {store store' : ArtifactStore F A}

theorem sameArtifacts_persist {dataset : List (TrainingWindow F) × TrainingDatasetManifest}
    {now rest : Text} {result : Option Lstm.PersistedTrainingDatasetArtifact}
    (h : Lstm.persistTrainingDatasetArtifacts numerics store dataset now
      (Lstm.datasetPrefix ++ rest) = (store', result)) :
    SameArtifacts store store' := by
  have hmanifest := (Lstm.isDatasetKey_manifestKey rest dataset.2.datasetId).not_valid
  have hwindows := (Lstm.isDatasetKey_windowsKey rest dataset.2.datasetId).not_valid
  rcases Lstm.persist_cases h with ⟨-, rfl⟩ | ⟨archive, -, -, rfl⟩
  · exact sameArtifacts_save hmanifest
  · exact (sameArtifacts_save hmanifest).trans (sameArtifacts_save hwindows)

theorem sameArtifacts_persist_training
    {dataset : List (TrainingWindow F) × TrainingDatasetManifest} {now : Text}
    {result : Option Lstm.PersistedTrainingDatasetArtifact}
    (h : Lstm.persistTrainingDatasetArtifacts numerics store dataset now Lstm.datasetPrefix =
      (store', result)) : SameArtifacts store store' := by
  rw [← List.append_nil Lstm.datasetPrefix] at h
  exact sameArtifacts_persist h

theorem sameArtifacts_train {key now : Text}
    {result : Option (Lstm.FingerprintModelArtifact × List (TrainingWindow F))}
    (h : Lstm.trainAndSaveFromPersistedDataset numerics store key now = (store', result)) :
    SameArtifacts store store' := by
  cases result with
  | none => rw [Lstm.train_eq_none h]; exact .refl store
  | some trained =>
    obtain ⟨-, weights, modelId, -, -, -, rfl⟩ := Lstm.train_eq_some h
    exact (sameArtifacts_save (Lstm.not_valid_weightsKey modelId)).trans
      (sameArtifacts_save (Lstm.not_valid_metadataKey modelId))

variable [FloatArith F] {config : Lstm.LifecycleConfig F A}
  {training : List (TrainingWindow F) × TrainingDatasetManifest}

omit [FloatArith F] in
theorem sameArtifacts_trainingCall {cycleIndex : Int} {now : Text} :
    SameArtifacts store (config.trainingCall store cycleIndex now training).store := by
  rw [Lstm.LifecycleConfig.trainingCall]
  split
  next hpersist => exact sameArtifacts_persist_training hpersist
  next hpersist =>
    have hdataset := sameArtifacts_persist_training hpersist
    split
    next htrain => exact hdataset.trans (sameArtifacts_train htrain)
    next htrain => exact hdataset.trans (sameArtifacts_train htrain)

theorem sameArtifacts_reusingCall {cycleIndex : Int} {now modelKey : Text} :
    SameArtifacts store (config.reusingCall store cycleIndex now modelKey training).store := by
  rw [Lstm.LifecycleConfig.reusingCall]
  split
  next hpersist => exact sameArtifacts_persist_training hpersist
  next hpersist =>
    have hdataset := sameArtifacts_persist_training hpersist
    split
    · exact hdataset
    · dsimp only
      split
      next hevaluation => exact hdataset.trans (sameArtifacts_persist hevaluation)
      next hevaluation =>
        have hboth := hdataset.trans (sameArtifacts_persist hevaluation)
        split_ifs
        · exact hboth
        · exact hboth

/-- The lifecycle saves no valid artifact. -/
theorem sameArtifacts_lifecycle {cycleIndex : Int} {now : Text} :
    SameArtifacts store
      (config.executeDeferredFingerprintLifecycle store cycleIndex now).store := by
  rw [Lstm.LifecycleConfig.executeDeferredFingerprintLifecycle]
  split
  · exact .refl store
  · split
    · split_ifs
      · exact .refl store
      · exact sameArtifacts_trainingCall
    · exact sameArtifacts_reusingCall

end Frames

/-! ## What a cycle persists -/

/-- The artifact that a cycle has persisted -/
def persistedBy (result : Except PyError (CycleResult F)) : Option (StoredArtifact F) :=
  match result with
  | .ok result => result.validation.persistenceStage.stored
  | .error _ => none

/-- A success without a divergent sensor, under a configuration that is normal in effect -/
def Clean : Except PyError (CycleResult F) → Prop
  | .ok result => result.finalStatus = .success ∧ result.validation.divergentSensors = [] ∧
    result.cycleConfig.Normal
  | .error _ => False

instance : DecidablePred (Clean (F := F))
  | .ok _ => inferInstanceAs (Decidable (_ ∧ _ ∧ _))
  | .error _ => inferInstanceAs (Decidable False)

/-- What a persisted artifact says: it is stored under its round, and is eligible for training
exactly if the stage was. -/
structure Faithful (eligible : Prop) (stored : StoredArtifact F) : Prop where
  key : stored.1 = Lstm.validArtifactPrefix ++ stored.2.roundId ++ text ".json"
  eligible : (Lstm.evaluateTrainingEligibility stored.2).1 ↔ eligible

/-- The label of a cycle without a divergent sensor is normal exactly if its stage is eligible. -/
theorem buildDatasetContext_cases {config : RuntimeConfig F} {cycleIndex : Int}
    {stage : RuntimeScenarioControlStage} {scadaReplayStage : ScadaReplayRuntimeStage}
    (hstage : ScenarioControl.resolveRuntimeScenarioControlStage config cycleIndex = .ok stage)
    (hscada : stage.trainingEligible → scadaReplayStage.active = false) :
    let context := buildDatasetContext
      (ScenarioControl.applyRuntimeScenarioControl config stage).demoFaultMode [] stage
      scadaReplayStage
    (context.trainingEligible ↔ stage.trainingEligible) ∧
      (stage.trainingEligible → context.trainingLabel = text "normal") := by
  intro context
  by_cases heligible : stage.trainingEligible
  · have hnormal := (ScenarioControl.trainingEligible_iff hstage).mp heligible
    have hlabel := ScenarioControl.trainingLabel_of_eligible hstage heligible
    have hcontext : context = datasetContextOf stage.scenarioLabel stage.trainingLabel
        stage.trainingEligible stage.trainingEligibilityReason := by
      simp only [context, buildDatasetContext, heligible, hscada heligible, hnormal.1]
      rfl
    rw [hcontext]
    exact ⟨Iff.rfl, fun _ => congrArg text hlabel⟩
  · have hcontext : context = datasetContextOf stage.scenarioLabel stage.trainingLabel
        stage.trainingEligible stage.trainingEligibilityReason := by
      simp only [context, buildDatasetContext, heligible]
      rfl
    rw [hcontext]
    exact ⟨Iff.rfl, fun h => absurd h heligible⟩

/-- A stage that is eligible leaves the SCADA side inactive. -/
theorem scada_inactive [Scada.BehavioralArith F] {config : RuntimeConfig F}
    (service : Scada.Service F) (cycleIndex : Int) (h : config.Normal) :
    (Scada.configureScadaReplayRuntimeStage service config.scada cycleIndex).1.active = false := by
  rw [Scada.configureScadaReplayRuntimeStage, RuntimeConfig.scada]
  simp only [h.2, Option.getD_some]
  rfl

variable [Scada.BehavioralArith F]

omit [Scada.BehavioralArith F] in
/-- What the persistence of a cycle without a divergent sensor does -/
theorem persistStage_cases {store store' : ArtifactStore F A} {audit : AuditPackage F}
    {comparison : Comparison.ScadaComparisonOutput F} {context : DatasetContext}
    {storeAccepts : Bool} {stage : PersistenceStage F}
    (hconverged : comparison.divergentSensors = [])
    (hlabel : context.trainingEligible → context.trainingLabel = text "normal")
    (h : persistStage store audit comparison context storeAccepts = (store', stage)) :
    (store' = store ∧ stage.stored = none) ∨
      ∃ stored, stage = .persisted stored ∧ audit.finalStatus = .success ∧
        store' = store.save stored.1 (.artifact stored.2) ∧
        Faithful (context.trainingEligible = true) stored := by
  rw [persistStage] at h
  split at h
  next stored hstored =>
    split_ifs at h
    · cases h
      obtain ⟨hsuccess, validState, -, hkey, hround, -, hstatus, hcontext, hdivergence⟩ :=
        Persistence.persist_eq_ok hstored
      refine .inr ⟨stored, rfl, hsuccess, rfl, ?_, ?_⟩
      · rw [hkey, hround]
        rfl
      · rw [Lstm.evaluateTrainingEligibility, if_neg (not_not.mpr hstatus), hcontext, hdivergence,
          hconverged]
        by_cases heligible : context.trainingEligible
        · simp [heligible, hlabel heligible]
        · by_cases hnormal : context.trainingLabel = text "normal"
          · simp [heligible, hnormal]
          · simp [heligible, hnormal]
    · cases h
      exact .inl ⟨rfl, rfl⟩
  next => cases h; exact .inl ⟨rfl, rfl⟩
  next => cases h; exact .inl ⟨rfl, rfl⟩

/-- What the comparison and the persistence of a cycle do to the valid artifacts. -/
theorem validation_step {state state' : DemoState F A} {audit : AuditPackage F}
    {config : RuntimeConfig F} {cycleIndex : Int} {stage : RuntimeScenarioControlStage}
    {scadaReplayStage : ScadaReplayRuntimeStage} {storeAccepts : Bool}
    {result : Except PyError (Validation F)}
    (hstage : ScenarioControl.resolveRuntimeScenarioControlStage config cycleIndex = .ok stage)
    (hscada : stage.trainingEligible → scadaReplayStage.active = false)
    (h : runScadaComparisonAndPersistence state audit
      (ScenarioControl.applyRuntimeScenarioControl config stage).demoFaultMode stage
      scadaReplayStage storeAccepts = (state', result)) :
    (state'.store = state.store ∧
        ∀ validation, result = .ok validation → validation.persistenceStage.stored = none) ∨
      ∃ stored, result = .ok ⟨[], .persisted stored⟩ ∧ audit.finalStatus = .success ∧
        state'.store = state.store.save stored.1 (.artifact stored.2) ∧
        Faithful (stage.trainingEligible = true) stored := by
  rw [runScadaComparisonAndPersistence] at h
  split at h
  next =>
    cases h
    refine .inl ⟨rfl, fun validation heq => ?_⟩
    cases heq
    rfl
  next validState hvalid =>
    split at h
    next => cases h; exact .inl ⟨rfl, nofun⟩
    next source hsource =>
      split at h
      next => cases h; exact .inl ⟨rfl, nofun⟩
      next scadaState service hupdate =>
        split at h
        next => cases h; exact .inl ⟨rfl, nofun⟩
        next comparison hcomparison =>
          dsimp only at h
          by_cases hdivergent : comparison.divergentSensors = []
          · rw [if_neg (not_not.mpr hdivergent), hdivergent] at h
            obtain ⟨heligible, hlabel⟩ := buildDatasetContext_cases hstage hscada
            generalize hpersist : persistStage state.store audit comparison _ storeAccepts =
              persisted at h
            obtain ⟨store, persistence⟩ := persisted
            cases h
            rcases persistStage_cases hdivergent (fun h => hlabel (heligible.mp h)) hpersist with
              ⟨hstore, hnone⟩ | ⟨stored, hstored, hsuccess, hstore, hfaithful⟩
            · refine .inl ⟨hstore, fun validation heq => ?_⟩
              cases heq
              exact hnone
            · refine .inr ⟨stored, by rw [hstored], hsuccess, hstore, hfaithful.key, ?_⟩
              exact hfaithful.eligible.trans heligible
          · rw [if_pos hdivergent] at h
            cases h
            refine .inl ⟨rfl, fun validation heq => ?_⟩
            cases heq
            rfl

/-! ## Cycles and runs -/

variable {numerics : Numerics F A}

theorem sameArtifacts_pipeline {store : ArtifactStore F A} {input : CycleInput F}
    {persisted : Bool} :
    SameArtifacts store (executeFingerprintPipeline numerics store input persisted).1 := by
  rw [executeFingerprintPipeline]
  split_ifs
  · exact .refl store
  · dsimp only
    split
    · exact sameArtifacts_lifecycle.trans (sameArtifacts_persist_training rfl)
    · exact sameArtifacts_lifecycle

/-- A cycle persists nothing, or an artifact that is eligible exactly if the cycle is clean. -/
theorem cycle_step {state state' : DemoState F A} {input : CycleInput F}
    {result : Except PyError (CycleResult F)}
    (h : executeDemoCycle numerics state input = (state', result)) :
    (persistedBy result = none ∧ SameArtifacts state.store state'.store) ∨
      ∃ stored, persistedBy result = some stored ∧ Faithful (Clean result) stored ∧
        SameArtifacts (state.store.save stored.1 (.artifact stored.2)) state'.store := by
  rw [executeDemoCycle] at h
  split at h
  next => cases h; exact .inl ⟨rfl, .refl _⟩
  next stage hstage =>
    dsimp only at h
    split at h
    next => cases h; exact .inl ⟨rfl, .refl _⟩
    next audit haudit =>
      have hscada (heligible : stage.trainingEligible) :=
        scada_inactive state.service input.cycleIndex
          ((ScenarioControl.trainingEligible_iff hstage).mp heligible)
      split at h
      next validated error hvalidation =>
        cases h
        rcases validation_step hstage hscada hvalidation with ⟨hstore, -⟩ | ⟨stored, hok, -⟩
        · refine .inl ⟨rfl, ?_⟩
          rw [hstore]
          exact .refl _
        · cases hok
      next validated validation hvalidation =>
        cases h
        rcases validation_step hstage hscada hvalidation with
          ⟨hstore, hnone⟩ | ⟨stored, hok, hsuccess, hstore, hfaithful⟩
        · refine .inl ⟨hnone validation rfl, ?_⟩
          rw [← hstore]
          exact sameArtifacts_pipeline
        · cases hok
          refine .inr ⟨stored, rfl, ⟨hfaithful.key, ?_⟩, ?_⟩
          · rw [hfaithful.eligible, ScenarioControl.trainingEligible_iff hstage]
            exact ⟨fun hnormal => ⟨hsuccess, rfl, hnormal⟩, fun hclean => hclean.2.2⟩
          · rw [← hstore]
            exact sameArtifacts_pipeline

/-- The last artifact that was persisted under a key -/
def lastStored : List (Except PyError (CycleResult F)) → Text → Option (StoredArtifact F)
  | [], _ => none
  | result :: results, key =>
    (lastStored results key).or ((persistedBy result).filter (·.1 = key))

section LastStored

omit [Scada.BehavioralArith F]

variable {results before after : List (Except PyError (CycleResult F))} {key : Text}
  {result : Except PyError (CycleResult F)} {stored : StoredArtifact F}

theorem lastStored_eq_some (h : lastStored results key = some stored) :
    stored.1 = key ∧ ∃ result ∈ results, persistedBy result = some stored := by
  induction results with
  | nil => cases h
  | cons result results ih =>
    rcases Option.or_eq_some_iff.mp h with h | ⟨-, h⟩
    · obtain ⟨hkey, result, hresult, hstored⟩ := ih h
      exact ⟨hkey, result, List.mem_cons_of_mem _ hresult, hstored⟩
    · obtain ⟨hstored, hkey⟩ := Option.filter_eq_some_iff.mp h
      exact ⟨of_decide_eq_true hkey, result, List.mem_cons_self, hstored⟩

theorem lastStored_eq_none (h : ∀ result ∈ results, ∀ stored, persistedBy result = some stored →
    stored.1 ≠ key) : lastStored results key = none := by
  cases hlast : lastStored results key with
  | none => rfl
  | some stored =>
    obtain ⟨hkey, result, hresult, hstored⟩ := lastStored_eq_some hlast
    exact absurd hkey (h result hresult stored hstored)

theorem lastStored_of_last (hstored : persistedBy result = some stored)
    (hlast : ∀ later ∈ after, ∀ stored', persistedBy later = some stored' →
      stored'.1 ≠ stored.1) :
    lastStored (before ++ result :: after) stored.1 = some stored := by
  induction before with
  | nil =>
    rw [List.nil_append, lastStored, lastStored_eq_none hlast, Option.none_or, hstored]
    exact Option.filter_eq_some_iff.mpr ⟨rfl, decide_eq_true rfl⟩
  | cons first before ih => rw [List.cons_append, lastStored, ih, Option.some_or]

end LastStored

theorem runDemo_cons {state state' : DemoState F A} {input : CycleInput F}
    {inputs : List (CycleInput F)} {results : List (Except PyError (CycleResult F))}
    (h : runDemo numerics state (input :: inputs) = (state', results)) :
    ∃ state₁ result rest, executeDemoCycle numerics state input = (state₁, result) ∧
      runDemo numerics state₁ inputs = (state', rest) ∧ results = result :: rest := by
  rw [runDemo] at h
  split at h
  next state₁ result hcycle =>
    split at h
    next state₂ rest hrun =>
      cases h
      exact ⟨state₁, result, rest, hcycle, hrun, rfl⟩

/-- After a run, a valid artifact is the last one under its key, or one that was there before. -/
theorem load_of_run {state state' : DemoState F A} {inputs : List (CycleInput F)}
    {results : List (Except PyError (CycleResult F))}
    (h : runDemo numerics state inputs = (state', results)) {key : Text}
    (hkey : ArtifactStore.isJsonKey Lstm.validArtifactPrefix key) :
    state'.store.load key =
      ((lastStored results key).map fun stored => .artifact stored.2).or (state.store.load key) := by
  induction inputs generalizing state results with
  | nil =>
    cases h
    rfl
  | cons input inputs ih =>
    obtain ⟨state₁, result, rest, hcycle, hrun, rfl⟩ := runDemo_cons h
    rw [ih hrun, lastStored]
    cases hlast : lastStored rest key with
    | some stored => rfl
    | none =>
      rw [Option.none_or, Option.map_none, Option.none_or]
      rcases cycle_step hcycle with ⟨hnone, hsame⟩ | ⟨stored, hstored, -, hsame⟩
      · rw [hnone, hsame key hkey]
        rfl
      · rw [hstored, hsame key hkey]
        by_cases heq : stored.1 = key
        · rw [Option.filter_some, if_pos (decide_eq_true heq), ← heq, ArtifactStore.load_save]
          rfl
        · rw [Option.filter_some, if_neg (by simpa using heq),
            ArtifactStore.load_save_of_ne (Ne.symm heq)]
          rfl

/-- Every artifact that a run persists is eligible exactly if its cycle is clean. -/
theorem faithful_of_run {state state' : DemoState F A} {inputs : List (CycleInput F)}
    {results : List (Except PyError (CycleResult F))}
    (h : runDemo numerics state inputs = (state', results))
    {result : Except PyError (CycleResult F)} (hresult : result ∈ results)
    {stored : StoredArtifact F} (hstored : persistedBy result = some stored) :
    Faithful (Clean result) stored := by
  induction inputs generalizing state results with
  | nil =>
    cases h
    cases hresult
  | cons input inputs ih =>
    obtain ⟨state₁, first, rest, hcycle, hrun, rfl⟩ := runDemo_cons h
    rcases List.mem_cons.mp hresult with rfl | hresult
    · rcases cycle_step hcycle with ⟨hnone, -⟩ | ⟨stored', hstored', hfaithful, -⟩
      · rw [hnone] at hstored
        cases hstored
      · rw [hstored'] at hstored
        cases hstored
        exact hfaithful
    · exact ih hrun hresult

/-! ## The training history of a run -/

/-- The store of a run from an empty one holds nothing but its artifacts. -/
theorem validArtifacts_of_run {service : Scada.Service F} {bucket : Text}
    {inputs : List (CycleInput F)} {state : DemoState F A}
    {results : List (Except PyError (CycleResult F))}
    (h : runDemo numerics ⟨service, ⟨bucket, ∅⟩⟩ inputs = (state, results)) :
    ∃ artifacts, state.store.validArtifacts = some artifacts ∧ ∀ stored : StoredArtifact F,
      stored ∈ artifacts ↔ ArtifactStore.isJsonKey Lstm.validArtifactPrefix stored.1 ∧
        lastStored results stored.1 = some stored := by
  have hload {key : Text} (hkey : ArtifactStore.isJsonKey Lstm.validArtifactPrefix key) :
      state.store.load key = (lastStored results key).map fun stored => .artifact stored.2 := by
    rw [load_of_run h hkey]
    exact Option.or_none
  have hloads : ∀ key ∈ state.store.listJsonObjects Lstm.validArtifactPrefix,
      (state.store.loadArtifact key).isSome := by
    intro key hkey
    obtain ⟨hisSome, hjson⟩ := ArtifactStore.mem_listJsonObjects.mp hkey
    rw [hload hjson, Option.isSome_map] at hisSome
    obtain ⟨stored, hstored⟩ := Option.isSome_iff_exists.mp hisSome
    have hloaded : state.store.loadArtifact key = some (key, stored.2) :=
      ArtifactStore.loadArtifact_eq_some.mpr ⟨rfl, by rw [hload hjson, hstored]; rfl⟩
    rw [hloaded]
    rfl
  have hartifacts := ArtifactStore.validArtifacts_eq_some.mpr ⟨hloads, rfl⟩
  refine ⟨_, hartifacts, fun stored => ?_⟩
  rw [ArtifactStore.mem_validArtifacts hartifacts]
  refine and_congr_right fun hkey => ?_
  rw [hload hkey, Option.map_eq_some_iff]
  constructor
  · rintro ⟨last, hlast, heq⟩
    have hpair : last = stored :=
      Prod.ext (lastStored_eq_some hlast).1 (Lstm.StoredObject.artifact.inj heq)
    rw [hlast, hpair]
  · intro hlast
    exact ⟨stored, hlast, rfl⟩

section Windows

variable {records : List (Lstm.EligibleArtifact F)} {schema : List Text} {sequenceLength : Nat}
  {key : Text}

omit [Scada.BehavioralArith F] in
theorem mem_of_window {window : TrainingWindow F}
    (h : window ∈ Lstm.windowsOf records schema sequenceLength) (hkey : key ∈ window.artifactKeys) :
    key ∈ records.map (·.artifactKey) := by
  rw [Lstm.windowsOf] at h
  split_ifs at h
  · cases h
  · obtain ⟨start, -, rfl⟩ := List.mem_map.mp h
    obtain ⟨record, hrecord, rfl⟩ := List.mem_map.mp hkey
    exact List.mem_map.mpr ⟨record, List.mem_of_mem_drop (List.mem_of_mem_take hrecord), rfl⟩

theorem mem_selectedKeys {selected : List (StoredArtifact F)} :
    key ∈ (Lstm.eligibleRecords selected).map (·.artifactKey) ↔ ∃ stored ∈ selected,
      stored.1 = key := by
  simp only [Lstm.eligibleRecords, List.mem_map, List.mem_insertionSort]
  constructor
  · rintro ⟨record, ⟨stored, hstored, rfl⟩, rfl⟩
    exact ⟨stored, hstored, rfl⟩
  · rintro ⟨stored, hstored, rfl⟩
    exact ⟨_, ⟨stored, hstored, rfl⟩, rfl⟩

end Windows

/-- Archives and models that cannot be written -/
def idleNumerics : Numerics ℚ Unit := ⟨fun _ _ _ => none, fun _ _ => none, fun _ => none,
  fun _ _ => none, fun _ => 0⟩

/-- A cycle in a fault mode that agrees on the same round -/
def sampleCycle (faultMode : String) : CycleInput ℚ where
  cycleIndex := 1
  config :=
    { demoScenarioName := ""
      demoScenarioStartCycle := 1
      demoFaultMode := faultMode
      demoScadaMode := .matching
      demoScadaStartCycle := 0
      demoScadaOffsetValue := 6
      demoDisableRuntimeAutoencoder := true
      demoFingerprintSequenceLength := 1
      demoTrainAfterEligibleCycles := 2 }
  audit :=
    let payload : Scada.SourcePayload ℚ := ⟨12, 50, 0, 0, 0, false, false, false⟩
    .ok
      { roundIdentity := (Scada.agreedState 50).roundIdentity
        replicatedStates := [⟨"edge-1", (((∅ : AList fun _ : String => Scada.SourcePayload ℚ).insert
          "temperature" payload).insert "pressure" payload).insert "rpm" payload⟩]
        finalStatus := .success
        consensusedValidState := some (Scada.agreedState 50) }
  now := text "2025-01-01T12:01:00"
  storeAccepts := true
  replayDataset := none

/-- A clean cycle, and then an exclusion that persists the same round -/
def sampleRun : DemoState ℚ Unit × List (Except PyError (CycleResult ℚ)) :=
  runDemo idleNumerics ⟨Scada.Service.new "compressor-1", ⟨text "bucket", ∅⟩⟩
    [sampleCycle "none", sampleCycle "single_edge_exclusion"]

/-- An artifact that is neither selected for training nor skipped because of its schema -/
def Missing (artifacts : List (StoredArtifact ℚ)) (stored : StoredArtifact ℚ) : Prop :=
  let manifest := (Lstm.buildNormalTrainingWindows sampleRun.1.store.bucket 1 artifacts).2
  stored.1 ∉ manifest.selectedArtifactKeys ∧
    (stored.1, text "feature_schema_mismatch") ∉ manifest.skippedArtifacts

instance (artifacts : List (StoredArtifact ℚ)) (stored : StoredArtifact ℚ) :
    Decidable (Missing artifacts stored) :=
  inferInstanceAs (Decidable (_ ∧ _))

end TruthFingerprint.Demo
