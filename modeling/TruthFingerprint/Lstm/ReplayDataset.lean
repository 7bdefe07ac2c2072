import Mathlib
import TruthFingerprint.EdgeNodes.RoundStamps
import TruthFingerprint.Lstm.DatasetArtifactsLemmas
import TruthFingerprint.Lstm.DatasetWindows
import TruthFingerprint.Lstm.LifecycleLemmas
import TruthFingerprint.Persistence.Service

/-!
# The replay dataset

A replay is judged by a window whose last row is the SCADA side of the current round. The rows before
it are the valid artifacts that come right before the current one. The artifacts are read in the order
of their keys, which is that of the acquisition instants, and so is the order of the dataset builder
(`replayDataset_exact`).
-/

namespace TruthFingerprint.Lstm

open EdgeNodes (AcquisitionInstant)

variable {F A : Type} [FloatArith F]

/-! ## The SCADA side -/

/-- What is read of the behavior of a sensor -/
structure BehavioralSensorState (F : Type) where
  loopCurrentMa : Option F
  fieldDeviceMalfunction : Option Bool
  loopCurrentSaturated : Option Bool
  coldStart : Option Bool

/-- What is read of a `ScadaState` -/
structure SupervisoryState (F : Type) where
  sourceRoundId : Text
  timestamp : Text
  /-- The keys of `sensor_values` -/
  sensors : List Text
  behavioralSourceRoundId : Option Text
  behavioralSensorValues : Option (List (Text × BehavioralSensorState F))

/-- What is read of a `ScadaReplayRuntimeStage` -/
structure ReplayStage where
  mode : Text
  replaySourceRoundId : Option Text

inductive ReplayDatasetError where
  | value (message : Text)
  /-- An object of the listing is no artifact. -/
  | load
  /-- The archive cannot be written. -/
  | archive
deriving DecidableEq

/-- The features of one sensor -/
def behavioralFeatures (state : BehavioralSensorState F) : List F :=
  let loopCurrentMa := state.loopCurrentMa.getD 0.0
  [loopCurrentMa, normalizeLoopCurrent loopCurrentMa,
    boolToFloat (state.fieldDeviceMalfunction.getD false),
    boolToFloat (state.loopCurrentSaturated.getD false), boolToFloat (state.coldStart.getD false)]

/-- `extract_scada_behavioral_feature_vector` -/
def extractScadaBehavioralFeatureVector (scada : SupervisoryState F) :
    Except ReplayDatasetError (List Text × List F) := do
  let sensors := scada.sensors.insertionSort (· ≤ ·)
  let features ← sensors.mapM fun sensor =>
    match (scada.behavioralSensorValues.getD []).lookup sensor with
    | some state => .ok (behavioralFeatures state)
    | none => .error (.value (text "SCADA replay evaluation requires behavioral payload for sensor '" ++
        sensor ++ text "'."))
  .ok (sensors.flatMap fun sensor => featureNames.map (sensor ++ ·), features.flatten)

/-- `a or b`, for a text that may be missing -/
def orText (a : Option Text) (b : Text) : Text :=
  match a with
  | none | some [] => b
  | some t => t

omit [FloatArith F] in
/-- The round that is replayed -/
def replayRoundId (scada : SupervisoryState F) (stage : ReplayStage) : Text :=
  orText scada.behavioralSourceRoundId (orText stage.replaySourceRoundId scada.sourceRoundId)

omit [FloatArith F] in
/-- `_build_scada_state_artifact_key` -/
def buildScadaStateArtifactKey (currentRoundId : Text) (scada : SupervisoryState F)
    (stage : ReplayStage) : Text :=
  text "scada-state::" ++ currentRoundId ++ text "::" ++ stage.mode ++ text "::" ++
    replayRoundId scada stage

/-! ## The window -/

omit [FloatArith F] in
/-- `artifacts[: current_index + 1][-sequence_length:-1]` -/
def recentArtifacts (artifacts : List (StoredArtifact F)) (currentIndex sequenceLength : ℕ) :
    List (StoredArtifact F) :=
  let history := artifacts.take (currentIndex + 1)
  (history.take (history.length - 1)).drop (history.length - sequenceLength)

def schemaMismatch : ReplayDatasetError :=
  .value (text "Replay inference dataset feature schema mismatch.")

omit [FloatArith F] in
/-- The schema that the rows have had so far, which is empty before the first -/
def joinSchema (schema current : List Text) : Except ReplayDatasetError (List Text) :=
  if schema = [] then .ok current
  else if current ≠ schema then .error schemaMismatch
  else .ok schema

/-- The window of the artifacts and the SCADA side -/
def replayWindow (recent : List (StoredArtifact F)) (currentRoundId : Text)
    (scada : SupervisoryState F) (stage : ReplayStage) :
    Except ReplayDatasetError (TrainingWindow F) := do
  let (scadaSchema, scadaVector) ← extractScadaBehavioralFeatureVector scada
  let schema ← recent.foldlM (fun schema stored => joinSchema schema (featureSchema stored.2)) []
  let schema ← joinSchema schema scadaSchema
  .ok
    { windowId := text "replay-window::" ++ currentRoundId ++ text "::" ++ replayRoundId scada stage
      artifactKeys := recent.map (·.1) ++ [buildScadaStateArtifactKey currentRoundId scada stage]
      roundIds := recent.map (·.2.roundId) ++ [currentRoundId]
      timestamps := recent.map (·.2.windowEndedAt) ++ [scada.timestamp]
      featureSchema := schema
      featureMatrix := recent.map (fun stored => featureVector stored.2) ++ [scadaVector]
      label := stage.mode }

omit [FloatArith F] in
def replayManifest (bucket currentRoundId : Text) (scada : SupervisoryState F) (stage : ReplayStage)
    (sequenceLength : ℕ) (window : TrainingWindow F) : TrainingDatasetManifest where
  datasetId := text "replay-dataset::" ++ currentRoundId ++ text "::" ++ stage.mode ++ text "::" ++
    replayRoundId scada stage ++ text "::seq-" ++ DecimalText.natText sequenceLength
  sourceBucket := bucket
  sourcePrefix := validArtifactPrefix
  sequenceLength := sequenceLength
  featureSchema := window.featureSchema
  selectedArtifactKeys := window.artifactKeys
  skippedArtifacts := []
  eligibleRecordCount := window.artifactKeys.length
  windowCount := 1
  trainingLabel := stage.mode ++ text "_evaluation"

def notEnoughHistory : ReplayDatasetError :=
  .value (text "Not enough valid history to build replay inference dataset.")

/-- What the function does before it persists: the window of a sequence -/
def buildReplayWindow (store : ArtifactStore F A) (currentRoundId : Text)
    (scada : SupervisoryState F) (stage : ReplayStage) (sequenceLength : ℕ) :
    Except ReplayDatasetError (TrainingWindow F) :=
  match store.validArtifacts with
  | none => .error .load
  | some artifacts =>
    if ∀ stored ∈ artifacts, stored.2.roundId ≠ currentRoundId then
      .error (.value (text "Current round artifact is not available for replay detection."))
    else
      let currentIndex := artifacts.findIdx (·.2.roundId = currentRoundId)
      if currentIndex < sequenceLength - 1 then .error notEnoughHistory
      else
        replayWindow (recentArtifacts artifacts currentIndex sequenceLength) currentRoundId scada stage

/-- `persist_scada_replay_inference_dataset`, with the store that it leaves -/
def persistScadaReplayInferenceDataset (numerics : Numerics F A) (store : ArtifactStore F A)
    (currentRoundId : Text) (scada : SupervisoryState F) (stage : ReplayStage) (sequenceLength : ℤ)
    (createdAt : Text) :
    ArtifactStore F A × Except ReplayDatasetError PersistedTrainingDatasetArtifact :=
  if sequenceLength ≤ 0 then
    (store, .error (.value (text "sequence_length must be positive for replay detection.")))
  else
    match buildReplayWindow store currentRoundId scada stage sequenceLength.toNat with
    | .error error => (store, .error error)
    | .ok window =>
      let manifest := replayManifest store.bucket currentRoundId scada stage sequenceLength.toNat window
      match persistTrainingDatasetArtifacts numerics store ([window], manifest) createdAt
        datasetPrefix with
      | (store, none) => (store, .error .archive)
      | (store, some persisted) => (store, .ok persisted)

/-! ## Rounds of acquisition instants -/

section Rounds

omit [FloatArith F]

variable {store : ArtifactStore F A} {artifacts : List (StoredArtifact F)}
  {instant : StoredArtifact F → AcquisitionInstant}

/-- An artifact of the round of an instant, as it is persisted -/
structure PersistedRound (stored : StoredArtifact F) (t : AcquisitionInstant) : Prop where
  key : stored.1 = Persistence.artifactKey t.roundId
  roundId : stored.2.roundId = text t.roundId
  windowEndedAt : stored.2.windowEndedAt = text t.time.isoformat

/-- What is persisted of a round that an instant identifies -/
theorem persistedRound_of_persist {audit : Persistence.AuditPackage F}
    {comparison : Comparison.ScadaComparisonOutput F} {context : DatasetContext}
    {stored : StoredArtifact F} {t : AcquisitionInstant}
    (h : Persistence.persistValidConsensusArtifact audit comparison context = .ok stored)
    (hround : ∀ validState, audit.consensusedValidState = some validState →
      validState.roundIdentity.roundID = t.roundId ∧
        validState.roundIdentity.windowEndedAt = t.time) : PersistedRound stored t := by
  obtain ⟨-, validState, hvalid, hkey, hid, hended, -⟩ := Persistence.persist_eq_ok h
  obtain ⟨hroundId, htime⟩ := hround validState hvalid
  exact ⟨hroundId ▸ hkey, hroundId ▸ hid, htime ▸ hended⟩

theorem artifactKey_lt_iff (t t' : AcquisitionInstant) :
    Persistence.artifactKey t.roundId < Persistence.artifactKey t'.roundId ↔
      t.microseconds < t'.microseconds := by
  have hlength : (text t.roundId).length = (text t'.roundId).length := by
    rw [AcquisitionInstant.roundId, AcquisitionInstant.roundId, AcquisitionInstant.text_append,
      AcquisitionInstant.text_append, AcquisitionInstant.text_stamp, AcquisitionInstant.text_stamp]
    simp only [List.length_append, FixedWidth.length_digits]
  rw [Persistence.artifactKey, Persistence.artifactKey, List.append_assoc, List.append_assoc,
    FixedWidth.append_left_lt_iff, FixedWidth.append_lt_append_iff hlength,
    or_iff_left fun h => lt_irrefl _ h.2, AcquisitionInstant.roundText_lt_iff,
    AcquisitionInstant.microseconds_lt_iff]

/-- The keys of the artifacts are in order. -/
theorem keys_pairwise (h : store.validArtifacts = some artifacts) :
    artifacts.Pairwise fun x y => x.1 < y.1 := by
  have hkeys : artifacts.map Prod.fst = store.listJsonObjects validArtifactPrefix := by
    refine (List.map_eq_of_mapM (g := id) (fun key _ stored hload => ?_) h).trans (List.map_id _)
    exact (ArtifactStore.loadArtifact_eq_some.mp hload).1
  have hsorted : (artifacts.map Prod.fst).Pairwise (· < ·) := by
    rw [hkeys]
    exact (Bucket.sorted_listing _ _).pairwise.imp₂ (fun _ _ hle hne => lt_of_le_of_ne hle hne)
      (Bucket.nodup_listing _ _)
  exact List.pairwise_map.mp hsorted

/-- The artifacts are read in the order of time. -/
theorem instants_pairwise (h : store.validArtifacts = some artifacts)
    (hrounds : ∀ stored ∈ artifacts, PersistedRound stored (instant stored)) :
    artifacts.Pairwise fun x y => (instant x).microseconds < (instant y).microseconds := by
  refine (keys_pairwise h).imp_of_mem fun hx hy hlt => ?_
  rwa [(hrounds _ hx).key, (hrounds _ hy).key, artifactKey_lt_iff] at hlt

/-- The order of the dataset builder is the order of time. -/
theorem chronological_eq (h : artifacts.Pairwise fun x y => (instant x).microseconds <
      (instant y).microseconds)
    (hrounds : ∀ stored ∈ artifacts, PersistedRound stored (instant stored)) :
    chronological artifacts = artifacts := by
  refine List.Pairwise.insertionSort_eq (h.imp_of_mem fun {x y} hx hy hlt => ?_)
  have hended : x.2.windowEndedAt < y.2.windowEndedAt := by
    rw [(hrounds x hx).windowEndedAt, (hrounds y hy).windowEndedAt,
      AcquisitionInstant.isoText_lt_iff]
    exact AcquisitionInstant.microseconds_lt_iff.mp hlt
  exact Prod.Lex.toLex_le_toLex.mpr (.inl hended)

end Rounds

/-! ## The rows of the window -/

section Rows

variable {store : ArtifactStore F A} {scada : SupervisoryState F} {stage : ReplayStage}
  {currentRoundId : Text} {recent : List (StoredArtifact F)} {window : TrainingWindow F}

theorem ends_extract (scada : SupervisoryState F) :
    (extractScadaBehavioralFeatureVector scada).Ends (fun _ => True) (· ≠ notEnoughHistory) := by
  unfold extractScadaBehavioralFeatureVector
  refine Except.Ends.bind (P := fun _ => True) ?_ fun _ _ => trivial
  generalize hread : List.mapM (m := Except ReplayDatasetError) _ _ = read
  cases read with
  | ok features => trivial
  | error error =>
    obtain ⟨sensor, -, hsensor⟩ := List.exists_of_mapM_eq_error hread
    split at hsensor
    · cases hsensor
    · obtain rfl := Except.error.inj hsensor
      intro h
      have hhead := congrArg List.head? (ReplayDatasetError.value.inj h)
      have hfirst : (text "SCADA replay evaluation requires behavioral payload for sensor '").head? =
          some 'S'.codePoint := by decide
      rw [List.append_assoc, List.head?_append, hfirst, Option.some_or] at hhead
      exact absurd hhead (by decide)

omit [FloatArith F] in
theorem ends_joinSchema (schema current : List Text) :
    (joinSchema schema current).Ends (fun _ => True) (· ≠ notEnoughHistory) := by
  rw [joinSchema]
  split
  · trivial
  · split
    · exact show schemaMismatch ≠ notEnoughHistory by decide
    · trivial

/-- The window itself never lacks history. -/
theorem replayWindow_ne_notEnoughHistory :
    replayWindow recent currentRoundId scada stage ≠ .error notEnoughHistory := by
  have hends : (replayWindow recent currentRoundId scada stage).Ends (fun _ => True)
      (· ≠ notEnoughHistory) := by
    unfold replayWindow
    refine (ends_extract scada).bind fun _ _ => ?_
    refine (List.ends_foldlM (P := fun _ => True) (fun stored _ schema _ =>
      ends_joinSchema schema (featureSchema stored.2)) trivial).bind fun schema _ => ?_
    exact (ends_joinSchema schema _).bind fun _ _ => trivial
  intro h
  rw [h] at hends
  exact hends rfl

omit [FloatArith F] in
/-- A schema stays once a row has one. -/
theorem joinSchema_eq_ok {schema current joined : List Text}
    (h : joinSchema schema current = .ok joined) :
    (schema ≠ [] → joined = schema) ∧ (current ≠ [] → joined = current) := by
  rw [joinSchema] at h
  split at h
  next hnil =>
    obtain rfl := Except.ok.inj h
    exact ⟨fun hne => absurd hnil hne, fun _ => rfl⟩
  next hne =>
    split at h
    · cases h
    next heq =>
      obtain rfl := Except.ok.inj h
      exact ⟨fun _ => rfl, fun _ => (not_not.mp heq).symm⟩

/-- The rows of a window: those of the artifacts, and then the one of the SCADA side. The rows that
have features have them under the schema of the window. -/
structure IsReplayWindow (rows : List (StoredArtifact F)) (currentRoundId : Text)
    (scada : SupervisoryState F) (stage : ReplayStage) (window : TrainingWindow F) : Prop where
  artifactKeys : window.artifactKeys =
    rows.map (·.1) ++ [buildScadaStateArtifactKey currentRoundId scada stage]
  roundIds : window.roundIds = rows.map (·.2.roundId) ++ [currentRoundId]
  timestamps : window.timestamps = rows.map (·.2.windowEndedAt) ++ [scada.timestamp]
  features : ∃ schema vector, extractScadaBehavioralFeatureVector scada = .ok (schema, vector) ∧
    (schema ≠ [] → window.featureSchema = schema) ∧
    window.featureMatrix = rows.map (fun stored => featureVector stored.2) ++ [vector]
  schema : ∀ stored ∈ rows, featureSchema stored.2 ≠ [] →
    window.featureSchema = featureSchema stored.2

theorem isReplayWindow_of_ok (h : replayWindow recent currentRoundId scada stage = .ok window) :
    IsReplayWindow recent currentRoundId scada stage window := by
  unfold replayWindow at h
  obtain ⟨⟨scadaSchema, scadaVector⟩, hscada, h⟩ := Except.bind_eq_ok.mp h
  obtain ⟨rowSchema, hrows, h⟩ := Except.bind_eq_ok.mp h
  obtain ⟨schema, hschema, h⟩ := Except.bind_eq_ok.mp h
  obtain rfl := Except.ok.inj h
  obtain ⟨hkeeps, hjoins⟩ := joinSchema_eq_ok hschema
  -- a row that is done has no features or the schema so far
  have hdone := @List.foldlM_done _ _ _ _ [] _ _ _
    (fun done schema => ∀ stored ∈ done, featureSchema stored.2 ≠ [] →
      schema = featureSchema stored.2)
    (fun done stored schema next hdone hnext => by
      obtain ⟨hkeep, hjoin⟩ := joinSchema_eq_ok hnext
      intro other hother hne
      rcases List.mem_append.mp hother with hother | hother
      · have heq := hdone other hother hne
        exact (hkeep (heq ▸ hne)).trans heq
      · obtain rfl := List.mem_singleton.mp hother
        exact hjoin hne)
    (fun _ h => absurd h List.not_mem_nil) hrows
  rw [List.nil_append] at hdone
  refine ⟨rfl, rfl, rfl, ⟨scadaSchema, scadaVector, hscada, hjoins, rfl⟩, ?_⟩
  intro stored hstored hne
  have heq := hdone stored hstored hne
  exact (hkeeps (heq ▸ hne)).trans heq

end Rows

/-! ## The cut of the history -/

section Cut

variable {store : ArtifactStore F A} {artifacts : List (StoredArtifact F)}
  {instant : StoredArtifact F → AcquisitionInstant} {current : StoredArtifact F}

omit [FloatArith F] in
/-- The artifacts of the rounds that end before the current one -/
def preceding (instant : StoredArtifact F → AcquisitionInstant)
    (artifacts : List (StoredArtifact F)) (current : StoredArtifact F) : List (StoredArtifact F) :=
  artifacts.filter fun stored => (instant stored).microseconds < (instant current).microseconds

omit [FloatArith F] in
/-- What comes before the current artifact in the listing comes before it in time, under other
rounds. -/
theorem exists_cut (hpairwise : artifacts.Pairwise fun x y =>
      (instant x).microseconds < (instant y).microseconds)
    (hrounds : ∀ stored ∈ artifacts, PersistedRound stored (instant stored))
    (hcurrent : current ∈ artifacts) :
    (∃ after, artifacts = preceding instant artifacts current ++ current :: after) ∧
      ∀ stored ∈ preceding instant artifacts current, stored.2.roundId ≠ current.2.roundId := by
  constructor
  · obtain ⟨before, after, rfl⟩ := List.append_of_mem hcurrent
    obtain ⟨-, hafter, hbefore⟩ := List.pairwise_append.mp hpairwise
    have hkept : before.filter (fun stored =>
        (instant stored).microseconds < (instant current).microseconds) = before :=
      List.filter_eq_self.mpr fun stored hstored =>
        decide_eq_true (hbefore stored hstored current List.mem_cons_self)
    have hdropped : (current :: after).filter (fun stored =>
        (instant stored).microseconds < (instant current).microseconds) = [] := by
      refine List.filter_eq_nil_iff.mpr fun stored hstored hlt => ?_
      have hlt := of_decide_eq_true hlt
      rcases List.mem_cons.mp hstored with rfl | hstored
      · exact lt_irrefl _ hlt
      · exact lt_asymm hlt ((List.pairwise_cons.mp hafter).1 stored hstored)
    exact ⟨after, by rw [preceding, List.filter_append, hkept, hdropped, List.append_nil]⟩
  · intro stored hstored heq
    obtain ⟨hmem, hlt⟩ := List.mem_filter.mp hstored
    have hbefore := (AcquisitionInstant.roundText_lt_iff _ _).mpr
      (AcquisitionInstant.microseconds_lt_iff.mp (of_decide_eq_true hlt))
    rw [← (hrounds stored hmem).roundId, ← (hrounds current hcurrent).roundId, heq] at hbefore
    exact lt_irrefl _ hbefore

omit [FloatArith F] in
theorem recentArtifacts_cut {before after : List (StoredArtifact F)} {length : ℕ}
    (hpos : 0 < length) :
    recentArtifacts (before ++ current :: after) before.length length =
      before.rtake (length - 1) := by
  have hhistory : (before ++ current :: after).take (before.length + 1) = before ++ [current] := by
    rw [List.append_cons]
    exact List.take_left' (by rw [List.length_append, List.length_singleton])
  rw [recentArtifacts, hhistory, List.length_append, List.length_singleton,
    Nat.add_sub_cancel, List.take_left' rfl, List.rtake]
  exact congrArg (List.drop · before) (by omega)

/-- The window is that of the artifacts that precede the current one, if there are enough. -/
theorem buildReplayWindow_eq (h : store.validArtifacts = some artifacts)
    (hrounds : ∀ stored ∈ artifacts, PersistedRound stored (instant stored))
    (hcurrent : current ∈ artifacts) (scada : SupervisoryState F) (stage : ReplayStage)
    {length : ℕ} (hpos : 0 < length) :
    buildReplayWindow store current.2.roundId scada stage length =
      if (preceding instant artifacts current).length < length - 1 then .error notEnoughHistory
      else replayWindow ((preceding instant artifacts current).rtake (length - 1)) current.2.roundId
        scada stage := by
  obtain ⟨⟨after, hcut⟩, hother⟩ := exists_cut (instants_pairwise h hrounds) hrounds hcurrent
  generalize preceding instant artifacts current = before at hcut hother
  have hindex : artifacts.findIdx (·.2.roundId = current.2.roundId) = before.length := by
    rw [hcut, List.findIdx_append, List.findIdx_eq_length_of_false, if_neg (lt_irrefl _),
      List.findIdx_cons, decide_eq_true rfl, cond_true, Nat.zero_add]
    exact fun stored hstored => decide_eq_false (hother stored hstored)
  simp only [buildReplayWindow, h, hindex]
  rw [if_neg fun hnone => hnone current hcurrent rfl, hcut, recentArtifacts_cut hpos]

end Cut

/-- **The replay window is cut by time.** History is missing exactly when fewer artifacts than the
window has rows for precede the current round; otherwise the rows of a persisted window are those of
the artifacts that come right before it and then that of the SCADA side. The order of the listing,
which is that of the dataset builder, is the one of time. The valid artifacts stay as they are. -/
theorem replayDataset_exact (numerics : Numerics F A) (store : ArtifactStore F A)
    (artifacts : List (StoredArtifact F)) (instant : StoredArtifact F → AcquisitionInstant)
    (current : StoredArtifact F) (scada : SupervisoryState F) (stage : ReplayStage)
    (sequenceLength : ℤ) (createdAt : Text) (h : store.validArtifacts = some artifacts)
    (hrounds : ∀ stored ∈ artifacts, PersistedRound stored (instant stored))
    (hcurrent : current ∈ artifacts) (hpos : 1 ≤ sequenceLength) :
    let history := preceding instant artifacts current
    let rows := history.rtake (sequenceLength.toNat - 1)
    let result := persistScadaReplayInferenceDataset numerics store current.2.roundId scada stage
      sequenceLength createdAt
    (result.2 = .error notEnoughHistory ↔ (history.length : ℤ) < sequenceLength - 1) ∧
    (∀ persisted, result.2 = .ok persisted → ∃ window archive,
      IsReplayWindow rows current.2.roundId scada stage window ∧
      (window.featureMatrix.length : ℤ) = sequenceLength ∧
      serializeTrainingWindows numerics [window] sequenceLength.toNat window.featureSchema.length =
        some archive ∧
      result.1.load persisted.windowsObjectKey = some (.archive archive)) ∧
    (artifacts.Pairwise fun x y => (instant x).microseconds < (instant y).microseconds) ∧
    (∀ selected, selected.Sublist artifacts → chronological selected = selected) ∧
    result.1.validArtifacts = some artifacts := by
  obtain ⟨length, rfl⟩ : ∃ length : ℕ, sequenceLength = length :=
    ⟨_, (Int.toNat_of_nonneg (by omega)).symm⟩
  have hlength : 0 < length := by omega
  intro history rows result
  have hpairwise := instants_pairwise h hrounds
  have hresult : result = persistScadaReplayInferenceDataset numerics store current.2.roundId scada
    stage length createdAt := rfl
  rw [persistScadaReplayInferenceDataset, if_neg (by omega), Int.toNat_natCast,
    buildReplayWindow_eq h hrounds hcurrent scada stage hlength] at hresult
  have hrows : rows = history.rtake (length - 1) := rfl
  rw [← hrows] at hresult
  have hsublist : ∀ selected, selected.Sublist artifacts → chronological selected = selected :=
    fun selected hselected => chronological_eq (hpairwise.sublist hselected)
      fun stored hstored => hrounds stored (hselected.subset hstored)
  by_cases hshort : history.length < length - 1
  · rw [if_pos hshort] at hresult
    change result = (store, .error notEnoughHistory) at hresult
    rw [hresult]
    exact ⟨iff_of_true rfl (by omega), fun _ hok => (by cases hok), hpairwise, hsublist, h⟩
  rw [if_neg hshort] at hresult
  have henough : ¬(history.length : ℤ) < length - 1 := by omega
  cases hwindow : replayWindow rows current.2.roundId scada stage with
  | error error =>
    rw [hwindow] at hresult
    change result = (store, .error error) at hresult
    rw [hresult]
    refine ⟨iff_of_false (fun herror => ?_) henough, fun _ hok => (by cases hok), hpairwise, hsublist,
      h⟩
    exact replayWindow_ne_notEnoughHistory (hwindow.trans (Except.error.inj herror ▸ rfl))
  | ok window =>
    rw [hwindow] at hresult
    dsimp only at hresult
    generalize hmanifest : replayManifest store.bucket current.2.roundId scada stage length window =
      manifest at hresult
    cases hpersist : persistTrainingDatasetArtifacts numerics store ([window], manifest) createdAt
      datasetPrefix with
    | mk store' saved =>
    have hkey : IsDatasetKey (manifestKey datasetPrefix manifest.datasetId) :=
      List.append_nil datasetPrefix ▸ isDatasetKey_manifestKey [] _
    have hwindowsKey : IsDatasetKey (windowsKey datasetPrefix manifest.datasetId) :=
      List.append_nil datasetPrefix ▸ isDatasetKey_windowsKey [] _
    have hvalid : store'.validArtifacts = some artifacts :=
      (validArtifacts_persist hpersist hkey.not_valid hwindowsKey.not_valid).trans h
    rw [hpersist] at hresult
    rcases persist_cases hpersist with ⟨rfl, -⟩ | ⟨archive, harchive, rfl, -⟩
    · change result = (store', .error .archive) at hresult
      rw [hresult]
      exact ⟨iff_of_false (fun herror => by cases herror) henough, fun _ hok => (by cases hok), hpairwise, hsublist, hvalid⟩
    · rw [hresult]
      refine ⟨iff_of_false (fun herror => (by cases herror)) henough, ?_, hpairwise, hsublist, hvalid⟩
      rintro _ ⟨⟩
      have hwindow := isReplayWindow_of_ok hwindow
      refine ⟨window, archive, hwindow, ?_, ?_, load_windows_persist hpersist harchive⟩
      · obtain ⟨_, _, -, -, hmatrix⟩ := hwindow.features
        have hrowsLength : rows.length = length - 1 := by
          rw [hrows, List.rtake, List.length_drop]
          omega
        rw [hmatrix, List.length_append, List.length_map, List.length_singleton, hrowsLength]
        omega
      · rw [← harchive, Int.toNat_natCast, ← hmanifest]
        rfl

/-! ## Three rounds -/

def onTheHour (hour : ℕ) : AcquisitionInstant where
  time := ⟨2026, 1, 1, hour % 24, 0, 0, 0, some 0⟩
  utc := rfl
  year := by simp
  month := by simp
  day := by simp [EdgeNodes.daysOfMonth, Consensus.DateTime.daysBeforeMonth]
  hour := Nat.mod_lt hour (Nat.succ_pos 23)
  minute := by simp
  second := by simp
  microsecond := by simp

def hourlyRound (hour : ℕ) : StoredArtifact ℚ :=
  normalRound (onTheHour hour).roundId (onTheHour hour).time.isoformat pressurePayload

/-- The hour of one of the three rounds -/
def hourOf (stored : StoredArtifact ℚ) : ℕ :=
  if stored.2.roundId = text (onTheHour 10).roundId then 10
  else if stored.2.roundId = text (onTheHour 11).roundId then 11
  else 12

def archivingNumerics : Numerics ℚ Unit :=
  ⟨fun _ _ _ => some (), fun _ _ => none, fun _ => none, fun _ _ => none, fun _ => 0⟩

def replayedPressure : SupervisoryState ℚ where
  sourceRoundId := text "round-1"
  timestamp := text "2026-01-01T11:00:01+00:00"
  sensors := [text "pressure"]
  behavioralSourceRoundId := none
  behavioralSensorValues := some [(text "pressure", ⟨some 12, some false, none, none⟩)]

/-- The window of the second of three rounds has the first one before it. -/
theorem hourlyRounds_replay :
    let store := storeOf [hourlyRound 10, hourlyRound 11, hourlyRound 12]
    let result := persistScadaReplayInferenceDataset archivingNumerics store (hourlyRound 11).2.roundId
      replayedPressure ⟨text "replay", some (text "round-1")⟩ 2 (text "now")
    ∃ persisted window, result.2 = .ok persisted ∧
      IsReplayWindow [hourlyRound 10] (hourlyRound 11).2.roundId replayedPressure
        ⟨text "replay", some (text "round-1")⟩ window ∧
      result.1.validArtifacts = some [hourlyRound 10, hourlyRound 11, hourlyRound 12] := by
  intro store result
  have hstore : store.validArtifacts = some [hourlyRound 10, hourlyRound 11, hourlyRound 12] := by
    decide +kernel
  have hhours : hourOf (hourlyRound 10) = 10 ∧ hourOf (hourlyRound 11) = 11 ∧
      hourOf (hourlyRound 12) = 12 := by decide +kernel
  have hrounds : ∀ stored ∈ [hourlyRound 10, hourlyRound 11, hourlyRound 12],
      PersistedRound stored (onTheHour (hourOf stored)) := by
    intro stored hstored
    simp only [List.mem_cons, List.not_mem_nil, or_false] at hstored
    rcases hstored with rfl | rfl | rfl
    · rw [hhours.1]
      exact ⟨rfl, rfl, rfl⟩
    · rw [hhours.2.1]
      exact ⟨rfl, rfl, rfl⟩
    · rw [hhours.2.2]
      exact ⟨rfl, rfl, rfl⟩
  have hok : result.2.toOption.isSome := by decide +kernel
  have hpreceding : (preceding (fun stored => onTheHour (hourOf stored))
      [hourlyRound 10, hourlyRound 11, hourlyRound 12] (hourlyRound 11)) = [hourlyRound 10] := by
    decide +kernel
  obtain ⟨persisted, hpersisted⟩ := Option.isSome_iff_exists.mp hok
  have hpersisted := Except.eq_ok_of_toOption hpersisted
  obtain ⟨-, hwindow, -, -, hvalid⟩ := replayDataset_exact archivingNumerics store _
    (fun stored => onTheHour (hourOf stored)) (hourlyRound 11) replayedPressure
    ⟨text "replay", some (text "round-1")⟩ 2 (text "now") hstore hrounds (by simp) (by decide)
  obtain ⟨window, -, hiswindow, -⟩ := hwindow persisted hpersisted
  rw [hpreceding] at hiswindow
  exact ⟨persisted, window, hpersisted, hiswindow, hvalid⟩

end TruthFingerprint.Lstm
