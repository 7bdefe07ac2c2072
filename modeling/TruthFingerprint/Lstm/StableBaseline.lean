import Mathlib
import TruthFingerprint.Consensus.DateTime
import TruthFingerprint.Lstm.LifecycleLemmas

/-!
# The baseline of a trained model

A model is trained once and later calls persist the training dataset again. Its source dataset
stays what it was trained on as long as the ends of windows are in the order of their texts, which
is not the order of time for different offsets, and the rounds of a dataset can be read off its
identifier, which joins the first and the last one with `::`.
-/

namespace TruthFingerprint.Lstm

variable {F A : Type}

/-! ## Identifiers of datasets -/

/-- No two pairs of these rounds are joined to the same text. -/
def Unambiguous (rounds : Text → Prop) : Prop :=
  ∀ first last first' last', rounds first → rounds last → rounds first' → rounds last' →
    first ++ text "::" ++ last = first' ++ text "::" ++ last' → first = first' ∧ last = last'

/-- Rounds without a colon are joined unambiguously. -/
theorem unambiguous_of_colonless {rounds : Text → Prop}
    (h : ∀ round, rounds round → ':'.codePoint ∉ round) : Unambiguous rounds := by
  have hsplit (first first' rest rest' : Text) (hfirst : ':'.codePoint ∉ first)
      (hfirst' : ':'.codePoint ∉ first')
      (heq : first ++ ':'.codePoint :: rest = first' ++ ':'.codePoint :: rest') :
      first = first' ∧ rest = rest' := by
    induction first generalizing first' with
    | nil =>
      cases first' with
      | nil => exact ⟨rfl, (List.cons.inj heq).2⟩
      | cons c first' => exact absurd ((List.cons.inj heq).1 ▸ List.mem_cons_self) hfirst'
    | cons c first ih =>
      cases first' with
      | nil => exact absurd ((List.cons.inj heq).1 ▸ List.mem_cons_self) hfirst
      | cons c' first' =>
        obtain ⟨rfl, htail⟩ := List.cons.inj heq
        obtain ⟨rfl, hrest⟩ := ih first' (fun hmem => hfirst (List.mem_cons_of_mem _ hmem))
          (fun hmem => hfirst' (List.mem_cons_of_mem _ hmem)) htail
        exact ⟨rfl, hrest⟩
  intro first last first' last' hfirst _ hfirst' _ heq
  rw [List.append_assoc, List.append_assoc] at heq
  obtain ⟨hfirsts, hrest⟩ := hsplit first first' (':'.codePoint :: last) (':'.codePoint :: last')
    (h _ hfirst) (h _ hfirst') heq
  exact ⟨hfirsts, (List.cons.inj hrest).2⟩

/-- Datasets with the same identifier have the same pair of rounds, once joined. -/
theorem datasetIdOf_eq {records records' : List (EligibleArtifact F)} {sequenceLength : Nat}
    (hne : records ≠ [])
    (hid : datasetIdOf records' sequenceLength = datasetIdOf records sequenceLength) :
    records' ≠ [] ∧ endText records'.head? ++ text "::" ++ endText records'.getLast? =
      endText records.head? ++ text "::" ++ endText records.getLast? := by
  have hjoin (pair : Text) : text "training-dataset::" ++ pair ++ text "::seq-" ++
      DecimalText.natText sequenceLength = text "training-dataset::" ++
        (pair ++ (text "::seq-" ++ DecimalText.natText sequenceLength)) := by
    simp only [List.append_assoc]
  have hempty : text "training-dataset::empty::seq-" =
      text "training-dataset::" ++ text "empty" ++ text "::seq-" := by decide
  have hpair (first last : Text) : text "training-dataset::" ++ first ++ text "::" ++ last =
      text "training-dataset::" ++ (first ++ text "::" ++ last) := by
    simp only [List.append_assoc]
  rw [datasetIdOf, datasetIdOf, if_neg (mt List.isEmpty_iff.mp hne)] at hid
  split_ifs at hid with hnil
  · -- the identifier of an empty dataset has no second colon
    rw [hempty, hjoin, hpair, hjoin] at hid
    have hpairs := List.append_cancel_right (List.append_cancel_left hid)
    have hcolon : ':'.codePoint ∈ text "empty" := by
      rw [hpairs]
      exact List.mem_append_left _ (List.mem_append_right _ List.mem_cons_self)
    exact absurd hcolon (by decide)
  · refine ⟨mt List.isEmpty_iff.mpr hnil, ?_⟩
    rw [hpair, hjoin, hpair, hjoin] at hid
    exact List.append_cancel_right (List.append_cancel_left hid)

/-- The keys of an evaluation dataset are not those of a training dataset. -/
theorem evaluationKey_ne {records : List (EligibleArtifact F)} {sequenceLength : Nat}
    (datasetId rest rest' : Text) :
    datasetPrefix ++ text "evaluation/" ++ datasetId ++ rest ≠
      datasetPrefix ++ datasetIdOf records sequenceLength ++ rest' := by
  intro heq
  have hid : ∃ id, datasetIdOf records sequenceLength = text "training-dataset::" ++ id := by
    rw [datasetIdOf]
    split_ifs
    · have hempty : text "training-dataset::empty::seq-" =
          text "training-dataset::" ++ text "empty::seq-" := by decide
      exact ⟨_, by rw [hempty, List.append_assoc]⟩
    · exact ⟨_, by simp only [List.append_assoc]; rfl⟩
  obtain ⟨id, hid⟩ := hid
  rw [hid] at heq
  simp only [List.append_assoc, List.append_cancel_left_eq] at heq
  have hhead := congrArg List.head? heq
  rw [List.head?_append, List.head?_append] at hhead
  exact absurd (Option.some.inj hhead) (by decide)

/-! ## Ends of windows -/

/-- A text of a form, where a zero stands for any digit -/
def hasForm (form s : Text) : Bool :=
  s.length = form.length &&
    (s.zip form).all fun p => if p.2 = '0'.codePoint then JsonText.isDigit p.1 else p.1 = p.2

/-- The number in some columns -/
def numberAt (s : Text) (start width : Nat) : Nat :=
  DecimalText.natValue ((s.drop start).take width)

/-- The offset at the end of a time, none when it is naive, in seconds -/
def offsetOf (s : Text) : Option (Option Int) :=
  let seconds : Nat := numberAt s 1 2 * 3600 + numberAt s 4 2 * 60 + numberAt s 7 2
  if s = [] then some none
  else if hasForm (text "+00:00") s || hasForm (text "+00:00:00") s then some (some seconds)
  else if hasForm (text "-00:00") s || hasForm (text "-00:00:00") s then some (some (-seconds))
  else none

/-- `datetime.fromisoformat` of what `isoformat` writes -/
def fromIsoformat (s : Text) : Option Consensus.DateTime :=
  let fraction := (s.drop 19).take 7
  let hasFraction := hasForm (text ".000000") fraction
  if !hasForm (text "0000-00-00T00:00:00") (s.take 19) then none
  else match offsetOf (s.drop (if hasFraction then 26 else 19)) with
    | none => none
    | some utcOffset =>
      let t : Consensus.DateTime :=
        { year := numberAt s 0 4
          month := numberAt s 5 2
          day := numberAt s 8 2
          hour := numberAt s 11 2
          minute := numberAt s 14 2
          second := numberAt s 17 2
          microsecond := if hasFraction then numberAt s 20 6 else 0
          utcOffset := utcOffset }
      let daysOfMonth := if t.month = 12 then 31 else
        Consensus.DateTime.daysBeforeMonth t.year (t.month + 1) -
          Consensus.DateTime.daysBeforeMonth t.year t.month
      if 1 ≤ t.year ∧ 1 ≤ t.month ∧ t.month ≤ 12 ∧ 1 ≤ t.day ∧ t.day ≤ daysOfMonth ∧
        t.hour < 24 ∧ t.minute < 60 ∧ t.second < 60 then some t else none

/-- One window ends before another. -/
def EndsBefore (ended ended' : Text) : Bool :=
  match fromIsoformat ended, fromIsoformat ended' with
  | some t, some t' => t.lt t' = .ok true
  | _, _ => false

/-! ## The baseline in the store -/

/-- A round of an artifact that is eligible for training -/
def EligibleRound (store : ArtifactStore F A) (roundId : Text) : Prop :=
  ∃ key artifact, ArtifactStore.isJsonKey validArtifactPrefix key ∧
    store.load key = some (.artifact artifact) ∧ (evaluateTrainingEligibility artifact).1 ∧
    artifact.roundId = roundId

/-- The windows of the valid artifacts end in the order of their texts. -/
def EndsInOrder (store : ArtifactStore F A) : Prop :=
  ∀ key key' artifact artifact', ArtifactStore.isJsonKey validArtifactPrefix key →
    ArtifactStore.isJsonKey validArtifactPrefix key' →
    store.load key = some (.artifact artifact) → store.load key' = some (.artifact artifact') →
    EndsBefore artifact.windowEndedAt artifact'.windowEndedAt →
      artifact.windowEndedAt < artifact'.windowEndedAt

/-- The schema of a history -/
def historySchema (history : List (StoredArtifact F)) : List Text :=
  (readArtifacts evaluateTrainingEligibility [] history).schema

variable [FloatArith F]

/-- The records of a history that are selected for training -/
def historyRecords (history : List (StoredArtifact F)) : List (EligibleArtifact F) :=
  eligibleRecords (readArtifacts evaluateTrainingEligibility [] history).selected

namespace LifecycleConfig

variable (config : LifecycleConfig F A)

def historyWindows (history : List (StoredArtifact F)) : List (TrainingWindow F) :=
  windowsOf (historyRecords history) (historySchema history) config.sequenceLength.toNat

def historyDatasetId (history : List (StoredArtifact F)) : Text :=
  datasetIdOf (historyRecords history) config.sequenceLength.toNat

/-- The archive that is written for a history -/
def historyArchive (history : List (StoredArtifact F)) : Option A :=
  serializeTrainingWindows config.numerics (config.historyWindows history)
    config.sequenceLength.toNat (historySchema history).length

end LifecycleConfig

section History

variable {config : LifecycleConfig F A} {store : ArtifactStore F A}
  {history artifacts : List (StoredArtifact F)} {record : EligibleArtifact F}
  {training : List (TrainingWindow F) × TrainingDatasetManifest}

theorem trainingDataset_eq_some (h : config.trainingDataset store = some training) :
    0 < config.sequenceLength ∧ ∃ artifacts, store.validArtifacts = some artifacts ∧
      training =
        buildNormalTrainingWindows store.bucket config.sequenceLength.toNat artifacts := by
  rw [LifecycleConfig.trainingDataset] at h
  split_ifs at h with hlength
  obtain ⟨artifacts, hvalid, rfl⟩ := Option.map_eq_some_iff.mp h
  exact ⟨not_le.mp hlength, artifacts, hvalid, rfl⟩

theorem eligibleRound_of_record (hvalid : store.validArtifacts = some artifacts)
    (hsublist : history.Sublist artifacts) (hrecord : record ∈ historyRecords history) :
    EligibleRound store record.roundId := by
  rw [historyRecords, eligibleRecords, List.mem_insertionSort] at hrecord
  obtain ⟨stored, hstored, rfl⟩ := List.mem_map.mp hrecord
  have hmem := hsublist.subset (selected_sublist.subset hstored)
  obtain ⟨hjson, hload⟩ := (ArtifactStore.mem_validArtifacts hvalid).mp hmem
  exact ⟨stored.1, stored.2, hjson, hload, eligible_of_selected hstored, rfl⟩

omit [FloatArith F] in
theorem grown_of_endsInOrder (hvalid : store.validArtifacts = some artifacts)
    (hgrown : Grown (EndsBefore · ·) history artifacts) (hends : EndsInOrder store) :
    Grown (· < ·) history artifacts := by
  refine hgrown.mono fun artifact hartifact old hold hbefore => ?_
  obtain ⟨hjson, hload⟩ := (ArtifactStore.mem_validArtifacts hvalid).mp hartifact
  obtain ⟨hjson', hload'⟩ :=
    (ArtifactStore.mem_validArtifacts hvalid).mp (hgrown.sublist.subset hold)
  exact hends _ _ _ _ hjson' hjson hload' hload hbefore

/-- A history that has grown and has the same identifier has the same dataset. -/
theorem history_of_sameId (hvalid : store.validArtifacts = some artifacts)
    (hgrown : Grown (· < ·) history artifacts) (hrounds : Unambiguous (EligibleRound store))
    (hne : historyRecords history ≠ [])
    (hid : config.historyDatasetId artifacts = config.historyDatasetId history) :
    historySchema artifacts = historySchema history ∧
      historyRecords artifacts = historyRecords history := by
  obtain ⟨hne', hpair⟩ := datasetIdOf_eq hne hid
  have hround {records : List (EligibleArtifact F)} (hrecords : records ≠ [])
      (heligible : ∀ record ∈ records, EligibleRound store record.roundId) :
      EligibleRound store (endText records.head?) ∧
        EligibleRound store (endText records.getLast?) := by
    rw [List.head?_eq_some_head hrecords, List.getLast?_eq_some_getLast hrecords]
    exact ⟨heligible _ (List.head_mem hrecords), heligible _ (List.getLast_mem hrecords)⟩
  obtain ⟨hfirst, hlast⟩ := hround hne
    fun _ => eligibleRound_of_record hvalid hgrown.sublist
  obtain ⟨hfirst', hlast'⟩ := hround hne'
    fun _ => eligibleRound_of_record hvalid (List.Sublist.refl artifacts)
  have hrounds := (hrounds _ _ _ _ hfirst' hlast' hfirst hlast hpair).2
  rw [List.getLast?_eq_some_getLast hne, List.getLast?_eq_some_getLast hne'] at hrounds
  obtain ⟨hschema, hselected⟩ := selected_of_grown hgrown
    (List.getLast?_eq_some_getLast hne) (List.getLast?_eq_some_getLast hne') hrounds
  exact ⟨hschema, congrArg eligibleRecords hselected⟩

end History

/-- The store holds a model that was trained on a history, its dataset, and everything that was
valid then. -/
structure Baseline (config : LifecycleConfig F A) (modelKey : Text)
    (history : List (StoredArtifact F)) (windows : List (TrainingWindow F))
    (store : ArtifactStore F A) : Prop where
  latest : LifecycleConfig.latestModelMetadataKey store = some modelKey
  metadata : ∃ metadata, store.load modelKey = some (.metadata metadata) ∧
    metadata.sourceDatasetId = config.historyDatasetId history
  manifest : ∃ persisted,
    store.load (manifestKey datasetPrefix (config.historyDatasetId history)) =
      some (.dataset persisted) ∧
    persisted.windowsObjectKey = windowsKey datasetPrefix (config.historyDatasetId history) ∧
    persisted.featureSchema = historySchema history
  archive : ∃ archive,
    store.load (windowsKey datasetPrefix (config.historyDatasetId history)) =
      some (.archive archive) ∧
    config.historyArchive history = some archive ∧
    config.numerics.loadArchive archive (historySchema history) = some windows
  nonempty : historyRecords history ≠ []
  grown : ∃ artifacts, store.validArtifacts = some artifacts ∧
    Grown (EndsBefore · ·) history artifacts

namespace Baseline

variable {config : LifecycleConfig F A} {history artifacts : List (StoredArtifact F)}
  {windows : List (TrainingWindow F)} {store store' : ArtifactStore F A} {modelKey now : Text}
  {result : Option PersistedTrainingDatasetArtifact}
  {training : List (TrainingWindow F) × TrainingDatasetManifest}

theorem isJsonKey_modelKey (h : Baseline config modelKey history windows store) :
    ArtifactStore.isJsonKey modelPrefix modelKey :=
  (ArtifactStore.mem_listJsonObjects.mp (List.mem_of_getLast? h.latest)).2

/-- Persisting a dataset keeps the model and the history. -/
theorem of_persist (h : Baseline config modelKey history windows store) {rest : Text}
    (hpersist : persistTrainingDatasetArtifacts config.numerics store training now
      (datasetPrefix ++ rest) = (store', result))
    (hmanifest : ∃ persisted,
      store'.load (manifestKey datasetPrefix (config.historyDatasetId history)) =
        some (.dataset persisted) ∧
      persisted.windowsObjectKey = windowsKey datasetPrefix (config.historyDatasetId history) ∧
      persisted.featureSchema = historySchema history)
    (harchive : ∃ archive,
      store'.load (windowsKey datasetPrefix (config.historyDatasetId history)) =
        some (.archive archive) ∧
      config.historyArchive history = some archive ∧
      config.numerics.loadArchive archive (historySchema history) = some windows) :
    Baseline config modelKey history windows store' where
  latest := by
    rw [LifecycleConfig.latestModelMetadataKey, listJsonObjects_persist hpersist
      (isDatasetKey_manifestKey _ _).not_model (isDatasetKey_windowsKey _ _).not_model]
    exact h.latest
  metadata := by
    obtain ⟨metadata, hload, hid⟩ := h.metadata
    have hne {key : Text} (hkey : IsDatasetKey key) : modelKey ≠ key :=
      fun heq => hkey.not_model (heq ▸ h.isJsonKey_modelKey)
    refine ⟨metadata, ?_, hid⟩
    rw [load_persist hpersist (hne (isDatasetKey_manifestKey _ _))
      (hne (isDatasetKey_windowsKey _ _))]
    exact hload
  manifest := hmanifest
  archive := harchive
  nonempty := h.nonempty
  grown := by
    rw [validArtifacts_persist hpersist (isDatasetKey_manifestKey _ _).not_valid
      (isDatasetKey_windowsKey _ _).not_valid]
    exact h.grown

/-- Persisting the training dataset of a grown history keeps the baseline: under the same keys it
is the same dataset. -/
theorem persist_training (h : Baseline config modelKey history windows store)
    (hends : EndsInOrder store) (hrounds : Unambiguous (EligibleRound store))
    (htraining : config.trainingDataset store = some training)
    (hpersist : persistTrainingDatasetArtifacts config.numerics store training now datasetPrefix =
      (store', result)) :
    Baseline config modelKey history windows store' := by
  obtain ⟨-, artifacts, hvalid, rfl⟩ := trainingDataset_eq_some htraining
  obtain ⟨artifacts', hvalid', hgrown⟩ := h.grown
  obtain rfl := Option.some.inj (hvalid.symm.trans hvalid')
  have hgrown := grown_of_endsInOrder hvalid hgrown hends
  obtain ⟨persisted, hload, hkey, hschema⟩ := h.manifest
  obtain ⟨archive, harchive, hwritten, hwindows⟩ := h.archive
  have hpersist' := hpersist
  rw [← List.append_nil datasetPrefix] at hpersist
  by_cases hid : config.historyDatasetId artifacts = config.historyDatasetId history
  · obtain ⟨hschemas, hrecords⟩ := history_of_sameId hvalid hgrown hrounds h.nonempty hid
    have hwritten' : config.historyArchive artifacts = some archive := by
      rw [← hwritten, LifecycleConfig.historyArchive, LifecycleConfig.historyArchive,
        LifecycleConfig.historyWindows, LifecycleConfig.historyWindows, hschemas, hrecords]
    have hmanifest : store'.load (manifestKey datasetPrefix (config.historyDatasetId artifacts)) =
        some (.dataset _) := load_manifest_persist hpersist'
    have harchive' : store'.load (windowsKey datasetPrefix (config.historyDatasetId artifacts)) =
        some (.archive archive) := load_windows_persist hpersist' hwritten'
    rw [hid] at hmanifest harchive'
    exact h.of_persist hpersist ⟨_, hmanifest, congrArg (windowsKey datasetPrefix) hid, hschemas⟩
      ⟨archive, harchive', hwritten, hwindows⟩
  · -- under other keys
    refine h.of_persist hpersist ⟨persisted, ?_, hkey, hschema⟩
      ⟨archive, ?_, hwritten, hwindows⟩
    · rw [load_persist hpersist' (fun heq => hid (manifestKey_inj heq).symm)
        (manifestKey_ne_windowsKey _ _ _ _)]
      exact hload
    · rw [load_persist hpersist' (manifestKey_ne_windowsKey _ _ _ _).symm
        (fun heq => hid (windowsKey_inj heq).symm)]
      exact harchive

/-- So does persisting an evaluation dataset, under other keys. -/
theorem persist_evaluation (h : Baseline config modelKey history windows store)
    (hpersist : persistTrainingDatasetArtifacts config.numerics store training now
      (datasetPrefix ++ text "evaluation/") = (store', result)) :
    Baseline config modelKey history windows store' := by
  obtain ⟨persisted, hload, hkey, hschema⟩ := h.manifest
  obtain ⟨archive, harchive, hwritten, hwindows⟩ := h.archive
  refine h.of_persist hpersist ⟨persisted, ?_, hkey, hschema⟩ ⟨archive, ?_, hwritten, hwindows⟩
  · exact (load_persist hpersist (evaluationKey_ne _ _ _).symm
      (evaluationKey_ne _ _ _).symm).trans hload
  · exact (load_persist hpersist (evaluationKey_ne _ _ _).symm
      (evaluationKey_ne _ _ _).symm).trans harchive

/-- An inference loads the windows of the baseline. -/
theorem inference (h : Baseline config modelKey history windows store)
    (inferenceKey : Text) :
    (runInferenceFromPersistedDataset config.numerics store modelKey inferenceKey).source =
      some windows := by
  obtain ⟨metadata, hmetadata, hid⟩ := h.metadata
  obtain ⟨persisted, hload, hkey, hschema⟩ := h.manifest
  obtain ⟨archive, harchive, -, hwindows⟩ := h.archive
  rw [← hkey] at harchive
  rw [← hschema] at hwindows
  obtain ⟨manifest, hdataset⟩ := loadDataset_of_load hload harchive hwindows
  rw [← hid] at hload hdataset
  rw [runInferenceFromPersistedDataset, hmetadata]
  dsimp only
  rw [hload, hdataset]
  dsimp only
  split <;> rfl

/-- A call that reuses the model keeps the baseline, trains nothing and infers with it. -/
theorem reusingCall (h : Baseline config modelKey history windows store)
    (hends : EndsInOrder store) (hrounds : Unambiguous (EligibleRound store))
    (htraining : config.trainingDataset store = some training) (cycleIndex : Int) :
    let call := config.reusingCall store cycleIndex now modelKey training
    Baseline config modelKey history windows call.store ∧ call.trainedOn = none ∧
      ∀ inference, call.inference = some inference → inference.source = some windows := by
  intro call
  simp only [call, LifecycleConfig.reusingCall]
  split
  next store₁ hpersist =>
    exact ⟨h.persist_training hends hrounds htraining hpersist, rfl, nofun⟩
  next store₁ persisted hpersist =>
    have h₁ := h.persist_training hends hrounds htraining hpersist
    split
    · exact ⟨h₁, rfl, nofun⟩
    · split
      next store₂ hevaluation =>
        exact ⟨h₁.persist_evaluation hevaluation, rfl, nofun⟩
      next store₂ persistedEvaluation hevaluation =>
        have h₂ := h₁.persist_evaluation hevaluation
        split_ifs
        · exact ⟨h₂, rfl, nofun⟩
        · refine ⟨h₂, rfl, fun inference hinference => ?_⟩
          rw [← Option.some.inj hinference]
          exact h₂.inference _

/-- A valid artifact that is new and later keeps the baseline. -/
theorem add (h : Baseline config modelKey history windows store) {stored : StoredArtifact F}
    (hkey : ArtifactStore.isJsonKey validArtifactPrefix stored.1)
    (hnew : store.load stored.1 = none)
    (hlater : ∀ key old, ArtifactStore.isJsonKey validArtifactPrefix key →
      store.load key = some (.artifact old) →
        EndsBefore old.windowEndedAt stored.2.windowEndedAt ∧ stored.2.roundId ≠ old.roundId) :
    Baseline config modelKey history windows (store.save stored.1 (.artifact stored.2)) where
  latest := by
    rw [LifecycleConfig.latestModelMetadataKey,
      ArtifactStore.listJsonObjects_save_of_not (not_model_of_valid hkey)]
    exact h.latest
  metadata := by
    obtain ⟨metadata, hload, hid⟩ := h.metadata
    have hne : modelKey ≠ stored.1 :=
      fun heq => not_model_of_valid hkey (heq ▸ h.isJsonKey_modelKey)
    exact ⟨metadata, (ArtifactStore.load_save_of_ne hne).trans hload, hid⟩
  manifest := by
    obtain ⟨persisted, hload, hmanifest⟩ := h.manifest
    refine ⟨persisted, (ArtifactStore.load_save_of_ne fun heq => ?_).trans hload, hmanifest⟩
    exact (isDatasetKey_manifestKey [] _).not_valid (heq ▸ hkey)
  archive := by
    obtain ⟨archive, hload, harchive⟩ := h.archive
    refine ⟨archive, (ArtifactStore.load_save_of_ne fun heq => ?_).trans hload, harchive⟩
    exact (isDatasetKey_windowsKey [] _).not_valid (heq ▸ hkey)
  nonempty := h.nonempty
  grown := by
    obtain ⟨artifacts, hvalid, hgrown⟩ := h.grown
    obtain ⟨artifacts', hvalid', hsublist⟩ := ArtifactStore.validArtifacts_save_of_new hvalid hnew
    refine ⟨artifacts', hvalid', hgrown.sublist.trans hsublist,
      ArtifactStore.nodup_validArtifacts hvalid', fun artifact hartifact hother old hold => ?_⟩
    obtain ⟨hjson, hload⟩ := (ArtifactStore.mem_validArtifacts hvalid').mp hartifact
    obtain ⟨hjsonOld, hloadOld⟩ :=
      (ArtifactStore.mem_validArtifacts hvalid).mp (hgrown.sublist.subset hold)
    by_cases heq : artifact.1 = stored.1
    · rw [heq, ArtifactStore.load_save] at hload
      rw [← StoredObject.artifact.inj (Option.some.inj hload)]
      exact hlater _ _ hjsonOld hloadOld
    · rw [ArtifactStore.load_save_of_ne heq] at hload
      have hmem := (ArtifactStore.mem_validArtifacts hvalid).mpr ⟨hjson, hload⟩
      exact hgrown.later _ hmem hother _ hold

end Baseline

section Training

variable {config : LifecycleConfig F A} {store store₁ store₂ : ArtifactStore F A}
  {training : List (TrainingWindow F) × TrainingDatasetManifest} {cycleIndex : Int} {now : Text}
  {result : Option PersistedTrainingDatasetArtifact} {windows : List (TrainingWindow F)}
  {metadata : FingerprintModelArtifact} {persisted : PersistedTrainingDatasetArtifact}

omit [FloatArith F] in
theorem latest_persist (hpersist : persistTrainingDatasetArtifacts config.numerics store training
    now datasetPrefix = (store₁, result)) :
    LifecycleConfig.latestModelMetadataKey store₁ =
      LifecycleConfig.latestModelMetadataKey store := by
  rw [← List.append_nil datasetPrefix] at hpersist
  rw [LifecycleConfig.latestModelMetadataKey, LifecycleConfig.latestModelMetadataKey,
    listJsonObjects_persist hpersist (isDatasetKey_manifestKey _ _).not_model
      (isDatasetKey_windowsKey _ _).not_model]

theorem baseline_of_train {artifacts : List (StoredArtifact F)}
    (hnone : LifecycleConfig.latestModelMetadataKey store = none)
    (hvalid : store.validArtifacts = some artifacts) (hne : historyRecords artifacts ≠ [])
    (hpersist : persistTrainingDatasetArtifacts config.numerics store
      (buildNormalTrainingWindows store.bucket config.sequenceLength.toNat artifacts) now
      datasetPrefix = (store₁, some persisted))
    (htrain : trainAndSaveFromPersistedDataset config.numerics store₁ persisted.manifestObjectKey
      now = (store₂, some (metadata, windows))) :
    ∃ modelKey, Baseline config modelKey artifacts windows store₂ := by
  obtain ⟨manifest, weights, modelId, hload, hsource, -, rfl⟩ := train_eq_some htrain
  obtain ⟨persisted', archive, hmanifest, harchive, hwindows, hid⟩ := loadDataset_eq_some hload
  have hmetadataKey {key : Text} (hkey : IsDatasetKey key) : key ≠ metadataKey modelId :=
    fun heq => hkey.not_model (heq ▸ isJsonKey_metadataKey modelId)
  have hload₂ {key : Text} {object : StoredObject F A} (hkey : IsDatasetKey key)
      (hobject : store₁.load key = some object) :
      ((store₁.save (weightsKey modelId) (.weights weights)).save (metadataKey modelId)
        (.metadata metadata)).load key = some object := by
    rw [ArtifactStore.load_save_of_ne (hmetadataKey hkey),
      ArtifactStore.load_save_of_ne (hkey.ne_weightsKey modelId), hobject]
  rcases persist_cases hpersist with ⟨hresult, -⟩ | ⟨written, hwritten, hresult, -⟩
  · cases hresult
  obtain rfl := Option.some.inj hresult
  have hdataset := load_manifest_persist hpersist
  have harchived := load_windows_persist hpersist hwritten
  have hpersisted := hmanifest.symm.trans hdataset
  rw [StoredObject.dataset.inj (Option.some.inj hpersisted)] at harchive hwindows hid
  have hsame := harchive.symm.trans harchived
  rw [StoredObject.archive.inj (Option.some.inj hsame)] at hwindows
  refine ⟨metadataKey modelId, ?_, ⟨metadata, ArtifactStore.load_save, hsource.trans hid⟩,
    ⟨_, hload₂ (isDatasetKey_manifestKey [] _) hdataset, rfl, rfl⟩,
    ⟨written, hload₂ (isDatasetKey_windowsKey [] _) harchived, hwritten, hwindows⟩, hne,
    artifacts, ?_, Grown.refl (ArtifactStore.nodup_validArtifacts hvalid)⟩
  · rw [LifecycleConfig.latestModelMetadataKey, ArtifactStore.listJsonObjects_save_of_nil _
      (isJsonKey_metadataKey modelId)]
    · rfl
    · rw [ArtifactStore.listJsonObjects_save_of_not (not_model_weightsKey modelId)]
      exact List.getLast?_eq_none_iff.mp ((latest_persist hpersist).trans hnone)
  · rw [ArtifactStore.validArtifacts_save_of_not (not_valid_metadataKey modelId),
      ArtifactStore.validArtifacts_save_of_not (not_valid_weightsKey modelId)]
    rw [← List.append_nil datasetPrefix] at hpersist
    rw [validArtifacts_persist hpersist (isDatasetKey_manifestKey _ _).not_valid
      (isDatasetKey_windowsKey _ _).not_valid, hvalid]

/-- A history that reaches the threshold with a window has a record. -/
theorem records_of_reaches {artifacts : List (StoredArtifact F)} {bucket : Text}
    (hlength : 0 < config.sequenceLength) (h : config.reaches
      (buildNormalTrainingWindows bucket config.sequenceLength.toNat artifacts).2) :
    historyRecords artifacts ≠ [] := by
  intro hnil
  have hwindows : (config.historyWindows artifacts).length ≠ 0 :=
    of_decide_eq_true (Bool.and_eq_true_iff.mp h).2
  have hshort : (historyRecords artifacts).length < config.sequenceLength.toNat := by
    rw [hnil, List.length_nil]
    omega
  rw [LifecycleConfig.historyWindows, windowsOf, if_pos hshort] at hwindows
  exact hwindows rfl

/-- A training that writes metadata where there were none has written a baseline. -/
theorem trainingCall_baseline
    (hnone : LifecycleConfig.latestModelMetadataKey store = none)
    (htraining : config.trainingDataset store = some training)
    (hreaches : config.reaches training.2)
    (hwrites : LifecycleConfig.latestModelMetadataKey
      (config.trainingCall store cycleIndex now training).store ≠ none) :
    ∃ modelKey history windows,
      (config.trainingCall store cycleIndex now training).trainedOn = some windows ∧
      Baseline config modelKey history windows
        (config.trainingCall store cycleIndex now training).store := by
  obtain ⟨hlength, artifacts, hvalid, rfl⟩ := trainingDataset_eq_some htraining
  rw [LifecycleConfig.trainingCall] at hwrites ⊢
  split at hwrites
  next store₁ hpersist => exact absurd ((latest_persist hpersist).trans hnone) hwrites
  next store₁ persisted hpersist =>
    split at hwrites
    next store₂ htrain =>
      rw [train_eq_none htrain] at hwrites
      exact absurd ((latest_persist hpersist).trans hnone) hwrites
    next store₂ metadata windows htrain =>
      obtain ⟨modelKey, hbaseline⟩ := baseline_of_train hnone hvalid
        (records_of_reaches hlength hreaches) hpersist htrain
      exact ⟨modelKey, artifacts, windows, rfl, hbaseline⟩

omit [FloatArith F] in
theorem trainingCall_inference :
    (config.trainingCall store cycleIndex now training).inference = none := by
  rw [LifecycleConfig.trainingCall]
  split
  · rfl
  · split <;> rfl

end Training

/-! ## Runs -/

/-- A call of a run and the store before it -/
structure CallRecord (F A : Type) where
  before : ArtifactStore F A
  call : Call F A

variable {config : LifecycleConfig F A} {trace : List (CallRecord F A)} {store : ArtifactStore F A}

/-- The eligible history of a call reaches the threshold with a window. -/
def CallRecord.Reaches (config : LifecycleConfig F A) (record : CallRecord F A) : Prop :=
  ∃ training, config.trainingDataset record.before = some training ∧ config.reaches training.2

/-- The runs from a store without metadata. Valid artifacts are added, each with a new round and a
later end, and between them there are calls. A training writes its metadata. -/
inductive Run (config : LifecycleConfig F A) :
    List (CallRecord F A) → ArtifactStore F A → Prop
  | nil {store : ArtifactStore F A} :
    LifecycleConfig.latestModelMetadataKey store = none → Run config [] store
  | add {trace : List (CallRecord F A)} {store : ArtifactStore F A} {stored : StoredArtifact F} :
    Run config trace store → ArtifactStore.isJsonKey validArtifactPrefix stored.1 →
    store.load stored.1 = none →
    (∀ key old, ArtifactStore.isJsonKey validArtifactPrefix key →
      store.load key = some (.artifact old) →
        EndsBefore old.windowEndedAt stored.2.windowEndedAt ∧ stored.2.roundId ≠ old.roundId) →
    Run config trace (store.save stored.1 (.artifact stored.2))
  | call {trace : List (CallRecord F A)} {store : ArtifactStore F A} {cycleIndex : Int}
    {now : Text} {call : Call F A} :
    Run config trace store →
    call = config.executeDeferredFingerprintLifecycle store cycleIndex now →
    (LifecycleConfig.latestModelMetadataKey store = none →
      CallRecord.Reaches config ⟨store, call⟩ →
        LifecycleConfig.latestModelMetadataKey call.store ≠ none) →
    Run config (trace ++ [⟨store, call⟩]) call.store

/-- Training happens once and its baseline is stable. -/
structure StableBaseline (config : LifecycleConfig F A) (trace : List (CallRecord F A)) : Prop where
  trainsOnce : ∀ before record after, trace = before ++ record :: after →
    (record.call.trainedOn.isSome ↔
      record.Reaches config ∧ ∀ earlier ∈ before, ¬earlier.Reaches config)
  infersLater : ∀ before record after, trace = before ++ record :: after →
    record.call.inference.isSome → ∃ earlier ∈ before, earlier.call.trainedOn.isSome
  infersBaseline : ∀ before record after inference, trace = before ++ record :: after →
    record.call.inference = some inference → ∃ earlier ∈ before, ∃ windows,
      earlier.call.trainedOn = some windows ∧ inference.source = some windows

/-- What has been reached: nothing and no metadata, or a training and its baseline. -/
inductive Progress (config : LifecycleConfig F A) (trace : List (CallRecord F A))
    (store : ArtifactStore F A) : Prop
  | deferred : LifecycleConfig.latestModelMetadataKey store = none →
    (∀ record ∈ trace, ¬record.Reaches config) → Progress config trace store
  | trained {modelKey : Text} {history : List (StoredArtifact F)}
    {windows : List (TrainingWindow F)} {record : CallRecord F A} :
    Baseline config modelKey history windows store → record ∈ trace →
    record.Reaches config → record.call.trainedOn = some windows → Progress config trace store

/-- A call from a store without metadata. -/
theorem call_of_deferred {cycleIndex : Int} {now : Text} {call : Call F A}
    (hnone : LifecycleConfig.latestModelMetadataKey store = none)
    (hcall : call = config.executeDeferredFingerprintLifecycle store cycleIndex now)
    (hwrites : CallRecord.Reaches config ⟨store, call⟩ →
      LifecycleConfig.latestModelMetadataKey call.store ≠ none) :
    call.inference = none ∧
      ((¬CallRecord.Reaches config ⟨store, call⟩ ∧ call.trainedOn = none ∧ call.store = store) ∨
        CallRecord.Reaches config ⟨store, call⟩ ∧ ∃ modelKey history windows,
          call.trainedOn = some windows ∧
            Baseline config modelKey history windows call.store) := by
  rw [LifecycleConfig.executeDeferredFingerprintLifecycle] at hcall
  split at hcall
  next hnothing =>
    subst hcall
    refine ⟨rfl, .inl ⟨?_, rfl, rfl⟩⟩
    rintro ⟨training, htraining, -⟩
    cases hnothing.symm.trans htraining
  next training htraining =>
    rw [hnone] at hcall
    dsimp only at hcall
    split_ifs at hcall with hreaches
    · subst hcall
      refine ⟨rfl, .inl ⟨?_, rfl, rfl⟩⟩
      rintro ⟨training', htraining', hreaches'⟩
      cases htraining.symm.trans htraining'
      simp [hreaches'] at hreaches
    · have hreaches : config.reaches training.2 := by simpa using hreaches
      have hrecord : CallRecord.Reaches config ⟨store, call⟩ := ⟨training, htraining, hreaches⟩
      have hwritten := hwrites hrecord
      rw [hcall] at hwritten
      refine ⟨?_, .inr ⟨hrecord, ?_⟩⟩
      · rw [hcall]
        exact trainingCall_inference
      · rw [hcall]
        exact trainingCall_baseline hnone htraining hreaches hwritten

/-- A call from a store with a baseline. -/
theorem call_of_trained {modelKey : Text} {history : List (StoredArtifact F)}
    {windows : List (TrainingWindow F)} (h : Baseline config modelKey history windows store)
    (hends : EndsInOrder store) (hrounds : Unambiguous (EligibleRound store)) (cycleIndex : Int)
    (now : Text) :
    let call := config.executeDeferredFingerprintLifecycle store cycleIndex now
    Baseline config modelKey history windows call.store ∧ call.trainedOn = none ∧
      ∀ inference, call.inference = some inference → inference.source = some windows := by
  intro call
  simp only [call, LifecycleConfig.executeDeferredFingerprintLifecycle]
  split
  next => exact ⟨h, rfl, nofun⟩
  next training htraining =>
    rw [h.latest]
    exact h.reusingCall hends hrounds htraining cycleIndex

namespace StableBaseline

theorem nil : StableBaseline config ([] : List (CallRecord F A)) where
  trainsOnce _ _ _ heq := by simp at heq
  infersLater _ _ _ heq := by simp at heq
  infersBaseline _ _ _ _ heq := by simp at heq

/-- Another call -/
theorem concat {record : CallRecord F A} (h : StableBaseline config trace)
    (htrains : record.call.trainedOn.isSome ↔
      record.Reaches config ∧ ∀ earlier ∈ trace, ¬earlier.Reaches config)
    (hinfers : ∀ inference, record.call.inference = some inference →
      ∃ earlier ∈ trace, ∃ windows, earlier.call.trainedOn = some windows ∧
        inference.source = some windows) :
    StableBaseline config (trace ++ [record]) := by
  have hsplit {before after : List (CallRecord F A)} {other : CallRecord F A}
      (heq : trace ++ [record] = before ++ other :: after) :
      (trace = before ∧ other = record) ∨ ∃ after', trace = before ++ other :: after' := by
    rcases List.eq_nil_or_concat after with rfl | ⟨after', last, rfl⟩
    · obtain ⟨rfl, hlast⟩ := List.append_inj' heq rfl
      exact .inl ⟨rfl, (List.cons.inj hlast).1.symm⟩
    · rw [List.concat_eq_append, ← List.cons_append, ← List.append_assoc] at heq
      exact .inr ⟨after', (List.append_inj' heq rfl).1⟩
  constructor
  · intro before other after heq
    rcases hsplit heq with ⟨rfl, rfl⟩ | ⟨after', htrace⟩
    · exact htrains
    · exact h.trainsOnce before other after' htrace
  · intro before other after heq hinference
    rcases hsplit heq with ⟨rfl, rfl⟩ | ⟨after', htrace⟩
    · obtain ⟨inference, hinference⟩ := Option.isSome_iff_exists.mp hinference
      obtain ⟨earlier, hearlier, windows, htrained, -⟩ := hinfers inference hinference
      exact ⟨earlier, hearlier, by rw [htrained]; rfl⟩
    · exact h.infersLater before other after' htrace hinference
  · intro before other after inference heq hinference
    rcases hsplit heq with ⟨rfl, rfl⟩ | ⟨after', htrace⟩
    · exact hinfers inference hinference
    · exact h.infersBaseline before other after' inference htrace hinference

end StableBaseline

/-- Every run over such windows and rounds has made progress and is stable. -/
theorem progress_of_run (run : Run config trace store)
    (hends : ∀ record ∈ trace, EndsInOrder record.before)
    (hrounds : ∀ record ∈ trace, Unambiguous (EligibleRound record.before)) :
    Progress config trace store ∧ StableBaseline config trace := by
  induction run with
  | nil hnone => exact ⟨.deferred hnone fun _ hrecord => (nomatch hrecord), .nil⟩
  | @add trace store stored run hkey hnew hlater ih =>
    obtain ⟨hprogress, hstable⟩ := ih hends hrounds
    refine ⟨?_, hstable⟩
    cases hprogress with
    | deferred hnone hreaches =>
      refine .deferred ?_ hreaches
      rw [LifecycleConfig.latestModelMetadataKey,
        ArtifactStore.listJsonObjects_save_of_not (not_model_of_valid hkey)]
      exact hnone
    | trained hbaseline hrecord hreaches htrained =>
      exact .trained (hbaseline.add hkey hnew hlater) hrecord hreaches htrained
  | @call trace store cycleIndex now call run hcall hwrites ih =>
    obtain ⟨hprogress, hstable⟩ := ih
      (fun record hrecord => hends record (List.mem_append_left _ hrecord))
      (fun record hrecord => hrounds record (List.mem_append_left _ hrecord))
    have hends := hends ⟨store, call⟩ (List.mem_append_right _ List.mem_cons_self)
    have hrounds := hrounds ⟨store, call⟩ (List.mem_append_right _ List.mem_cons_self)
    cases hprogress with
    | deferred hnone hreaches =>
      obtain ⟨hinference, hcases⟩ := call_of_deferred hnone hcall (hwrites hnone)
      have hinfers (inference : Inference F) (heq : call.inference = some inference) :
          ∃ earlier ∈ trace, ∃ windows, earlier.call.trainedOn = some windows ∧
            inference.source = some windows := by
        cases hinference.symm.trans heq
      rcases hcases with ⟨hnot, htrained, hsame⟩ |
        ⟨hrecord, modelKey, history, windows, htrained, hbaseline⟩
      · constructor
        · refine .deferred (by rw [hsame]; exact hnone) fun record hmem => ?_
          rcases List.mem_append.mp hmem with hmem | hmem
          · exact hreaches record hmem
          · rw [List.mem_singleton.mp hmem]
            exact hnot
        · refine hstable.concat ?_ hinfers
          rw [htrained]
          exact ⟨fun h => (nomatch h), fun h => absurd h.1 hnot⟩
      · constructor
        · exact .trained hbaseline (List.mem_append_right _ List.mem_cons_self) hrecord htrained
        · refine hstable.concat ?_ hinfers
          rw [htrained]
          exact ⟨fun _ => ⟨hrecord, hreaches⟩, fun _ => rfl⟩
    | @trained modelKey history windows record hbaseline hrecord hreaches htrained =>
      obtain ⟨hbaseline', hnone, hinfers⟩ :=
        call_of_trained hbaseline hends hrounds cycleIndex now
      rw [← hcall] at hbaseline' hnone hinfers
      constructor
      · exact .trained hbaseline' (List.mem_append_left _ hrecord) hreaches htrained
      · refine hstable.concat ?_ fun inference hinference =>
          ⟨record, hrecord, windows, htrained, hinfers inference hinference⟩
        rw [hnone]
        exact ⟨fun h => (nomatch h), fun h => absurd hreaches (h.2 record hrecord)⟩

/-- In every run, while the windows end in the order of their texts and the rounds are
unambiguous, training happens once and the baseline is stable. -/
theorem baseline_stable (run : Run config trace store)
    (hends : ∀ record ∈ trace, EndsInOrder record.before)
    (hrounds : ∀ record ∈ trace, Unambiguous (EligibleRound record.before)) :
    StableBaseline config trace :=
  (progress_of_run run hends hrounds).2

/-! ## Two runs -/

omit [FloatArith F] in
theorem endsInOrder_of_forall {artifacts : List (StoredArtifact F)}
    (hvalid : store.validArtifacts = some artifacts)
    (h : ∀ artifact ∈ artifacts, ∀ artifact' ∈ artifacts,
      EndsBefore artifact.2.windowEndedAt artifact'.2.windowEndedAt →
        artifact.2.windowEndedAt < artifact'.2.windowEndedAt) :
    EndsInOrder store := by
  intro key key' artifact artifact' hjson hjson' hload hload'
  have hmem {key : Text} {artifact : ValidArtifact F}
      (hjson : ArtifactStore.isJsonKey validArtifactPrefix key)
      (hload : store.load key = some (.artifact artifact)) : (key, artifact) ∈ artifacts :=
    (ArtifactStore.mem_validArtifacts hvalid).mpr ⟨hjson, hload⟩
  exact h _ (hmem hjson hload) _ (hmem hjson' hload')

omit [FloatArith F] in
theorem unambiguous_of_forall {artifacts : List (StoredArtifact F)}
    (hvalid : store.validArtifacts = some artifacts)
    (h : ∀ artifact ∈ artifacts, ':'.codePoint ∉ artifact.2.roundId) :
    Unambiguous (EligibleRound store) := by
  refine unambiguous_of_colonless fun roundId hround => ?_
  obtain ⟨key, artifact, hjson, hload, -, rfl⟩ := hround
  exact h (key, artifact) ((ArtifactStore.mem_validArtifacts hvalid).mpr ⟨hjson, hload⟩)

/-- Archives that hold the windows and models that leave no errors -/
def sampleNumerics : Numerics ℚ (List (TrainingWindow ℚ)) where
  savez windows _ _ := some windows
  loadArchive windows schema :=
    some (windows.map fun window => { window with featureSchema := schema })
  fit _ := some []
  reconstructionErrors _ windows := some (windows.map fun _ => 0)
  anomalyThreshold _ := 0

def sampleLifecycle : LifecycleConfig ℚ (List (TrainingWindow ℚ)) := ⟨sampleNumerics, 2, 2⟩

def normalArtifact (roundId ended : String) : StoredArtifact ℚ :=
  (validArtifactPrefix ++ text roundId ++ text ".json",
    { finalConsensusStatus := text "success"
      roundId := text roundId
      windowEndedAt := text ended
      datasetContext := some ⟨text "normal", text "normal", true, text "normal_eligible"⟩
      hasScadaDivergence := false
      payloadsBySensor := [(text "pressure", ⟨12, false, false, false⟩)] })

def firstRound : StoredArtifact ℚ := normalArtifact "round-1" "2026-01-01T12:00:00+00:00"

def secondRound : StoredArtifact ℚ := normalArtifact "round-2" "2026-01-01T13:00:00+00:00"

/-- A call on two rounds, which trains -/
def sampleTraining : CallRecord ℚ (List (TrainingWindow ℚ)) :=
  let store : ArtifactStore ℚ (List (TrainingWindow ℚ)) :=
    ((⟨text "bucket", ∅⟩ : ArtifactStore ℚ _).save firstRound.1 (.artifact firstRound.2)).save
      secondRound.1 (.artifact secondRound.2)
  ⟨store, sampleLifecycle.executeDeferredFingerprintLifecycle store 2 (text "2026-01-01T13:01:00")⟩

/-- The next call, after a third round -/
def sampleReuse (ended : String) : CallRecord ℚ (List (TrainingWindow ℚ)) :=
  let thirdRound := normalArtifact "round-3" ended
  let store := sampleTraining.call.store.save thirdRound.1 (.artifact thirdRound.2)
  ⟨store, sampleLifecycle.executeDeferredFingerprintLifecycle store 3 (text "2026-01-01T14:01:00")⟩

theorem validArtifacts_sampleTraining :
    sampleTraining.before.validArtifacts = some [firstRound, secondRound] ∧
      sampleTraining.call.store.validArtifacts = some [firstRound, secondRound] := by
  decide +kernel

theorem run_sample (ended : String) (h : EndsBefore firstRound.2.windowEndedAt (text ended))
    (h' : EndsBefore secondRound.2.windowEndedAt (text ended)) :
    Run sampleLifecycle [sampleTraining, sampleReuse ended] (sampleReuse ended).call.store := by
  have hfirst : Run sampleLifecycle ([] ++ [sampleTraining]) sampleTraining.call.store :=
    .call (.nil (by decide +kernel)) rfl fun _ _ => by decide +kernel
  have hkey : ArtifactStore.isJsonKey validArtifactPrefix (normalArtifact "round-3" ended).1 := by
    show ArtifactStore.isJsonKey validArtifactPrefix (normalArtifact "round-3" "").1
    decide +kernel
  refine .call (.add hfirst hkey ?_ fun key old hjson hload => ?_) rfl fun hnone _ => ?_
  · show sampleTraining.call.store.load (normalArtifact "round-3" "").1 = none
    exact Option.isNone_iff_eq_none.mp (by decide +kernel)
  · have hmem : (key, old) ∈ [firstRound, secondRound] :=
      (ArtifactStore.mem_validArtifacts validArtifacts_sampleTraining.2).mpr ⟨hjson, hload⟩
    rcases List.mem_cons.mp hmem with heq | hmem
    · cases heq
      exact ⟨h, show text "round-3" ≠ text "round-1" by decide⟩
    · cases List.mem_singleton.mp hmem
      exact ⟨h', show text "round-3" ≠ text "round-2" by decide⟩
  · rw [LifecycleConfig.latestModelMetadataKey,
      ArtifactStore.listJsonObjects_save_of_not (not_model_of_valid hkey)] at hnone
    have hwritten : LifecycleConfig.latestModelMetadataKey sampleTraining.call.store ≠ none := by
      decide +kernel
    exact absurd hnone hwritten

/-- A third round that ends later in the order of texts, too -/
theorem sampleRun_stable : StableBaseline sampleLifecycle
    [sampleTraining, sampleReuse "2026-01-01T14:00:00+00:00"] := by
  have hvalid : (sampleReuse "2026-01-01T14:00:00+00:00").before.validArtifacts =
      some [firstRound, secondRound, normalArtifact "round-3" "2026-01-01T14:00:00+00:00"] := by
    decide +kernel
  refine baseline_stable (run_sample _ (by decide +kernel) (by decide +kernel)) ?_ ?_
  · intro record hrecord
    rcases List.mem_cons.mp hrecord with rfl | hrecord
    · exact endsInOrder_of_forall validArtifacts_sampleTraining.1 (by decide +kernel)
    · rw [List.mem_singleton.mp hrecord]
      exact endsInOrder_of_forall hvalid (by decide +kernel)
  · intro record hrecord
    rcases List.mem_cons.mp hrecord with rfl | hrecord
    · exact unambiguous_of_forall validArtifacts_sampleTraining.1 (by decide +kernel)
    · rw [List.mem_singleton.mp hrecord]
      exact unambiguous_of_forall hvalid (by decide +kernel)

/-- A third round that ends later, with an offset that puts its text between the others: the dataset
keeps its identifier, and the inference loads other windows than the model was trained on. -/
theorem baseline_overwritten : ∃ trace store, Run sampleLifecycle trace store ∧
    ¬StableBaseline sampleLifecycle trace := by
  refine ⟨_, _, run_sample "2026-01-01T12:30:00-01:00" (by decide +kernel)
    (by decide +kernel), fun hstable => ?_⟩
  have hinfers : (sampleReuse "2026-01-01T12:30:00-01:00").call.inference.isSome := by
    decide +kernel
  obtain ⟨inference, hinference⟩ := Option.isSome_iff_exists.mp hinfers
  obtain ⟨earlier, hearlier, windows, htrained, hsource⟩ :=
    hstable.infersBaseline [sampleTraining] _ [] inference rfl hinference
  rw [List.mem_singleton.mp hearlier] at htrained
  have hrounds : sampleTraining.call.trainedOn.map (·.map (·.roundIds)) =
      (sampleReuse "2026-01-01T12:30:00-01:00").call.inference.bind
        (·.source.map (·.map (·.roundIds))) := by
    rw [htrained, hinference, Option.bind_some, hsource]
  exact absurd hrounds (by decide +kernel)

end TruthFingerprint.Lstm
