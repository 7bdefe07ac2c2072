import Mathlib
import TruthFingerprint.Arith
import TruthFingerprint.Lib.Sorting
import TruthFingerprint.Python.Json

/-!
# Datasets of valid artifacts

The builder reads the artifacts in the order of their keys, keeps those that are eligible and have
the feature schema of the first eligible one, orders them in time and cuts windows. A dataset is
named by the first and the last round of it. A history that has grown has the same dataset when its
last selected round is an old one (`selected_of_grown`).
-/

namespace TruthFingerprint.Lstm

variable {F : Type}

/-! ## Artifacts -/

structure DatasetContext where
  scenarioLabel : Text
  trainingLabel : Text
  trainingEligible : Bool
  trainingEligibilityReason : Text
deriving DecidableEq

/-- What the builder reads of a payload -/
structure LoopPayload (F : Type) where
  loopCurrentMa : F
  fieldDeviceMalfunction : Bool
  loopCurrentSaturated : Bool
  coldStart : Bool
deriving DecidableEq

/-- What the builder reads of an artifact -/
structure ValidArtifact (F : Type) where
  finalConsensusStatus : Text
  roundId : Text
  windowEndedAt : Text
  datasetContext : Option DatasetContext
  hasScadaDivergence : Bool
  payloadsBySensor : List (Text × LoopPayload F)
deriving DecidableEq

/-- `evaluate_training_eligibility` -/
def evaluateTrainingEligibility (artifact : ValidArtifact F) : Bool × Text :=
  if artifact.finalConsensusStatus ≠ text "success" then (false, text "consensus_not_success")
  else match artifact.datasetContext with
    | none => (false, text "missing_dataset_context")
    | some context =>
      if context.trainingLabel ≠ text "normal" then (false, text "training_label_not_normal")
      else if !context.trainingEligible then (false, context.trainingEligibilityReason)
      else if artifact.hasScadaDivergence then (false, text "scada_divergence")
      else (true, text "normal_eligible")

/-- `evaluate_inference_eligibility` -/
def evaluateInferenceEligibility (artifact : ValidArtifact F) : Bool × Text :=
  if artifact.finalConsensusStatus ≠ text "success" then (false, text "consensus_not_success")
  else match artifact.datasetContext with
    | none => (false, text "missing_dataset_context")
    | some context =>
      if context.scenarioLabel.isEmpty then (false, text "missing_scenario_label")
      else if artifact.hasScadaDivergence then (false, text "scada_divergence")
      else (true, text "evaluation_eligible")

/-- The features of one sensor -/
def featureNames : List Text :=
  [text ".loop_current_ma", text ".loop_current_normalized", text ".field_device_malfunction",
    text ".loop_current_saturated", text ".cold_start"]

def sortedPayloads (artifact : ValidArtifact F) : List (Text × LoopPayload F) :=
  artifact.payloadsBySensor.insertionSort (·.1 ≤ ·.1)

/-- The first half of `extract_feature_vector` -/
def featureSchema (artifact : ValidArtifact F) : List Text :=
  (sortedPayloads artifact).flatMap fun payload => featureNames.map (payload.1 ++ ·)

variable [FloatArith F]

/-- `_bool_to_float` -/
def boolToFloat (value : Bool) : F := if value then 1.0 else 0.0

/-- `_normalize_loop_current` -/
def normalizeLoopCurrent (loopCurrentMa : F) : F := (loopCurrentMa - 4.0) / 16.0

/-- The second half of `extract_feature_vector` -/
def featureVector (artifact : ValidArtifact F) : List F :=
  (sortedPayloads artifact).flatMap fun payload =>
    [payload.2.loopCurrentMa, normalizeLoopCurrent payload.2.loopCurrentMa,
      boolToFloat payload.2.fieldDeviceMalfunction, boolToFloat payload.2.loopCurrentSaturated,
      boolToFloat payload.2.coldStart]

/-! ## Records -/

/-- An artifact with its key -/
abbrev StoredArtifact (F : Type) := Text × ValidArtifact F

/-- What is read of the artifacts: the schema of the features, the artifacts that are selected and
the keys that are skipped, with a reason. -/
structure Reading (F : Type) where
  schema : List Text
  selected : List (StoredArtifact F)
  skipped : List (Text × Text)

omit [FloatArith F] in
/-- The loop of `_build_windows_from_artifacts`. As long as the schema is empty, an eligible artifact
sets it. -/
def readArtifacts (eligibility : ValidArtifact F → Bool × Text) :
    List Text → List (StoredArtifact F) → Reading F
  | schema, [] => ⟨schema, [], []⟩
  | schema, (key, artifact) :: rest =>
    if !(eligibility artifact).1 then
      let reading := readArtifacts eligibility schema rest
      { reading with skipped := (key, (eligibility artifact).2) :: reading.skipped }
    else if schema = [] ∨ featureSchema artifact = schema then
      let reading := readArtifacts eligibility (featureSchema artifact) rest
      { reading with selected := (key, artifact) :: reading.selected }
    else
      let reading := readArtifacts eligibility schema rest
      { reading with skipped := (key, text "feature_schema_mismatch") :: reading.skipped }

/-- `_EligibleArtifact` -/
structure EligibleArtifact (F : Type) where
  artifactKey : Text
  roundId : Text
  timestamp : Text
  featureVector : List F
  label : Text

def eligibleRecord (artifact : StoredArtifact F) : EligibleArtifact F :=
  ⟨artifact.1, artifact.2.roundId, artifact.2.windowEndedAt, featureVector artifact.2,
    (artifact.2.datasetContext.map (·.scenarioLabel)).getD (text "unknown")⟩

omit [FloatArith F] in
def EligibleArtifact.key (record : EligibleArtifact F) : Text ×ₗ Text :=
  toLex (record.timestamp, record.artifactKey)

/-- The records, ordered by time and key -/
def eligibleRecords (selected : List (StoredArtifact F)) : List (EligibleArtifact F) :=
  (selected.map eligibleRecord).insertionSort (·.key ≤ ·.key)

/-! ## Windows and the manifest -/

structure TrainingWindow (F : Type) where
  windowId : Text
  artifactKeys : List Text
  roundIds : List Text
  timestamps : List Text
  featureSchema : List Text
  featureMatrix : List (List F)
  label : Text

omit [FloatArith F] in
/-- The text of an end of a list, which is not empty where it is used -/
def endText (record : Option (EligibleArtifact F)) : Text := (record.map (·.roundId)).getD []

omit [FloatArith F] in
def windowOf (schema : List Text) (chunk : List (EligibleArtifact F)) : TrainingWindow F where
  windowId := text "window::" ++ endText chunk.head? ++ text "::" ++ endText chunk.getLast?
  artifactKeys := chunk.map (·.artifactKey)
  roundIds := chunk.map (·.roundId)
  timestamps := chunk.map (·.timestamp)
  featureSchema := schema
  featureMatrix := chunk.map (·.featureVector)
  label :=
    let first := (chunk.head?.map (·.label)).getD []
    if chunk.all (·.label = first) then first else text "mixed"

omit [FloatArith F] in
/-- `_build_windows` -/
def windowsOf (records : List (EligibleArtifact F)) (schema : List Text) (sequenceLength : Nat) :
    List (TrainingWindow F) :=
  if records.length < sequenceLength then []
  else (List.range (records.length - sequenceLength + 1)).map fun start =>
    windowOf schema ((records.drop start).take sequenceLength)

omit [FloatArith F] in
/-- `_build_dataset_id` -/
def datasetIdOf (records : List (EligibleArtifact F)) (sequenceLength : Nat) : Text :=
  if records.isEmpty then
    text "training-dataset::empty::seq-" ++ DecimalText.natText sequenceLength
  else text "training-dataset::" ++ endText records.head? ++ text "::" ++
    endText records.getLast? ++ text "::seq-" ++ DecimalText.natText sequenceLength

structure TrainingDatasetManifest where
  datasetId : Text
  sourceBucket : Text
  sourcePrefix : Text
  sequenceLength : Nat
  featureSchema : List Text
  selectedArtifactKeys : List Text
  skippedArtifacts : List (Text × Text)
  eligibleRecordCount : Nat
  windowCount : Nat
  trainingLabel : Text

def validArtifactPrefix : Text := text "valid-consensus-artifacts/"

/-- `_build_windows_from_artifacts`, after the sequence length is checked -/
def buildWindows (eligibility : ValidArtifact F → Bool × Text) (manifestLabel bucket : Text)
    (sequenceLength : Nat) (artifacts : List (StoredArtifact F)) :
    List (TrainingWindow F) × TrainingDatasetManifest :=
  let reading := readArtifacts eligibility [] artifacts
  let records := eligibleRecords reading.selected
  let windows := windowsOf records reading.schema sequenceLength
  (windows,
    { datasetId := datasetIdOf records sequenceLength
      sourceBucket := bucket
      sourcePrefix := validArtifactPrefix
      sequenceLength := sequenceLength
      featureSchema := reading.schema
      selectedArtifactKeys := records.map (·.artifactKey)
      skippedArtifacts := reading.skipped
      eligibleRecordCount := records.length
      windowCount := windows.length
      trainingLabel := manifestLabel })

def buildNormalTrainingWindows (bucket : Text) (sequenceLength : Nat)
    (artifacts : List (StoredArtifact F)) : List (TrainingWindow F) × TrainingDatasetManifest :=
  buildWindows evaluateTrainingEligibility (text "normal") bucket sequenceLength artifacts

def buildEvaluationWindows (bucket : Text) (sequenceLength : Nat)
    (artifacts : List (StoredArtifact F)) : List (TrainingWindow F) × TrainingDatasetManifest :=
  buildWindows evaluateInferenceEligibility (text "evaluation") bucket sequenceLength artifacts

/-! ## What is selected -/

section Reading

variable {eligibility : ValidArtifact F → Bool × Text} {schema : List Text}
  {artifacts before after : List (StoredArtifact F)} {artifact : StoredArtifact F}

omit [FloatArith F]

theorem selected_sublist :
    (readArtifacts eligibility schema artifacts).selected.Sublist artifacts := by
  induction artifacts generalizing schema with
  | nil => exact List.nil_sublist _
  | cons artifact rest ih =>
    obtain ⟨key, artifact⟩ := artifact
    rw [readArtifacts]
    split_ifs with hineligible hschema
    · exact ih.cons _
    · exact ih.cons_cons _
    · exact ih.cons _

theorem eligible_of_selected
    (h : artifact ∈ (readArtifacts eligibility schema artifacts).selected) :
    (eligibility artifact.2).1 := by
  induction artifacts generalizing schema with
  | nil => cases h
  | cons first rest ih =>
    obtain ⟨key, first⟩ := first
    rw [readArtifacts] at h
    split_ifs at h with hineligible hschema
    · exact ih h
    · rcases List.mem_cons.mp h with rfl | h
      · simpa using hineligible
      · exact ih h
    · exact ih h

/-- An eligible artifact is selected, or skipped because of its schema. -/
theorem selected_or_skipped (hmem : artifact ∈ artifacts) (heligible : (eligibility artifact.2).1) :
    artifact ∈ (readArtifacts eligibility schema artifacts).selected ∨
      (artifact.1, text "feature_schema_mismatch") ∈
        (readArtifacts eligibility schema artifacts).skipped := by
  induction artifacts generalizing schema with
  | nil => cases hmem
  | cons first rest ih =>
    obtain ⟨key, first⟩ := first
    rw [readArtifacts]
    rcases List.mem_cons.mp hmem with rfl | hmem
    · rw [if_neg (by simpa using heligible)]
      split_ifs with hschema
      · exact .inl List.mem_cons_self
      · exact .inr List.mem_cons_self
    · split_ifs with hineligible hschema
      · exact (ih hmem).imp_right (List.mem_cons_of_mem _)
      · exact (ih hmem).imp_left (List.mem_cons_of_mem _)
      · exact (ih hmem).imp_right (List.mem_cons_of_mem _)

/-- Artifacts that are not selected do not matter for the others. -/
theorem reading_of_sublist (hsublist : before.Sublist after) (hnodup : after.Nodup)
    (hothers : ∀ artifact ∈ after, artifact ∉ before →
      artifact ∉ (readArtifacts eligibility schema after).selected) :
    (readArtifacts eligibility schema after).schema =
        (readArtifacts eligibility schema before).schema ∧
      (readArtifacts eligibility schema after).selected =
        (readArtifacts eligibility schema before).selected := by
  induction hsublist generalizing schema with
  | slnil => exact ⟨rfl, rfl⟩
  | @cons before after artifact hsublist ih =>
    obtain ⟨key, artifact⟩ := artifact
    obtain ⟨hnew, hnodup⟩ := List.nodup_cons.mp hnodup
    have hunselected := hothers _ List.mem_cons_self fun hmem => hnew (hsublist.subset hmem)
    rw [readArtifacts] at hothers hunselected ⊢
    split_ifs at hothers hunselected ⊢ with hineligible hschema
    · exact ih hnodup fun other hother => hothers other (List.mem_cons_of_mem _ hother)
    · exact absurd List.mem_cons_self hunselected
    · exact ih hnodup fun other hother => hothers other (List.mem_cons_of_mem _ hother)
  | @cons_cons before after artifact hsublist ih =>
    obtain ⟨key, artifact⟩ := artifact
    obtain ⟨hnew, hnodup⟩ := List.nodup_cons.mp hnodup
    have hrest {other : StoredArtifact F} (hother : other ∈ after) (hmem : other ∉ before) :
        other ∉ (key, artifact) :: before := by
      intro hcons
      rcases List.mem_cons.mp hcons with rfl | hcons
      · exact hnew hother
      · exact hmem hcons
    rw [readArtifacts, readArtifacts]
    rw [readArtifacts] at hothers
    split_ifs at hothers ⊢ with hineligible hschema
    · exact ih hnodup fun other hother hmem =>
        hothers other (List.mem_cons_of_mem _ hother) (hrest hother hmem)
    · obtain ⟨hschemas, hselected⟩ := ih hnodup fun other hother hmem hsel =>
        hothers other (List.mem_cons_of_mem _ hother) (hrest hother hmem)
          (List.mem_cons_of_mem _ hsel)
      exact ⟨hschemas, congrArg (List.cons (key, artifact)) hselected⟩
    · exact ih hnodup fun other hother hmem =>
        hothers other (List.mem_cons_of_mem _ hother) (hrest hother hmem)

/-- A history that has grown: what is new ends later than everything before, in some sense, and has
another round. -/
structure Grown (endsBefore : Text → Text → Prop) (before after : List (StoredArtifact F)) :
    Prop where
  sublist : before.Sublist after
  nodup : after.Nodup
  later : ∀ artifact ∈ after, artifact ∉ before → ∀ old ∈ before,
    endsBefore old.2.windowEndedAt artifact.2.windowEndedAt ∧ artifact.2.roundId ≠ old.2.roundId

variable {endsBefore endsBefore' : Text → Text → Prop}

theorem Grown.refl (hnodup : artifacts.Nodup) : Grown endsBefore artifacts artifacts :=
  ⟨List.Sublist.refl _, hnodup, fun _ hmem hnew => absurd hmem hnew⟩

theorem Grown.mono (h : Grown endsBefore before after)
    (himp : ∀ artifact ∈ after, ∀ old ∈ before,
      endsBefore old.2.windowEndedAt artifact.2.windowEndedAt →
        endsBefore' old.2.windowEndedAt artifact.2.windowEndedAt) :
    Grown endsBefore' before after :=
  ⟨h.sublist, h.nodup, fun artifact hartifact hnew old hold =>
    (h.later artifact hartifact hnew old hold).imp_left (himp artifact hartifact old hold)⟩

end Reading

section Selection

variable {eligibility : ValidArtifact F → Bool × Text} {selected : List (StoredArtifact F)}
  {before after : List (StoredArtifact F)}

/-- The last record of a selection -/
theorem last_eligibleRecord {record : EligibleArtifact F}
    (h : (eligibleRecords selected).getLast? = some record) :
    (∃ artifact ∈ selected, eligibleRecord artifact = record) ∧
      ∀ artifact ∈ selected, (eligibleRecord artifact).key ≤ record.key := by
  obtain ⟨init, hinit⟩ := List.getLast?_eq_some_iff.mp h
  have hmem {r : EligibleArtifact F} : r ∈ eligibleRecords selected ↔
      ∃ artifact ∈ selected, eligibleRecord artifact = r := by
    rw [eligibleRecords, List.mem_insertionSort, List.mem_map]
  have hsorted : (eligibleRecords selected).Pairwise (·.key ≤ ·.key) :=
    List.pairwise_insertionSort_of_key EligibleArtifact.key fun _ _ _ _ => Iff.rfl
  refine ⟨hmem.mp (hinit ▸ List.mem_append_right _ List.mem_cons_self), fun artifact hartifact => ?_⟩
  have hin := hmem.mpr ⟨artifact, hartifact, rfl⟩
  rw [hinit] at hin hsorted
  rcases List.mem_append.mp hin with hin | hin
  · exact (List.pairwise_append.mp hsorted).2.2 _ hin _ List.mem_cons_self
  · rw [List.mem_singleton.mp hin]

/-- When the last round that is selected is an old one, nothing new is selected. -/
theorem selected_of_grown (h : Grown (· < ·) before after) {last last' : EligibleArtifact F}
    (hlast : (eligibleRecords (readArtifacts eligibility [] before).selected).getLast? = some last)
    (hlast' : (eligibleRecords (readArtifacts eligibility [] after).selected).getLast? = some last')
    (hround : last'.roundId = last.roundId) :
    (readArtifacts eligibility [] after).schema = (readArtifacts eligibility [] before).schema ∧
      (readArtifacts eligibility [] after).selected =
        (readArtifacts eligibility [] before).selected := by
  obtain ⟨⟨old, hold, rfl⟩, -⟩ := last_eligibleRecord hlast
  obtain ⟨⟨artifact, hartifact, rfl⟩, hmax⟩ := last_eligibleRecord hlast'
  have hbefore : artifact ∈ before := by
    by_contra hnew
    exact (h.later _ (selected_sublist.subset hartifact) hnew _
      (selected_sublist.subset hold)).2 hround
  refine reading_of_sublist h.sublist h.nodup fun other hother hnew hselected => ?_
  have hlater := (h.later _ hother hnew _ hbefore).1
  rcases Prod.Lex.le_iff.mp (hmax other hselected) with hlt | ⟨heq, -⟩
  · exact lt_asymm hlater hlt
  · exact hlater.ne' heq

end Selection

end TruthFingerprint.Lstm
