import Mathlib
import TruthFingerprint.OfflineTraining.Preprocessing

/-!
# What fitting sees

The preprocessing is a function of the training units, and the identity that a fitted model is bound
to is one of what a model may read of the training and the validation units: two datasets that
agree on these give the same, whatever else they hold (`fitting_isolated`).
-/

namespace TruthFingerprint.OfflineTraining

open Evidence (bytesId isEncodable)
open Python (FloatOps Value)

variable {F : Type} [FloatArith F] [FloatOps F]

/-- Units that differ in their labels, classes, events and sources only -/
structure SameModelInputs (unit unit' : AcademicUnit F) : Prop where
  unitId : unit.unitId = unit'.unitId
  groupId : unit.groupId = unit'.groupId
  nativePartition : unit.nativePartition = unit'.nativePartition
  assignedPartition : unit.assignedPartition = unit'.assignedPartition
  values : unit.values = unit'.values
  sampledSequences : unit.sampledSequences = unit'.sampledSequences
  evidenceOrigin : unit.evidenceOrigin = unit'.evidenceOrigin

omit [FloatArith F] [FloatOps F] in
theorem SameModelInputs.refl (unit : AcademicUnit F) : SameModelInputs unit unit :=
  ⟨rfl, rfl, rfl, rfl, rfl, rfl, rfl⟩

section Units

variable {numpy : Numpy F} {parameters : WindowParameters} {unit unit' : AcademicUnit F}
  {units units' : List (AcademicUnit F)}

omit [FloatArith F] in
theorem SameModelInputs.dict_eq (h : SameModelInputs unit unit') :
    unit.modelInputIdentityDict = unit'.modelInputIdentityDict := by
  simp only [AcademicUnit.modelInputIdentityDict, AcademicUnit.detectorInputIdentity,
    AcademicUnit.detectorInputDoc, h.unitId, h.groupId, h.nativePartition, h.assignedPartition,
    h.values, h.sampledSequences, h.evidenceOrigin]

omit [FloatArith F] in
theorem mapM_dict_eq (h : List.Forall₂ SameModelInputs units units') :
    units.mapM (·.modelInputIdentityDict) = units'.mapM (·.modelInputIdentityDict) := by
  induction h with
  | nil => rfl
  | cons hunit _ ih => rw [List.mapM_cons, List.mapM_cons, hunit.dict_eq, ih]

omit [FloatOps F] in
theorem SameModelInputs.candidates_eq (h : SameModelInputs unit unit') :
    parameters.candidates numpy unit = parameters.candidates numpy unit' := by
  simp only [WindowParameters.candidates, h.values, h.sampledSequences]

omit [FloatOps F] in
/-- What identifies the windows of a unit -/
theorem SameModelInputs.rows_eq (h : SameModelInputs unit unit') (partition : Partition) :
    (parameters.unitWindows numpy unit).map (·.map (windowRow partition)) =
      (parameters.unitWindows numpy unit').map (·.map (windowRow partition)) := by
  rw [WindowParameters.unitWindows, WindowParameters.unitWindows, h.candidates_eq, Option.map_map,
    Option.map_map]
  congr 1
  funext candidates
  simp only [Function.comp_apply, List.map_map, h.unitId]
  rfl

omit [FloatOps F] in
theorem partitionWindows_cons :
    parameters.partitionWindows numpy (unit :: units) =
      (parameters.unitWindows numpy unit).bind fun windows =>
        (parameters.partitionWindows numpy units).map (windows ++ ·) := by
  rw [WindowParameters.partitionWindows, WindowParameters.partitionWindows, List.mapM_cons]
  cases parameters.unitWindows numpy unit with
  | none => rfl
  | some windows =>
    cases units.mapM (parameters.unitWindows numpy) with
    | none => rfl
    | some rest => rfl

omit [FloatOps F] in
theorem partitionRows_eq (h : List.Forall₂ SameModelInputs units units') (partition : Partition) :
    (parameters.partitionWindows numpy units).map (·.map (windowRow partition)) =
      (parameters.partitionWindows numpy units').map (·.map (windowRow partition)) := by
  induction h with
  | nil => rfl
  | @cons unit unit' units units' hunit _ ih =>
    have hrows : (parameters.unitWindows numpy unit).map (·.map (windowRow partition)) =
        (parameters.unitWindows numpy unit').map (·.map (windowRow partition)) :=
      hunit.rows_eq partition
    rw [partitionWindows_cons, partitionWindows_cons]
    cases hwindows : parameters.unitWindows numpy unit with
    | none =>
      rw [hwindows, Option.map_none, eq_comm, Option.map_eq_none_iff] at hrows
      rw [hrows]
      rfl
    | some windows =>
      rw [hwindows, Option.map_some, eq_comm, Option.map_eq_some_iff] at hrows
      obtain ⟨windows', hwindows', hmap⟩ := hrows
      have happend (rest : Option (List (AcademicWindow F))) (ws : List (AcademicWindow F)) :
          (rest.map (ws ++ ·)).map (·.map (windowRow partition)) =
            (rest.map (·.map (windowRow partition))).map (ws.map (windowRow partition) ++ ·) := by
        cases rest with
        | none => rfl
        | some rest => exact congrArg some (List.map_append)
      rw [hwindows', Option.bind_some, Option.bind_some, happend, happend, ih, hmap]

end Units

section Windowed

variable {numpy : Numpy F} {parameters : WindowParameters}
  {dataset dataset' : AcademicDataset F} {windowed windowed' : WindowedDataset F}

/-- What windowing returns -/
structure Windowing (numpy : Numpy F) (parameters : WindowParameters)
    (dataset : AcademicDataset F) (windowed : WindowedDataset F) : Prop where
  train : parameters.partitionWindows numpy (dataset.partition .train) =
    some windowed.partitions.train
  validation : parameters.partitionWindows numpy (dataset.partition .validation) =
    some windowed.partitions.validation
  trainingIdentity : fitIdentity dataset parameters (dataset.partition .train)
    (windowed.partitions.train.map (windowRow .train)) = some windowed.trainingIdentity
  modelFitIdentity : fitIdentity dataset parameters
    (dataset.partition .train ++ dataset.partition .validation)
    (windowed.partitions.train.map (windowRow .train) ++
      windowed.partitions.validation.map (windowRow .validation)) = some windowed.modelFitIdentity

theorem windowing_of_eq_some (h : windowDataset numpy dataset parameters = some windowed) :
    Windowing numpy parameters dataset windowed := by
  simp only [windowDataset, Option.bind_eq_bind, Option.bind_eq_some_iff] at h
  obtain ⟨-, -, train, htrain, validation, hvalidation, test, -, -, -, -, -, identity, -,
    trainingIdentity, htraining, modelFitIdentity, hfit, h⟩ := h
  obtain rfl := Option.some.inj h
  exact ⟨htrain, hvalidation, htraining, hfit⟩

omit [FloatOps F] in
theorem rows_eq_of_partitionWindows {units units' : List (AcademicUnit F)}
    {windows windows' : List (AcademicWindow F)} {partition : Partition}
    (hunits : List.Forall₂ SameModelInputs units units')
    (h : parameters.partitionWindows numpy units = some windows)
    (h' : parameters.partitionWindows numpy units' = some windows') :
    windows.map (windowRow partition) = windows'.map (windowRow partition) := by
  have hrows : (parameters.partitionWindows numpy units).map (·.map (windowRow partition)) =
      (parameters.partitionWindows numpy units').map (·.map (windowRow partition)) :=
    partitionRows_eq hunits partition
  rw [h, h'] at hrows
  exact Option.some.inj hrows

/-- The identity of a fit is one of what models may read. -/
theorem modelFitIdentity_eq (hname : dataset.name = dataset'.name)
    (hphase : dataset.phase = dataset'.phase)
    (htrain : List.Forall₂ SameModelInputs (dataset.partition .train) (dataset'.partition .train))
    (hvalidation : List.Forall₂ SameModelInputs (dataset.partition .validation)
      (dataset'.partition .validation))
    (h : Windowing numpy parameters dataset windowed)
    (h' : Windowing numpy parameters dataset' windowed') :
    windowed.modelFitIdentity = windowed'.modelFitIdentity := by
  have hidentity := h.modelFitIdentity
  rw [rows_eq_of_partitionWindows htrain h.train h'.train,
    rows_eq_of_partitionWindows hvalidation h.validation h'.validation, fitIdentity, hname, hphase,
    mapM_dict_eq (List.rel_append htrain hvalidation)] at hidentity
  exact Option.some.inj (hidentity.symm.trans h'.modelFitIdentity)

/-- The windows of the training units and their identity -/
theorem training_eq (hname : dataset.name = dataset'.name) (hphase : dataset.phase = dataset'.phase)
    (htrain : dataset.partition .train = dataset'.partition .train)
    (h : Windowing numpy parameters dataset windowed)
    (h' : Windowing numpy parameters dataset' windowed') :
    windowed.partitions.train = windowed'.partitions.train ∧
      windowed.trainingIdentity = windowed'.trainingIdentity := by
  have hwindows : windowed.partitions.train = windowed'.partitions.train := by
    have htrain' := h.train
    rw [htrain] at htrain'
    exact Option.some.inj (htrain'.symm.trans h'.train)
  have hidentity := h.trainingIdentity
  rw [hwindows, htrain, fitIdentity, hname, hphase] at hidentity
  exact ⟨hwindows, Option.some.inj (hidentity.symm.trans h'.trainingIdentity)⟩

omit [FloatArith F] in
theorem fitVocabulary_eq (hmodality : dataset.modality = dataset'.modality)
    (hfeatures : dataset.featureNames = dataset'.featureNames)
    (htrain : dataset.partition .train = dataset'.partition .train)
    (hwindows : windowed.partitions.train = windowed'.partitions.train)
    (hidentity : windowed.trainingIdentity = windowed'.trainingIdentity) :
    fitVocabulary dataset windowed = fitVocabulary dataset' windowed' := by
  simp only [fitVocabulary, hmodality, hfeatures, htrain, hwindows, hidentity]

theorem fitScaling_eq (hmodality : dataset.modality = dataset'.modality)
    (hfeatures : dataset.featureNames = dataset'.featureNames)
    (hwindows : windowed.partitions.train = windowed'.partitions.train)
    (hidentity : windowed.trainingIdentity = windowed'.trainingIdentity)
    (clip : Python.Number F) :
    fitScaling numpy dataset windowed clip = fitScaling numpy dataset' windowed' clip := by
  simp only [fitScaling, hmodality, hfeatures, hwindows, hidentity]

/-- A fit that returns is that of the modality. -/
theorem fitPreprocessing_eq_some {clip : ClipValue F} {state : PreprocessingState F}
    (h : fitPreprocessing numpy dataset windowed clip = some state) :
    ∃ value, clip = .number value ∧
      (dataset.modality = text "categorical-syscall" ∧ fitVocabulary dataset windowed = some state ∨
        dataset.modality ≠ text "categorical-syscall" ∧
          fitScaling numpy dataset windowed value = some state) := by
  cases clip with
  | other =>
    simp only [fitPreprocessing, ite_self] at h
    exact absurd h nofun
  | number value =>
    simp only [fitPreprocessing] at h
    split_ifs at h with _ _ _ _ hcategorical
    · exact ⟨value, rfl, .inl ⟨hcategorical, h⟩⟩
    · exact ⟨value, rfl, .inr ⟨hcategorical, h⟩⟩

end Windowed

/-- Datasets with the same training units get the same preprocessing, and with the same model inputs
in training and validation the same identity of the fit, whatever the labels, the classes, the
events and the other units are. -/
theorem fitting_isolated {numpy : Numpy F} {parameters : WindowParameters} {clip : ClipValue F}
    {dataset dataset' : AcademicDataset F} {windowed windowed' : WindowedDataset F}
    {state state' : PreprocessingState F} (hname : dataset.name = dataset'.name)
    (hmodality : dataset.modality = dataset'.modality) (hphase : dataset.phase = dataset'.phase)
    (hfeatures : dataset.featureNames = dataset'.featureNames)
    (hwindowed : windowDataset numpy dataset parameters = some windowed)
    (hwindowed' : windowDataset numpy dataset' parameters = some windowed')
    (hstate : fitPreprocessing numpy dataset windowed clip = some state)
    (hstate' : fitPreprocessing numpy dataset' windowed' clip = some state') :
    (dataset.partition .train = dataset'.partition .train → state = state') ∧
      (List.Forall₂ SameModelInputs (dataset.partition .train) (dataset'.partition .train) →
        List.Forall₂ SameModelInputs (dataset.partition .validation)
          (dataset'.partition .validation) →
        windowed.modelFitIdentity = windowed'.modelFitIdentity) := by
  have h := windowing_of_eq_some hwindowed
  have h' := windowing_of_eq_some hwindowed'
  refine ⟨fun htrain => ?_, fun htrain hvalidation =>
    modelFitIdentity_eq hname hphase htrain hvalidation h h'⟩
  obtain ⟨hwindows, hidentity⟩ := training_eq hname hphase htrain h h'
  obtain ⟨value, rfl, hfit⟩ := fitPreprocessing_eq_some hstate
  obtain ⟨value', hvalue, hfit'⟩ := fitPreprocessing_eq_some hstate'
  obtain rfl := ClipValue.number.inj hvalue
  rcases hfit with ⟨hcategorical, hfit⟩ | ⟨hnumeric, hfit⟩
  · have hfit' := (hfit'.resolve_right fun hother => hother.1 (hmodality ▸ hcategorical)).2
    rw [fitVocabulary_eq hmodality hfeatures htrain hwindows hidentity] at hfit
    exact Option.some.inj (hfit.symm.trans hfit')
  · have hfit' := (hfit'.resolve_left fun hother => hnumeric (hmodality ▸ hother.1)).2
    rw [fitScaling_eq hmodality hfeatures hwindows hidentity] at hfit
    exact Option.some.inj (hfit.symm.trans hfit')

/-! ## A dataset and more of it -/

section Returns

omit [FloatArith F] [FloatOps F] in
theorem hashable_str {s : Text} : Hashable (.str s : Value F) ↔ isEncodable s := Iff.rfl

omit [FloatArith F] [FloatOps F] in
theorem hashable_obj {members : List (Text × Value F)} :
    Hashable (.obj members) ↔ ∀ m ∈ members, isEncodable m.1 ∧ Hashable m.2 := Doc.all_obj

omit [FloatArith F] [FloatOps F] in
theorem hashable_arr {items : List (Value F)} :
    Hashable (.arr items) ↔ ∀ item ∈ items, Hashable item := Doc.all_arr

omit [FloatArith F] [FloatOps F] in
/-- An object with names of the source -/
theorem hashable_members (members : List (String × Value F))
    (h : ∀ m ∈ members, Hashable m.2) :
    Hashable (.obj (members.map fun m => (text m.1, m.2))) := by
  refine hashable_obj.mpr fun m hm => ?_
  obtain ⟨member, hmember, rfl⟩ := List.mem_map.mp hm
  exact ⟨Evidence.isEncodable_text member.1, h member hmember⟩

omit [FloatArith F] in
theorem exists_canonicalJsonHash {document : Value F} (h : Hashable document) :
    ∃ content, canonicalJsonHash document = some (bytesId content) :=
  ⟨_, if_pos h⟩

/-- The strings of a unit can be encoded, and its numbers written. -/
structure AcademicUnit.Encodable (unit : AcademicUnit F) : Prop where
  unitId : isEncodable unit.unitId
  groupId : isEncodable unit.groupId
  nativePartition : isEncodable unit.nativePartition
  input : Hashable unit.detectorInputDoc
  starts : ∀ sequence ∈ unit.sampledSequences, Hashable (natDoc sequence.1 : Value F)

theorem isEncodable_label (partition : Partition) : isEncodable partition.label := by
  cases partition <;> decide

omit [FloatArith F] in
theorem AcademicUnit.Encodable.exists_dict {unit : AcademicUnit F} (h : unit.Encodable) :
    ∃ document, unit.modelInputIdentityDict = some document ∧ Hashable document := by
  obtain ⟨content, hcontent⟩ := exists_canonicalJsonHash h.input
  refine ⟨_, by rw [modelInputIdentityDict, detectorInputIdentity, hcontent]; rfl, ?_⟩
  have horigin : isEncodable unit.evidenceOrigin.value := by
    cases unit.evidenceOrigin <;> decide
  refine hashable_members [("unit_id", _), ("group_id", _), ("native_partition", _),
    ("assigned_partition", _), ("detector_input_identity", _), ("sampled_sequence_starts", _),
    ("evidence_origin", _)] ?_
  simp only [List.forall_mem_cons, hashable_str, hashable_arr, List.forall_mem_map]
  exact ⟨h.unitId, h.groupId, h.nativePartition, isEncodable_label _, Evidence.isEncodable_bytesId _,
    h.starts, horigin, fun _ hmem => absurd hmem List.not_mem_nil⟩

omit [FloatArith F] in
theorem exists_dicts {units : List (AcademicUnit F)} (h : ∀ unit ∈ units, unit.Encodable) :
    ∃ documents, units.mapM (·.modelInputIdentityDict) = some documents ∧
      ∀ document ∈ documents, Hashable document := by
  induction units with
  | nil => exact ⟨[], rfl, fun _ hmem => absurd hmem List.not_mem_nil⟩
  | cons unit units ih =>
    obtain ⟨hunit, hunits⟩ := List.forall_mem_cons.mp h
    obtain ⟨document, hdict, hdocument⟩ := hunit.exists_dict
    obtain ⟨documents, hdicts, hdocuments⟩ := ih hunits
    refine ⟨document :: documents, ?_, List.forall_mem_cons.mpr ⟨hdocument, hdocuments⟩⟩
    rw [List.mapM_cons, hdict, hdicts]
    rfl

/-- The strings of a dataset can be encoded, and its numbers written. -/
structure AcademicDataset.Encodable (dataset : AcademicDataset F) : Prop where
  name : isEncodable dataset.name
  modality : isEncodable dataset.modality
  protocol : isEncodable dataset.protocol
  phase : isEncodable dataset.phase
  featureNames : ∀ feature ∈ dataset.featureNames, isEncodable feature
  units : ∀ unit ∈ dataset.units, unit.Encodable

section Dataset

variable {dataset : AcademicDataset F} {parameters : WindowParameters} {numpy : Numpy F}

omit [FloatArith F] in
theorem AcademicDataset.Encodable.exists_modelInputIdentity (h : dataset.Encodable) :
    ∃ content, dataset.modelInputIdentity = some (bytesId content) := by
  obtain ⟨documents, hdicts, hdocuments⟩ := exists_dicts h.units
  have horigin : isEncodable dataset.evidenceOrigin.value := by
    cases dataset.evidenceOrigin <;> decide
  rw [AcademicDataset.modelInputIdentity, hdicts]
  refine exists_canonicalJsonHash (hashable_members [("name", _), ("modality", _),
    ("protocol", _), ("phase", _), ("feature_names", _), ("units", _), ("evidence_origin", _)] ?_)
  simp only [List.forall_mem_cons, hashable_str, hashable_arr, List.forall_mem_map]
  exact ⟨h.name, h.modality, h.protocol, h.phase, h.featureNames, hdocuments, horigin,
    fun _ hmem => absurd hmem List.not_mem_nil⟩

/-- The numbers of the parameters can be written. -/
def WindowParameters.Writable (parameters : WindowParameters) : Prop :=
  ∀ n ∈ [parameters.sequenceLength, parameters.stride, parameters.maxWindowsPerUnit],
    n < 10 ^ Python.maxStrDigits

omit [FloatArith F] [FloatOps F] in
theorem hashable_natDoc {n : Nat} (h : n < 10 ^ Python.maxStrDigits) :
    Hashable (natDoc n : Value F) := by
  change isWritable (.int n : Python.Number F) = true
  rw [isWritable, Int.natAbs_natCast]
  exact decide_eq_true h

omit [FloatArith F] [FloatOps F] in
theorem hashable_parameters (haccepted : parameters.Accepted) (h : parameters.Writable) :
    ∀ m ∈ parameters.members (F := F), isEncodable m.1 ∧ Hashable m.2 := by
  have haggregation : isEncodable parameters.aggregation := by
    have hall : ∀ s ∈ [text "max", text "mean", text "p95"], isEncodable s := by decide
    exact hall _ haccepted.2.2.2
  simp only [WindowParameters.Writable, List.forall_mem_cons] at h
  simp only [WindowParameters.members, List.forall_mem_cons, hashable_str]
  exact ⟨⟨Evidence.isEncodable_text _, hashable_natDoc h.1⟩, ⟨Evidence.isEncodable_text _, hashable_natDoc h.2.1⟩,
    ⟨Evidence.isEncodable_text _, hashable_natDoc h.2.2.1⟩, ⟨Evidence.isEncodable_text _, haggregation⟩,
    fun _ hmem => absurd hmem List.not_mem_nil⟩

omit [FloatArith F] in
theorem exists_fitIdentity {units : List (AcademicUnit F)} {rows : List (Value F)}
    (haccepted : parameters.Accepted) (hwritable : parameters.Writable) (h : dataset.Encodable)
    (hunits : ∀ unit ∈ units, unit ∈ dataset.units) (hrows : ∀ row ∈ rows, Hashable row) :
    ∃ content, fitIdentity dataset parameters units rows = some (bytesId content) := by
  obtain ⟨documents, hdicts, hdocuments⟩ := exists_dicts fun unit hunit =>
    h.units unit (hunits unit hunit)
  rw [fitIdentity, hdicts]
  refine exists_canonicalJsonHash (hashable_obj.mpr fun m hm => ?_)
  rcases List.mem_append.mp hm with hm | hm
  · rcases List.mem_append.mp hm with hm | hm
    · have hhead := hashable_members [("dataset", .str dataset.name),
        ("phase", .str dataset.phase), ("units", .arr documents)] (by
          simp only [List.forall_mem_cons, hashable_str, hashable_arr]
          exact ⟨h.name, h.phase, hdocuments, fun _ hmem => absurd hmem List.not_mem_nil⟩)
      exact hashable_obj.mp hhead m hm
    · exact hashable_parameters haccepted hwritable m hm
  · rw [List.mem_singleton.mp hm]
    exact ⟨Evidence.isEncodable_text _, hashable_arr.mpr hrows⟩

/-- Datasets that can be encoded are windowed, if their windows are in the right partitions. -/
theorem exists_windowDataset {windows : Windows F} (haccepted : parameters.Accepted)
    (hwritable : parameters.Writable) (h : dataset.Encodable)
    (htrain : parameters.partitionWindows numpy (dataset.partition .train) = some windows.train)
    (hvalidation : parameters.partitionWindows numpy (dataset.partition .validation) =
      some windows.validation)
    (htest : parameters.partitionWindows numpy (dataset.partition .test) = some windows.test)
    (hparentage : WindowParentage dataset windows)
    (hrows : ∀ window ∈ windows.all, Hashable (windowRow window.1 window.2)) :
    ∃ windowed content, windowDataset numpy dataset parameters = some windowed ∧
      windowed.partitions = windows ∧ windowed.trainingIdentity = bytesId content := by
  have hmem (partition : Partition) : ∀ unit ∈ dataset.partition partition, unit ∈ dataset.units :=
    fun unit hunit => (List.mem_filter.mp hunit).1
  have hall (p : Partition × AcademicWindow F → Prop) : (∀ window ∈ windows.all, p window) ↔
      ((∀ w ∈ windows.train, p (.train, w)) ∧ ∀ w ∈ windows.validation, p (.validation, w)) ∧
        ∀ w ∈ windows.test, p (.test, w) := by
    simp only [Windows.all, List.forall_mem_append, List.forall_mem_map]
  obtain ⟨⟨hrowsTrain, hrowsValidation⟩, hrowsTest⟩ := (hall _).mp hrows
  obtain ⟨identity, hidentity⟩ := h.exists_modelInputIdentity
  have hwhole : ∃ content, canonicalJsonHash (F := F) (.obj
      ([(text "dataset_model_input_identity", .str (bytesId identity))] ++ parameters.members ++
        [(text "windows", .arr (windows.train.map (windowRow .train) ++
          windows.validation.map (windowRow .validation) ++
          windows.test.map (windowRow .test)))])) = some (bytesId content) := by
    refine exists_canonicalJsonHash (hashable_obj.mpr ?_)
    simp only [List.forall_mem_append, List.forall_mem_singleton, hashable_str, hashable_arr,
      List.forall_mem_map]
    exact ⟨⟨⟨Evidence.isEncodable_text _, Evidence.isEncodable_bytesId _⟩,
      hashable_parameters haccepted hwritable⟩, Evidence.isEncodable_text _,
      ⟨hrowsTrain, hrowsValidation⟩, hrowsTest⟩
  obtain ⟨whole, hwhole⟩ := hwhole
  obtain ⟨training, htraining⟩ := exists_fitIdentity haccepted hwritable h (hmem .train)
    (List.forall_mem_map.mpr hrowsTrain)
  obtain ⟨fit, hfit⟩ := exists_fitIdentity haccepted hwritable h
    (List.forall_mem_append.mpr ⟨hmem .train, hmem .validation⟩)
    (List.forall_mem_append.mpr
      ⟨List.forall_mem_map.mpr hrowsTrain, List.forall_mem_map.mpr hrowsValidation⟩)
  refine ⟨{ datasetName := dataset.name
            modality := dataset.modality
            sequenceLength := parameters.sequenceLength
            stride := parameters.stride
            aggregation := parameters.aggregation
            partitions := windows
            identity := bytesId whole
            trainingIdentity := bytesId training
            modelFitIdentity := bytesId fit
            evidenceOrigin := dataset.evidenceOrigin }, training, ?_, rfl, rfl⟩
  simp only [windowDataset, htrain, hvalidation, htest, guard, haccepted, hparentage, hidentity,
    hwhole, htraining, hfit, if_true, Option.bind_eq_bind, Option.bind_some, Option.pure_def]

omit [FloatArith F] in
/-- A vocabulary is fitted, unless the training units use a reserved token. -/
theorem exists_fitVocabulary {windowed : WindowedDataset F} (h : dataset.Encodable)
    (hreserved : padToken ∉ (dataset.partition .train).flatMap (fun unit => tokens unit.values) ∧
      unknownToken ∉ (dataset.partition .train).flatMap fun unit => tokens unit.values)
    (hidentity : isEncodable windowed.trainingIdentity)
    (htokens : ∀ window ∈ windowed.partitions.train, ∀ token ∈ tokens window.values,
      isEncodable token) : ∃ state, fitVocabulary dataset windowed = some state := by
  have hobserved : ∀ token ∈ sortedTokens ((windowed.partitions.train.flatMap fun window =>
      tokens window.values).filter (· ≠ padToken)), isEncodable token := by
    intro token htoken
    rw [sortedTokens, List.mem_insertionSort, List.mem_dedup, List.mem_filter,
      List.mem_flatMap] at htoken
    obtain ⟨⟨window, hwindow, htoken⟩, -⟩ := htoken
    exact htokens window hwindow token htoken
  obtain ⟨content, hcontent⟩ := exists_canonicalJsonHash (hashable_members (F := F)
    [("modality", .str dataset.modality),
      ("method", .str (text "train-only-categorical-vocabulary-v1")),
      ("feature_names", textsDoc dataset.featureNames),
      ("vocabulary", textsDoc (padToken :: unknownToken :: sortedTokens
        ((windowed.partitions.train.flatMap fun window => tokens window.values).filter
          (· ≠ padToken)))),
      ("training_window_identity", .str windowed.trainingIdentity)] (by
    simp only [List.forall_mem_cons, hashable_str, textsDoc, hashable_arr, List.forall_mem_map]
    exact ⟨h.modality, Evidence.isEncodable_text _, h.featureNames,
      ⟨Evidence.isEncodable_text _, Evidence.isEncodable_text _, hobserved⟩, hidentity,
      fun _ hmem => absurd hmem List.not_mem_nil⟩))
  rw [List.map_cons, List.map_cons, List.map_cons, List.map_cons, List.map_cons,
    List.map_nil] at hcontent
  refine Option.isSome_iff_exists.mp ?_
  simp only [fitVocabulary, guard, hreserved, hcontent, not_false_eq_true, and_self, if_true,
    Option.bind_eq_bind, Option.pure_def, Option.bind_some, Option.isSome_some]

end Dataset

end Returns

/-! ## A test unit more -/

/-- Rationals as floats whose texts have three decimals -/
local instance : FloatOps ℚ := ⟨fun _ => 0, fun x => text (fixed3 x), fun _ => true, fun x i => x = i⟩

def sampleUnit (partition : Partition) (label : Fin 2) : AcademicUnit ℚ where
  unitId := partition.label
  groupId := partition.label
  nativePartition := partition.label
  assignedPartition := partition
  label := label
  className := text "class"
  values := [[.name (text "open")], [.name (text "read")]]
  sourcePath := text "trace.txt"
  sourceSha256 := text "sha256"
  order := 0
  eventIds := []
  sampledSequences := []
  evidenceOrigin := .testFixture
  resamplingClusterId := []
  unitId_ne := by cases partition <;> decide
  groupId_ne := by cases partition <;> decide

def sampleDataset (units : List (AcademicUnit ℚ))
    (horigins : ∀ unit ∈ units, unit.evidenceOrigin = .testFixture)
    (hids : (units.map AcademicUnit.unitId).Nodup) : AcademicDataset ℚ where
  name := text "fixture"
  modality := text "categorical-syscall"
  protocol := text "protocol"
  units := units
  featureNames := [text "syscall"]
  phase := text "pilot"
  evidenceOrigin := .testFixture
  official h := absurd h (by decide)
  origins := horigins
  unitIds := hids

def trainingOnly : AcademicDataset ℚ :=
  sampleDataset [sampleUnit .train 0] (by decide) (by decide)

def withAttack : AcademicDataset ℚ :=
  sampleDataset [sampleUnit .test 1, sampleUnit .train 0] (by decide) (by decide)

def sampleParameters : WindowParameters := ⟨2, 1, 4, text "max"⟩

/-- `numpy` without means, which names do not have -/
def sampleNumpy : Numpy ℚ where
  linspace last count := (List.range count).map fun i => i * last / (count - 1)
  asRows _ := none
  mean _ := []
  std _ := []

def sampleWindow (partition : Partition) (label : Fin 2) : AcademicWindow ℚ where
  windowId := partition.label ++ text "::window-000000000"
  unitId := partition.label
  label := label
  className := text "class"
  values := [[.name (text "open")], [.name (text "read")]]
  eventIds := []
  start := 0
  evidenceOrigin := .testFixture
  clusterId := partition.label

theorem encodable_sampleUnit (partition : Partition) (label : Fin 2) :
    (sampleUnit partition label).Encodable where
  unitId := isEncodable_label partition
  groupId := isEncodable_label partition
  nativePartition := isEncodable_label partition
  input := by
    change Hashable (sampleUnit .train 0).detectorInputDoc
    decide +kernel
  starts _ hmem := absurd hmem List.not_mem_nil

/-- A sample is windowed, and its vocabulary is fitted. -/
theorem exists_sample {units : List (AcademicUnit ℚ)} (windows : Windows ℚ)
    (horigins : ∀ unit ∈ units, unit.evidenceOrigin = .testFixture)
    (hids : (units.map AcademicUnit.unitId).Nodup)
    (hunits : ∀ unit ∈ units, unit.Encodable)
    (htrain : (sampleDataset units horigins hids).partition .train = [sampleUnit .train 0])
    (hwindows : windows.train = [sampleWindow .train 0] ∧ windows.validation = [])
    (hvalidation : sampleParameters.partitionWindows sampleNumpy
      ((sampleDataset units horigins hids).partition .validation) = some windows.validation)
    (htest : sampleParameters.partitionWindows sampleNumpy
      ((sampleDataset units horigins hids).partition .test) = some windows.test)
    (hparentage : WindowParentage (sampleDataset units horigins hids) windows)
    (hrows : ∀ window ∈ windows.all, Hashable (windowRow window.1 window.2)) :
    ∃ windowed state,
      windowDataset sampleNumpy (sampleDataset units horigins hids) sampleParameters =
        some windowed ∧
      fitPreprocessing sampleNumpy (sampleDataset units horigins hids) windowed
        (.number (.float 10)) = some state := by
  have hencodable : (sampleDataset units horigins hids).Encodable :=
    ⟨Evidence.isEncodable_text _, Evidence.isEncodable_text _, Evidence.isEncodable_text _,
      Evidence.isEncodable_text _,
      List.forall_mem_singleton.mpr (Evidence.isEncodable_text _), hunits⟩
  have hwritable : sampleParameters.Writable := by
    intro n hn
    have hsmall : n ≤ 4 := by
      revert n
      decide
    exact lt_of_le_of_lt hsmall (lt_of_lt_of_le (by norm_num : 4 < 10 ^ 1)
      (Nat.pow_le_pow_right (by norm_num) (by decide)))
  obtain ⟨windowed, content, hwindowed, hpartitions, hidentity⟩ :=
    @exists_windowDataset _ _ _ _ _ sampleNumpy _ (by decide +kernel) hwritable hencodable
      (by rw [htrain, hwindows.1]; rfl) hvalidation htest hparentage hrows
  have hvocabulary : ∃ state,
      fitVocabulary (sampleDataset units horigins hids) windowed = some state := by
    refine exists_fitVocabulary hencodable (by rw [htrain]; decide +kernel)
      (hidentity ▸ Evidence.isEncodable_bytesId content) ?_
    rw [hpartitions, hwindows.1]
    decide +kernel
  obtain ⟨state, hstate⟩ := hvocabulary
  refine ⟨windowed, state, hwindowed, ?_⟩
  have hmodality : (sampleDataset units horigins hids).modality = text "categorical-syscall" := rfl
  rw [← hstate]
  simp only [fitPreprocessing, hpartitions, hwindows.1, hwindows.2, hmodality]
  rw [if_neg (List.cons_ne_nil _ _), if_neg (by decide +kernel), if_neg (by decide +kernel),
    if_neg (by decide +kernel), if_pos trivial]

/-- The test unit changes neither the vocabulary nor the identity of a fit. -/
theorem attack_isolated : ∃ windowed windowed' state state',
    windowDataset sampleNumpy trainingOnly sampleParameters = some windowed ∧
    windowDataset sampleNumpy withAttack sampleParameters = some windowed' ∧
    fitPreprocessing sampleNumpy trainingOnly windowed (.number (.float 10)) = some state ∧
    fitPreprocessing sampleNumpy withAttack windowed' (.number (.float 10)) = some state' ∧
    state = state' ∧ windowed.modelFitIdentity = windowed'.modelFitIdentity := by
  obtain ⟨windowed, state, hwindowed, hstate⟩ := @exists_sample [sampleUnit .train 0]
    ⟨[sampleWindow .train 0], [], []⟩ (by decide) (by decide)
    (List.forall_mem_singleton.mpr (encodable_sampleUnit _ _)) rfl ⟨rfl, rfl⟩ rfl rfl
    (by decide +kernel) (by decide +kernel)
  obtain ⟨windowed', state', hwindowed', hstate'⟩ := @exists_sample
    [sampleUnit .test 1, sampleUnit .train 0]
    ⟨[sampleWindow .train 0], [], [sampleWindow .test 1]⟩ (by decide) (by decide)
    (List.forall_mem_cons.mpr ⟨encodable_sampleUnit _ _,
      List.forall_mem_singleton.mpr (encodable_sampleUnit _ _)⟩) rfl ⟨rfl, rfl⟩ rfl rfl
    (by decide +kernel) (by decide +kernel)
  have hisolated := @fitting_isolated _ _ _ sampleNumpy _ _ trainingOnly withAttack _ _ _ _
    rfl rfl rfl rfl hwindowed hwindowed' hstate hstate'
  refine ⟨windowed, windowed', state, state', hwindowed, hwindowed', hstate, hstate',
    hisolated.1 rfl, hisolated.2 ?_ .nil⟩
  exact .cons (.refl _) .nil

end TruthFingerprint.OfflineTraining
