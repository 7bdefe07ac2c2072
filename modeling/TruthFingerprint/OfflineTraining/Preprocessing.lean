import Mathlib
import TruthFingerprint.Arith
import TruthFingerprint.Lib.DecimalText
import TruthFingerprint.OfflineTraining.AcademicDataset

/-!
# Windows and preprocessing

Windows are cut inside the units of each partition. The vocabulary or the scaling of the
preprocessing is fitted on the windows of the training units, and is identified together with the
projection of these units. What `numpy` computes is a parameter. Where the source raises, the result
is `none`.
-/

namespace TruthFingerprint.OfflineTraining

open Python (FloatOps Number Value)

variable {F : Type} [FloatArith F] [FloatOps F]

/-- What the windowing and the preprocessing take from `numpy` -/
structure Numpy (F : Type) where
  /-- `linspace(0, last, count, dtype=int)` -/
  linspace : Nat → Nat → List Nat
  /-- `asarray(windows, dtype=float64)`, as rows. It raises for windows of different shapes and for
  names that are no numbers. -/
  asRows : List (Rows F) → Option (List (List F))
  /-- `mean` and `std` of the columns -/
  mean : List (List F) → List F
  std : List (List F) → List F

def padToken : Text := text "<PAD>"

def unknownToken : Text := text "<UNK>"

/-! ## Windows -/

def FeatureValue.isName : FeatureValue F → Bool
  | .name _ => true
  | .number _ => false

/-- Rows of one width, padded to a length. There is no padding for rows without a feature. -/
def padded (values : Rows F) (sequenceLength : Nat) : Option (Rows F) :=
  match values.head? with
  | none | some [] => none
  | some (first :: rest) =>
    if values.all fun row => row.length = rest.length + 1 then
      let paddingValue : FeatureValue F := if first.isName then .name padToken else .number 0.0
      some (values ++ List.replicate (sequenceLength - values.length)
        (List.replicate (rest.length + 1) paddingValue))
    else none

/-- `_pad_single_sequence` -/
def padSingleSequence (values : Rows F) (sequenceLength : Nat) : Option (Rows F) :=
  if sequenceLength < values.length then none else padded values sequenceLength

/-- The starts of windows: every `stride` rows, and the last one -/
def windowStarts (length sequenceLength stride : Nat) : List Nat :=
  let tail := length - sequenceLength
  let starts := (List.range (tail / stride + 1)).map (· * stride)
  if starts.getLast? = some tail then starts else starts ++ [tail]

variable (numpy : Numpy F)

/-- The starts that are kept of too many: those at evenly spaced positions -/
def chosenStarts (starts : List Nat) (maxWindows : Nat) : Option (List Nat) :=
  if starts.length ≤ maxWindows then some starts
  else ((numpy.linspace (starts.length - 1) maxWindows).mapM fun position => starts[position]?).map
    fun chosen : List Nat => chosen.dedup.insertionSort (· ≤ ·)

/-- `_sliding_windows` -/
def slidingWindows (values : Rows F) (sequenceLength stride maxWindows : Nat) :
    Option (List (Nat × Rows F)) :=
  match values with
  | [] => some []
  | first :: _ =>
    if !values.all fun row => row.length = first.length then none
    else if values.length ≤ sequenceLength then
      (padded values sequenceLength).map fun window => [(0, window)]
    else (chosenStarts numpy (windowStarts values.length sequenceLength stride) maxWindows).map
      fun chosen => chosen.map fun start => (start, (values.drop start).take sequenceLength)

structure AcademicWindow (F : Type) where
  windowId : Text
  unitId : Text
  label : Fin 2
  className : Text
  values : Rows F
  eventIds : List Text
  start : Nat
  evidenceOrigin : EvidenceOrigin
  clusterId : Text

/-- `f"{start:09d}"` -/
def nineDigits (n : Nat) : Text :=
  let digits := DecimalText.natText n
  List.replicate (9 - digits.length) '0'.codePoint ++ digits

structure WindowParameters where
  sequenceLength : Nat
  stride : Nat
  maxWindowsPerUnit : Nat
  aggregation : Text
deriving DecidableEq

namespace WindowParameters

variable (parameters : WindowParameters)

/-- What `window_dataset` accepts -/
def Accepted : Prop :=
  0 < parameters.sequenceLength ∧ 0 < parameters.stride ∧ 0 < parameters.maxWindowsPerUnit ∧
    parameters.aggregation ∈ [text "max", text "mean", text "p95"]

instance : Decidable parameters.Accepted := inferInstanceAs (Decidable (_ ∧ _))

def members : List (Text × Value F) :=
  [(text "sequence_length", natDoc parameters.sequenceLength),
    (text "stride", natDoc parameters.stride),
    (text "max_windows_per_unit", natDoc parameters.maxWindowsPerUnit),
    (text "aggregation", .str parameters.aggregation)]

/-- The candidates of a unit: its sampled sequences, or else windows of its values -/
def candidates (unit : AcademicUnit F) : Option (List (Nat × Rows F)) :=
  if unit.sampledSequences = [] then
    slidingWindows numpy unit.values parameters.sequenceLength parameters.stride
      parameters.maxWindowsPerUnit
  else if parameters.maxWindowsPerUnit < unit.sampledSequences.length then none
  else unit.sampledSequences.mapM fun sequence =>
    (padSingleSequence sequence.2 parameters.sequenceLength).map fun values => (sequence.1, values)

/-- The windows of one unit -/
def unitWindows (unit : AcademicUnit F) : Option (List (AcademicWindow F)) :=
  (parameters.candidates numpy unit).map fun candidates => candidates.map fun candidate =>
    { windowId := unit.unitId ++ text "::window-" ++ nineDigits candidate.1
      unitId := unit.unitId
      label := unit.label
      className := unit.className
      values := candidate.2
      eventIds := unit.eventIds
      start := candidate.1
      evidenceOrigin := unit.evidenceOrigin
      clusterId := unit.clusterId }

def partitionWindows (units : List (AcademicUnit F)) : Option (List (AcademicWindow F)) :=
  (units.mapM (parameters.unitWindows numpy)).map List.flatten

end WindowParameters

/-- The windows of the partitions -/
structure Windows (F : Type) where
  train : List (AcademicWindow F)
  validation : List (AcademicWindow F)
  test : List (AcademicWindow F)

def Windows.all (windows : Windows F) : List (Partition × AcademicWindow F) :=
  windows.train.map (.train, ·) ++ windows.validation.map (.validation, ·) ++
    windows.test.map (.test, ·)

/-- `audit_window_parentage` finds no violation: windows are in the partition of their units, and
their identifiers are distinct. -/
def WindowParentage (dataset : AcademicDataset F) (windows : Windows F) : Prop :=
  (∀ window ∈ windows.all, ∃ unit ∈ dataset.units, unit.unitId = window.2.unitId ∧
    unit.assignedPartition = window.1) ∧ (windows.all.map fun window => window.2.windowId).Nodup

instance (dataset : AcademicDataset F) (windows : Windows F) :
    Decidable (WindowParentage dataset windows) := inferInstanceAs (Decidable (_ ∧ _))

def windowRow (partition : Partition) (window : AcademicWindow F) : Value F :=
  .obj [(text "window_id", .str window.windowId), (text "unit_id", .str window.unitId),
    (text "partition", .str partition.label), (text "start", natDoc window.start)]

structure WindowedDataset (F : Type) where
  datasetName : Text
  modality : Text
  sequenceLength : Nat
  stride : Nat
  aggregation : Text
  partitions : Windows F
  identity : Text
  trainingIdentity : Text
  modelFitIdentity : Text
  evidenceOrigin : EvidenceOrigin

/-- The hash of some units and of the rows of their windows -/
def fitIdentity (dataset : AcademicDataset F) (parameters : WindowParameters)
    (units : List (AcademicUnit F)) (rows : List (Value F)) : Option Text := do
  let units ← units.mapM (·.modelInputIdentityDict)
  canonicalJsonHash (.obj ([(text "dataset", .str dataset.name),
    (text "phase", .str dataset.phase), (text "units", .arr units)] ++ parameters.members ++
    [(text "windows", .arr rows)]))

/-- `window_dataset` -/
def windowDataset (dataset : AcademicDataset F) (parameters : WindowParameters) :
    Option (WindowedDataset F) := do
  guard parameters.Accepted
  let train ← parameters.partitionWindows numpy (dataset.partition .train)
  let validation ← parameters.partitionWindows numpy (dataset.partition .validation)
  let test ← parameters.partitionWindows numpy (dataset.partition .test)
  let windows : Windows F := ⟨train, validation, test⟩
  guard (WindowParentage dataset windows)
  let modelInputIdentity ← dataset.modelInputIdentity
  let trainRows := train.map (windowRow .train)
  let validationRows := validation.map (windowRow .validation)
  let testRows := test.map (windowRow .test)
  let identity ← canonicalJsonHash (.obj
    ([(text "dataset_model_input_identity", .str modelInputIdentity)] ++ parameters.members ++
      [(text "windows", .arr (trainRows ++ validationRows ++ testRows))]))
  let trainingIdentity ← fitIdentity dataset parameters (dataset.partition .train) trainRows
  let modelFitIdentity ← fitIdentity dataset parameters
    (dataset.partition .train ++ dataset.partition .validation) (trainRows ++ validationRows)
  some { datasetName := dataset.name
         modality := dataset.modality
         sequenceLength := parameters.sequenceLength
         stride := parameters.stride
         aggregation := parameters.aggregation
         partitions := windows
         identity := identity
         trainingIdentity := trainingIdentity
         modelFitIdentity := modelFitIdentity
         evidenceOrigin := dataset.evidenceOrigin }

/-! ## Preprocessing -/

structure PreprocessingState (F : Type) where
  modality : Text
  method : Text
  featureNames : List Text
  vocabulary : List Text
  center : List F
  scale : List F
  clip : Option F
  identity : Text

/-- What `clip` may be -/
inductive ClipValue (F : Type) where
  | number (value : Number F)
  | other

/-- `float` of a number -/
def toFloat : Number F → F
  | .int i => FloatOps.ofLiteral (Python.intText i)
  | .float x => x

/-- `str` of a value -/
def FeatureValue.str : FeatureValue F → Text
  | .number x => FloatOps.repr x
  | .name s => s

/-- The distinct texts of the values -/
def tokens (rows : Rows F) : List Text := rows.flatten.map (·.str)

def sortedTokens (tokens : List Text) : List Text := tokens.dedup.insertionSort (· ≤ ·)

/-- The vocabulary of the training windows, unless a training unit uses a reserved token -/
def fitVocabulary (dataset : AcademicDataset F) (windowed : WindowedDataset F) :
    Option (PreprocessingState F) := do
  let sourceTokens := (dataset.partition .train).flatMap fun unit => tokens unit.values
  guard (padToken ∉ sourceTokens ∧ unknownToken ∉ sourceTokens)
  let observed := sortedTokens
    ((windowed.partitions.train.flatMap fun window => tokens window.values).filter (· ≠ padToken))
  let vocabulary := padToken :: unknownToken :: observed
  let method := text "train-only-categorical-vocabulary-v1"
  let identity ← canonicalJsonHash (F := F) (.obj [(text "modality", .str dataset.modality),
    (text "method", .str method), (text "feature_names", textsDoc dataset.featureNames),
    (text "vocabulary", textsDoc vocabulary),
    (text "training_window_identity", .str windowed.trainingIdentity)])
  some ⟨dataset.modality, method, dataset.featureNames, vocabulary, [], [], none, identity⟩

/-- The scaling of the training windows -/
def fitScaling (dataset : AcademicDataset F) (windowed : WindowedDataset F) (clip : Number F) :
    Option (PreprocessingState F) := do
  let rows ← numpy.asRows (windowed.partitions.train.map (·.values))
  guard (!rows.flatten.isEmpty && rows.flatten.all FloatOps.isFinite)
  let center := numpy.mean rows
  let scale := (numpy.std rows).map fun x => if FloatArith.lt x 1e-12 then 1.0 else x
  let method := text "train-only-standardization-v1"
  let floatsDoc (xs : List F) : Value F := .arr (xs.map fun x => .num (.float x))
  let identity ← canonicalJsonHash (.obj [(text "modality", .str dataset.modality),
    (text "method", .str method), (text "feature_names", textsDoc dataset.featureNames),
    (text "center", floatsDoc center), (text "scale", floatsDoc scale), (text "clip", .num clip),
    (text "training_window_identity", .str windowed.trainingIdentity)])
  some ⟨dataset.modality, method, dataset.featureNames, [], center, scale, some (toFloat clip),
    identity⟩

/-- `fit_preprocessing` -/
def fitPreprocessing (dataset : AcademicDataset F) (windowed : WindowedDataset F)
    (clip : ClipValue F) : Option (PreprocessingState F) :=
  if windowed.partitions.train = [] then none
  else if windowed.partitions.train.any (·.label ≠ 0) then none
  else if windowed.partitions.validation.any (·.label ≠ 0) then none
  else match clip with
    | .other => none
    | .number clip =>
      if !FloatOps.isFinite (toFloat clip) || !FloatArith.lt 0.0 (toFloat clip) then none
      else if dataset.modality = text "categorical-syscall" then fitVocabulary dataset windowed
      else if dataset.modality = text "numeric-multivariate" then
        fitScaling numpy dataset windowed clip
      else none

end TruthFingerprint.OfflineTraining
