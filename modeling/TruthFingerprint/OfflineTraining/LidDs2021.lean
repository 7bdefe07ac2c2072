import Mathlib
import TruthFingerprint.Lib.BreakLoop
import TruthFingerprint.OfflineTraining.PhaseAllocation
import TruthFingerprint.OfflineTraining.Selection

/-!
# The loader of LID-DS 2021

The archives of each scenario and role are ranked, and the first valid ones after the rank at which
the phase starts are selected. Where contents are isolated, an archive is passed over if the phase
has its content already, or if the pilot has it: for that the confirmatory run goes through the
selection of the pilot again, in a loop of its own. What a recording is projected to is a parameter.
-/

namespace TruthFingerprint.OfflineTraining

open Python (Coercions FloatOps Members Value)

/-! ## Archives -/

inductive LidRole where
  | training
  | validation
  | testNormal
  | testNormalAndAttack
deriving DecidableEq

namespace LidRole

/-- The directory of a role below that of the scenario -/
def relative : LidRole → Text
  | .training => text "training"
  | .validation => text "validation"
  | .testNormal => text "test/normal"
  | .testNormalAndAttack => text "test/normal_and_attack"

def nativePartition : LidRole → Text
  | .training => text "training"
  | .validation => text "validation"
  | .testNormal => text "test-normal"
  | .testNormalAndAttack => text "test-normal-and-attack"

def assignedPartition : LidRole → Partition
  | .training => .train
  | .validation => .validation
  | .testNormal | .testNormalAndAttack => .test

def all : List LidRole := [.training, .validation, .testNormal, .testNormalAndAttack]

/-- The partitions that are normal only -/
def normalOnly (role : LidRole) : Bool :=
  role.assignedPartition = .train || role.assignedPartition = .validation

end LidRole

/-- What a recording is projected to -/
structure LidProjection (F : Type) where
  sampledSequences : List (Nat × Rows F)
  attack : Bool
  detectorInputSha256 : Text
  consumedSourceSha256 : Text

/-- The corpus: the names of the directories, the archives below the directory of a role, and what
`_project_lid_consumed_archive` makes of the archive at a path -/
structure LidCorpus (F : Type) where
  hasRoot : Bool
  directories : List Text
  archives : Text → LidRole → List Text
  project : (sequenceLength maxSequences : Nat) → (seed : Int) → (relative : Text) →
    Option (LidProjection F)
  directories_ok : ∀ directory ∈ directories, '/'.codePoint ∉ directory
  archives_nodup : ∀ scenario role, (archives scenario role).Nodup

/-- The path of an archive below the root -/
def archivePath (scenario : Text) (role : LidRole) (name : Text) : Text :=
  scenario ++ '/'.codePoint :: (role.relative ++ '/'.codePoint :: name)

section Loader

variable {F : Type} [Coercions F]

/-! ## Settings -/

structure LidSettings where
  scenarios : List Text
  seed : Int
  cap : Nat
  sequenceLength : Nat
  maxSequences : Nat

def lidScenarios (corpus : LidCorpus F) (config : Members F) : List Text :=
  match config.lookup (text "scenarios") with
  | some (.arr values) => values.map Python.str
  | _ => (corpus.directories.filter fun directory =>
      !(text "__").isPrefixOf directory).insertionSort (· ≤ ·)

def lidSettings (corpus : LidCorpus F) (config : Members F) (phase : Phase) : Option LidSettings := do
  guard corpus.hasRoot
  let scenarios := lidScenarios corpus config
  guard (∀ scenario ∈ scenarios, scenario ∈ corpus.directories ∧ !(text "__").isPrefixOf scenario)
  guard (scenarios ≠ [])
  let seed ← Python.int ((config.lookup (text "partition_seed")).getD (.num (.int 1729)))
  let caps ← phaseCaps config phase
  let cap ← cap caps (text "archives_per_scenario_partition")
  let window ← Python.mapping ((config.lookup (text "window")).getD (.obj []))
  let sequenceLength ← Python.int ((window.lookup (text "sequence_length")).getD (.num (.int 128)))
  let maxSequences ← Python.int ((window.lookup (text "max_windows_per_unit")).getD (.num (.int 4)))
  guard (0 < sequenceLength ∧ 0 < maxSequences)
  some ⟨scenarios, seed, cap, sequenceLength.toNat, maxSequences.toNat⟩

/-- Contents are isolated. -/
def contentIsolationRequired (config : Members F) : Bool :=
  match config.lookup (text "phase_allocation") with
  | some (.obj allocation) =>
    isText (allocation.lookup (text "method")) disjointContentPrioritySlicesV2
  | _ => false

/-! ## Contents -/

/-- The document that `projection_detector_input_content_identity` hashes -/
def projectionContentDoc (sampledSequences : List (Nat × Rows F)) : Value F :=
  .obj [(text "values", .arr []),
    (text "sampled_sequences", .arr (sampledSequences.map fun sequence => rowsDoc sequence.2))]

def projectionContentIdentity (projection : LidProjection F) : Option Text :=
  canonicalJsonHash (projectionContentDoc projection.sampledSequences)

abbrev Semantics := Fin 2 × Text

/-- The semantics of the contents that are known, by the stream and by the sampled input -/
structure Known where
  groups : List (Text × Semantics)
  inputs : List (Text × Semantics)

namespace Known

variable (known : Known)

def none : Known := ⟨[], []⟩

def hasGroup (groupId : Text) : Bool := groupId ∈ known.groups.map Prod.fst

def hasInput (inputId : Text) : Bool := inputId ∈ known.inputs.map Prod.fst

def add (groupId inputId : Text) (semantics : Semantics) : Known :=
  ⟨known.groups ++ [(groupId, semantics)], known.inputs ++ [(inputId, semantics)]⟩

/-- `require_consistent_content_semantics` -/
def requireConsistent (groupId inputId : Text) (semantics : Semantics) : Option Unit :=
  guard ((∀ s, known.groups.lookup groupId = some s → s = semantics) ∧
    ∀ s, known.inputs.lookup inputId = some s → s = semantics)

def requireConsistentIf (required : Bool) (groupId inputId : Text) (semantics : Semantics) :
    Option Unit :=
  if required then known.requireConsistent groupId inputId semantics else some ()

end Known

def lidClass (scenario : Text) (attack : Bool) : Text :=
  if attack then scenario ++ text "-attack" else text "Normal"

def lidLabel (attack : Bool) : Fin 2 := if attack then 1 else 0

/-! ## The contents that the pilot reserves -/

/-- Where the loop over the archives of a role is -/
structure Progress (σ : Type) where
  state : σ
  retainedForRole : Nat
  validBeforeSlice : Nat

def reserveArchive (project : Text → Option (LidProjection F)) (pilotCap rankStart : Nat)
    (scenario : Text) (role : LidRole) (progress : Progress Known) (archive : Text) :
    Option (Progress Known × Bool) := do
  let projection ← project archive
  if projection.sampledSequences = [] then some (progress, false)
  else if progress.validBeforeSlice < rankStart then
    some ({ progress with validBeforeSlice := progress.validBeforeSlice + 1 }, false)
  else do
    guard ¬(role.normalOnly ∧ projection.attack)
    let inputId ← projectionContentIdentity projection
    let semantics := (lidLabel projection.attack, lidClass scenario projection.attack)
    progress.state.requireConsistent projection.detectorInputSha256 inputId semantics
    if progress.state.hasGroup projection.detectorInputSha256 || progress.state.hasInput inputId then
      some ({ progress with validBeforeSlice := progress.validBeforeSlice + 1 }, false)
    else
      some (⟨progress.state.add projection.detectorInputSha256 inputId semantics,
        progress.retainedForRole + 1, progress.validBeforeSlice + 1⟩,
        pilotCap ≤ progress.retainedForRole + 1)

/-- The paths of the archives of a role, ranked -/
def rankedArchives (corpus : LidCorpus F) (seed : Int) (scenario : Text) (role : LidRole) :
    Option (List Text) := do
  let archives := ((corpus.archives scenario role).map (archivePath scenario role))
  guard (archives ≠ [])
  stableCap id seed (archives.insertionSort fun p q => p.splitOnP (· = '/'.codePoint) ≤
    q.splitOnP (· = '/'.codePoint)) 0 0 false

def lidStratum (scenario : Text) (role : LidRole) : Text :=
  scenario ++ ':'.codePoint :: role.nativePartition

/-- The scenarios and roles in the order of the loops -/
def lidStrata (scenarios : List Text) : List (Text × LidRole) :=
  scenarios.flatMap fun scenario => LidRole.all.map (Prod.mk scenario)

def reserveRole (corpus : LidCorpus F) (config : Members F) (settings : LidSettings)
    (pilotCap : Nat) (known : Known) (stratum : Text × LidRole) : Option Known := do
  let archives ← rankedArchives corpus settings.seed stratum.1 stratum.2
  let rankStart ← phaseRankStart config .pilot (lidStratum stratum.1 stratum.2)
    (some stratum.2.nativePartition)
  let progress ← BreakLoop.run
    (reserveArchive (corpus.project settings.sequenceLength settings.maxSequences settings.seed)
      pilotCap rankStart stratum.1 stratum.2) ⟨known, 0, 0⟩ archives
  guard (pilotCap ≤ progress.retainedForRole)
  some progress.state

/-- `reserved_pilot_content_semantics` -/
def reservedPilotContentSemantics (corpus : LidCorpus F) (config : Members F)
    (settings : LidSettings) (phase : Phase) : Option Known :=
  if phase = .confirmatory ∧ contentIsolationRequired config then do
    let caps ← phaseCaps config .pilot
    let pilotCap ← cap caps (text "archives_per_scenario_partition")
    if pilotCap = 0 then some .none
    else (lidStrata settings.scenarios).foldlM (reserveRole corpus config settings pilotCap) .none
  else some .none

/-! ## Selection -/

structure LidSelection (F : Type) where
  units : List (AcademicUnit F)
  selectedGroupIds : List Text
  selectedInputIds : List Text
  known : Known
  order : Nat

def LidSelection.start (F : Type) : LidSelection F := ⟨[], [], [], .none, 0⟩

def lidUnit (archive scenario : Text) (role : LidRole) (projection : LidProjection F) (order : Nat) :
    Option (AcademicUnit F) :=
  let unitId := text "lid-ds-2021:" ++ archive
  if h : projection.detectorInputSha256 ≠ [] then
    some
      { unitId
        groupId := projection.detectorInputSha256
        nativePartition := role.nativePartition
        assignedPartition := role.assignedPartition
        label := lidLabel projection.attack
        className := lidClass scenario projection.attack
        values := []
        sourcePath := archive
        sourceSha256 := projection.consumedSourceSha256
        order
        eventIds := if projection.attack then [unitId] else []
        sampledSequences := projection.sampledSequences
        evidenceOrigin := .officialNative
        resamplingClusterId := unitId
        unitId_ne := by simp [unitId, text]
        groupId_ne := h }
  else none

/-- What is selected with one more unit -/
def LidSelection.retain (selection : LidSelection F) (isolation : Bool) (unit : AcademicUnit F)
    (inputId : Text) (semantics : Semantics) : LidSelection F :=
  if isolation then
    { units := selection.units ++ [unit]
      selectedGroupIds := selection.selectedGroupIds ++ [unit.groupId]
      selectedInputIds := selection.selectedInputIds ++ [inputId]
      known := selection.known.add unit.groupId inputId semantics
      order := selection.order + 1 }
  else { selection with units := selection.units ++ [unit], order := selection.order + 1 }

def selectArchive (project : Text → Option (LidProjection F)) (reserved : Known) (isolation : Bool)
    (capPerRole rankStart : Nat) (scenario : Text) (role : LidRole)
    (progress : Progress (LidSelection F)) (archive : Text) :
    Option (Progress (LidSelection F) × Bool) := do
  let projection ← project archive
  if projection.sampledSequences = [] then some (progress, false)
  else if progress.validBeforeSlice < rankStart then
    some ({ progress with validBeforeSlice := progress.validBeforeSlice + 1 }, false)
  else do
    guard ¬(role.normalOnly ∧ projection.attack)
    let progress := { progress with validBeforeSlice := progress.validBeforeSlice + 1 }
    let groupId := projection.detectorInputSha256
    let inputId ← projectionContentIdentity projection
    let semantics := (lidLabel projection.attack, lidClass scenario projection.attack)
    if reserved.hasGroup groupId || reserved.hasInput inputId then do
      reserved.requireConsistent groupId inputId semantics
      some (progress, false)
    else do
      progress.state.known.requireConsistentIf isolation groupId inputId semantics
      if isolation && (groupId ∈ progress.state.selectedGroupIds ||
          inputId ∈ progress.state.selectedInputIds) then some (progress, false)
      else do
        let unit ← lidUnit archive scenario role projection progress.state.order
        let state := progress.state.retain isolation unit inputId semantics
        some ({ progress with state, retainedForRole := progress.retainedForRole + 1 },
          capPerRole ≠ 0 && capPerRole ≤ progress.retainedForRole + 1)

def selectRole (corpus : LidCorpus F) (config : Members F) (phase : Phase) (settings : LidSettings)
    (reserved : Known) (selection : LidSelection F) (stratum : Text × LidRole) :
    Option (LidSelection F) := do
  let archives ← rankedArchives corpus settings.seed stratum.1 stratum.2
  let rankStart ← phaseRankStart config phase (lidStratum stratum.1 stratum.2)
    (some stratum.2.nativePartition)
  let progress ← BreakLoop.run
    (selectArchive (corpus.project settings.sequenceLength settings.maxSequences settings.seed)
      reserved (contentIsolationRequired config) settings.cap rankStart stratum.1 stratum.2)
    ⟨selection, 0, 0⟩ archives
  guard (settings.cap = 0 ∨ settings.cap ≤ progress.retainedForRole)
  some progress.state

def lidProtocol (config : Members F) : Text :=
  if contentIsolationRequired config then text "lid-ds-2021-native-recording-v4"
  else if (present config (text "phase_allocation")).isSome then
    text "lid-ds-2021-native-recording-v2"
  else text "lid-ds-2021-native-recording-v1"

/-- `_load_lid_ds_2021` -/
def loadLidDs2021 (corpus : LidCorpus F) (config : Members F) (phase : Phase) :
    Option (AcademicDataset F) := do
  let settings ← lidSettings corpus config phase
  let reserved ← reservedPilotContentSemantics corpus config settings phase
  let selection ← (lidStrata settings.scenarios).foldlM
    (selectRole corpus config phase settings reserved) (.start F)
  let units := deduplicateContentUnits selection.units
  guard ¬(contentIsolationRequired config ∧ units.length ≠ selection.units.length)
  Protocol.phaseAllocationAudit config phase
  officialDataset (text "lid-ds-2021") (text "categorical-syscall") (lidProtocol config) units
    [text "syscall_name"] phase.label

end Loader

end TruthFingerprint.OfflineTraining
