import Mathlib
import TruthFingerprint.Lib.Dict
import TruthFingerprint.OfflineTraining.ResumeArtifact

/-!
# The summary of a phase

When a phase ends, the runner authenticates every cell that its evidence directory holds against the
descriptors of the frozen plan, and emits outcome aggregates of a confirmatory phase only if no check
failed. Authentication walks over the planned descriptors, the aggregates are those of the cells that
were loaded: when aggregates are emitted, the two are the same matrix
(`exactMatrix_of_aggregates`).

The result `none` of the summary is an exception. What the datasets, the schedule and the analysis
are is a parameter.
-/

namespace TruthFingerprint.OfflineTraining

open Python (Coercions FloatEq Members Path Value mapping nested)

/-- Where the artifacts of a phase are -/
structure AcademicPaths where
  root : Path
  phase : Path
  cells : Path
  predictions : Path

/-- The parts of the runner that plan a phase and analyze its cells. `D` is a prepared dataset. -/
structure Runner (F D : Type) extends Authenticator F where
  prepareOneDataset : Text → Members F → Phase → Except Text D
  scheduleEntries : Members F → Members F → Phase → Except Text (List (Members F))
  cellDescriptor : Members F → D → Text → Text → Members F → Phase → Int → Members F →
    Except Text (Members F)
  confirmatoryBatchLedger : Members F → Except Text (Members F)
  confirmatoryBudgetIssue : Members F → Bool → Bool → Option (Option Text)
  analyzeCompletedCells : Members F → List (Members F) → Phase → Option (Members F) →
    Option (Members F)

section Summary

variable {F D : Type} [Coercions F] [FloatEq F]

/-! ## The frozen plan -/

/-- `_model_configs` -/
def modelConfigs (datasetConfig : Members F) : Except Text (List (Text × Members F)) := do
  let raw ← mappingAt datasetConfig (text "models") (text "models")
  requires (raw ≠ []) (text "Each dataset must declare at least one model.")
  raw.mapM fun model => do
    let modelConfig ← orIssue (mapping model.2)
      (text "models." ++ model.1 ++ text " must be an object.")
    .ok (model.1, modelConfig)

/-- `_expected_descriptors` -/
def Runner.expectedDescriptors (r : Runner F D) (config : Members F) (phase : Phase) :
    Except Text (List (Members F)) := do
  let datasets ← orIssue (datasetConfigs config) (text "datasets must be an object.")
  let descriptors ← datasets.mapM fun dataset => do
    let prepared ← r.prepareOneDataset dataset.1 dataset.2 phase
    let models ← modelConfigs dataset.2
    let families ← models.mapM fun model => do
      let entries ← r.scheduleEntries config model.2 phase
      entries.mapM fun entry => do
        let seed ← orIssue (Python.int (Doc.get entry (text "seed"))) (text "seed")
        r.cellDescriptor config prepared dataset.1 model.1 model.2 phase seed entry
    .ok families.flatten
  .ok descriptors.flatten

/-! ## The evidence directory -/

/-- `str(item.get("cell_id"))` -/
def cellId (item : Members F) : Text := Python.str (Doc.get item (text "cell_id"))

/-- Which dataset, model and seed a cell or a failure is about -/
def completedLogicalKey (item : Members F) : Text × Text × Text :=
  (Python.str (Doc.get item (text "dataset")), Python.str (Doc.get item (text "model")),
    Python.str (Doc.get item (text "seed")))

/-- A file of the cells' directory, with its path if it is a complete cell -/
def Runner.loadCell (r : Runner F D) (resolvedCellsPath path : Path) :
    Except Text (Option (Members F)) := do
  requires (¬r.disk.isSymlink path ∧ (r.disk.resolve path).parent = resolvedCellsPath)
    (text "unsafe cell artifact path: " ++ path.toText)
  let value ← r.readJson path
  if isText (value.lookup (text "status")) (text "complete") then
    .ok (some (Dict.setItem value (text "artifact_path", .str (r.disk.resolve path).toText)))
  else .ok none

/-- `load_completed_cells` -/
def Runner.loadCompletedCells (r : Runner F D) (phasePath : Path) :
    Except Text (List (Members F)) := do
  let cellsPath := phasePath.join (text "cells")
  requires (¬r.disk.isSymlink phasePath) (text "unsafe phase artifact directory symlink")
  requires (¬r.disk.isSymlink cellsPath) (text "unsafe cells artifact directory symlink")
  if r.disk.isDir cellsPath then do
    requires ((r.disk.resolve cellsPath).parent = r.disk.resolve phasePath)
      (text "cells artifact directory escapes the phase directory")
    let cells ← (r.disk.globJson cellsPath).mapM (r.loadCell (r.disk.resolve cellsPath))
    .ok cells.reduceOption
  else .ok []

/-- `_retained_failure_records` -/
def Runner.retainedFailureRecords (r : Runner F D) (phasePath : Path) :
    Except Text (List (Members F)) := do
  let failureDir := phasePath.join (text "failures")
  requires (¬r.disk.isSymlink failureDir)
    (text "failure artifact directory must not be a symlink")
  if r.disk.isDir failureDir then do
    requires ((r.disk.resolve failureDir).parent = r.disk.resolve phasePath)
      (text "failure artifact directory escapes the phase directory")
    (r.disk.globJson failureDir).mapM r.readJson
  else .ok []

/-- `_confirmatory_batch_ledger_issue` -/
def Runner.confirmatoryBatchLedgerIssue (r : Runner F D) (config : Members F) (phasePath : Path) :
    Option Text :=
  let ledgerPath := phasePath.join (text "confirmatory-batch-ledger.json")
  if ¬isV2 config then none
  else if r.disk.isSymlink phasePath then some (text "confirmatory phase directory is a symlink")
  else if r.disk.isSymlink ledgerPath then some (text "confirmatory batch ledger is a symlink")
  else if (r.disk.resolve ledgerPath).parent ≠ r.disk.resolve phasePath then
    some (text "confirmatory batch ledger escapes the phase directory")
  else if ¬r.disk.isFile ledgerPath then some (text "confirmatory batch ledger is missing")
  else
    let documents := do
      let observed ← r.readJson ledgerPath
      let expected ← r.confirmatoryBatchLedger config
      Except.ok (observed, expected)
    match documents with
    | .error e => some (text "confirmatory batch ledger cannot be authenticated: " ++ e)
    | .ok (observed, expected) =>
      if Python.eq (.obj observed) (.obj expected) then none
      else some (text "confirmatory batch ledger disagrees with the frozen configuration")

/-- What the cells and the plan are, without the paths that loading adds -/
def analysisInputIdentity (cells : List (Members F)) (plannedMatrix : Members F) : Option Text := do
  let keyed ← cells.mapM fun cell => do
    let payload := cell.filter fun member => member.1 ≠ text "artifact_path"
    let digest ← canonicalJsonHash (.obj payload)
    some (toLex (strAt payload (text "cell_id") [], digest), payload)
  let normalizedCells := keyed.insertionSort fun x y => x.1 ≤ y.1
  canonicalJsonHash (.obj [(text "cells", .arr (normalizedCells.map fun cell => .obj cell.2)),
    (text "planned_matrix_binding", .obj plannedMatrix)])

/-! ## Authentication of the matrix -/

/-- What was planned, what was found, and what of it was authenticated -/
structure Matrix (F : Type) where
  errors : List Text
  expectedById : List (Text × Members F)
  available : List (Members F)
  availableById : List (Text × Members F)
  authenticated : List Text
  extraIds : List Text

def byId (items : List (Members F)) : List (Text × Members F) :=
  Dict.ofItems (items.map fun item => (cellId item, item))

/-- The issue of a condition that fails -/
def issueUnless (p : Prop) [Decidable p] (issue : Text) : List Text := if p then [] else [issue]

/-- The value of a step that may raise, and the error that stands for it otherwise -/
def caught {α : Type} (step : Except Text α) (fallback : α) (issue : Text) : α × List Text :=
  match step with
  | .ok a => (a, [])
  | .error e => (fallback, [issue ++ e])

/-- The file of a cell -/
def cellPath (paths : AcademicPaths) (id : Text) (cell : Members F) : Path :=
  Path.ofText (strAt cell (text "artifact_path") (paths.cells.join (id ++ text ".json")).toText)

/-- What the check says of a planned cell -/
def Runner.authenticate (r : Runner F D) (config : Members F) (paths : AcademicPaths)
    (availableById : List (Text × Members F)) (planned : Text × Members F) : Except Text Unit :=
  match availableById.lookup planned.1 with
  | none => .error (text "planned cell is missing: " ++ planned.1)
  | some cell =>
    (r.validateResumeArtifact config cell planned.2 (cellPath paths planned.1 cell)
      paths.predictions).mapError fun e => planned.1 ++ text ": " ++ e

def issueOf (outcome : Except Text Unit) : Option Text :=
  match outcome with
  | .ok _ => none
  | .error e => some e

/-- The descriptors of the plan, or of the caller where the preflight was not ready -/
def Runner.expected (r : Runner F D) (config preflight : Members F) (phase : Phase)
    (planned : List (Members F)) : List (Members F) × List Text :=
  if isBool (preflight.lookup (text "ready")) true then
    caught (r.expectedDescriptors config phase) planned
      (text "cannot reconstruct full planned descriptors: ")
  else (planned, [])

/-- The cells of the evidence directory beside the plan -/
def Runner.matrix (r : Runner F D) (config preflight : Members F) (paths : AcademicPaths)
    (phase : Phase) (planned : List (Members F)) : Matrix F :=
  let expected := r.expected config preflight phase planned
  let expectedById := byId expected.1
  let loaded := caught (r.loadCompletedCells paths.phase) []
    (text "cannot load complete cell artifacts safely: ")
  let availableById := byId loaded.1
  let outcome := r.authenticate config paths availableById
  let extraIds := ((availableById.map Prod.fst).filter (· ∉ expectedById.map Prod.fst)).insertionSort
    (· ≤ ·)
  { errors := expected.2 ++
      issueUnless (expectedById.length = expected.1.length)
        (text "planned descriptors contain duplicate cell_id values") ++
      loaded.2 ++
      issueUnless (availableById.length = loaded.1.length)
        (text "complete cell artifacts contain duplicate cell_id values") ++
      issueUnless (r.disk.isFile (paths.phase.join (text "planned-matrix.json")))
        (text "immutable planned-matrix artifact is missing") ++
      expectedById.filterMap (fun planned => issueOf (outcome planned)) ++
      issueUnless (extraIds = []) (text "unplanned complete cells are present: " ++
        Python.str (F := F) (.arr (extraIds.map .str)))
    expectedById := expectedById
    available := loaded.1
    availableById := availableById
    authenticated := (expectedById.filter fun planned => issueOf (outcome planned) = none).map Prod.fst
    extraIds := extraIds }

/-- The cells are those of the plan, one for each. -/
def Matrix.isExact (m : Matrix F) : Bool :=
  m.expectedById ≠ [] && m.expectedById.map Prod.fst ⊆ m.authenticated &&
    m.authenticated ⊆ m.expectedById.map Prod.fst &&
    m.authenticated.length = m.expectedById.length && m.extraIds = []

/-- The failures that no authenticated cell makes up for -/
def Matrix.unresolved (m : Matrix F) (failures : List (Members F)) : List (Members F) :=
  let completedLogical :=
    (m.available.filter (cellId · ∈ m.authenticated)).map completedLogicalKey
  failures.filter (completedLogicalKey · ∉ completedLogical)

/-! ## Eligibility -/

/-- The first finite value of the metric in the sections, which `float` may raise at -/
def sectionMetric (test : Members F) (name : Text) : List Text → Option (Option F)
  | [] => some none
  | sectionName :: rest =>
    match ((test.lookup sectionName).bind mapping).bind fun members => members.lookup name with
    | none | some .null | some (.str _) | some (.arr _) | some (.obj _) =>
      sectionMetric test name rest
    | some value => do
      let x ← Python.float value
      if Python.FloatOps.isFinite x then some (some x) else sectionMetric test name rest

/-- `_cell_metric` -/
def cellMetric (cell : Members F) (name : Text) : Option (Option F) :=
  match (cell.lookup (text "test")).bind mapping with
  | some test => sectionMetric test name [text "operating", text "ranking"]
  | none => some none

/-- The value at the end of the keys is that string. -/
def nestedIsText (members : Members F) (keys : List Text) (t : Text) : Bool :=
  isText (some (nested (.obj members) keys)) t

/-- The value at the end of the keys is `True`. -/
def nestedIsTrue (members : Members F) (keys : List Text) : Bool :=
  isBool (some (nested (.obj members) keys)) true

/-- Every dataset is a mapping, and each of the parts has what the keys lead to. -/
def eachDataset (datasets : Members F) (keys : List (List Text)) : Bool :=
  datasets.all fun dataset => match mapping dataset.2 with
    | some members => keys.all (nestedIsTrue members)
    | none => false

/-- What is required of a phase, by name -/
def eligibilityFlags (config preflight datasets : Members F) (phase : Phase) (m : Matrix F)
    (authenticationErrors : List Text) (coreVerified primaryOutcomesComplete : Bool)
    (budgetIssue batchLedgerIssue : Option Text) : List (Text × Bool) :=
  let v1 := !isV2 config
  let verified := m.isExact && authenticationErrors.isEmpty
  [(text "exact_matrix_match", m.isExact),
    (text "prediction_artifacts_verified", verified),
    (text "raw_evidence_reconstructed", verified),
    (text "core_manifest_verified", coreVerified),
    (text "numeric_authority_accountable", v1 ||
      nestedIsText preflight [text "numeric_authority", text "accountability_outcome"]
        (text "accountable")),
    (text "evidence_origins_valid", !m.available.isEmpty && m.available.all fun cell =>
      isText (cell.lookup (text "evidence_origin")) (text "official_native")),
    (text "phase_disjointness_passed", v1 ||
      nestedIsTrue preflight [text "phase_allocation_audit", text "passed"] &&
        eachDataset datasets [[text "phase_disjointness", text "passed"]]),
    (text "validation_roles_disjoint", v1 || !datasets.isEmpty &&
      eachDataset datasets [[text "validation_role_split", text "passed"],
        [text "validation_role_split", text "independent_roles"]]),
    (text "repetition_planning_authenticated", v1 ||
      nestedIsTrue preflight [text "repetition_planning_gate", text "passed"] &&
        (phase ≠ .confirmatory || nestedIsText preflight
          [text "repetition_planning_gate", text "status"]
          (text "fixed-nonadaptive-50-after-complete-five-trial-pilot"))),
    (text "schema_versions_valid", !m.available.isEmpty && m.available.all fun cell =>
      isText (cell.lookup (text "schema_version")) (cellSchema config)),
    (text "primary_outcomes_complete", !m.available.isEmpty && primaryOutcomesComplete),
    (text "computational_budget_authorized", budgetIssue.isNone),
    (text "confirmatory_batch_ledger_verified", batchLedgerIssue.isNone)]

/-- The outcomes, which are withheld from a confirmatory phase that is not eligible -/
inductive Analysis (F : Type) where
  | withheld
  | aggregates (outcomes : Members F)

def Analysis.isAggregates : Analysis F → Bool
  | .withheld => false
  | .aggregates _ => true

structure PhaseSummary (F : Type) where
  phase : Phase
  flags : List (Text × Bool)
  eligible : Bool
  plannedCellIds : List Text
  authenticatedCompleteCellIds : List Text
  retainedFailureCount : Nat
  historicalFailureCount : Nat
  reasons : List Text
  completeCellCount : Nat
  analysis : Analysis F
  analysisInputIdentity : Text
  plannedMatrixIdentity : Text

/-- The members of a file, none of them where there is no file -/
def Runner.readIfFile (r : Runner F D) (path : Path) : Option (Members F) :=
  if r.disk.isFile path then (r.readJson path).toOption else some []

/-- What decides whether a phase is eligible -/
structure EligibilityGate (F : Type) where
  matrix : Matrix F
  plannedMatrix : Members F
  analysisInputIdentity : Text
  failures : List (Members F)
  unresolved : List (Members F)
  authenticationErrors : List Text
  batchLedgerIssue : Option Text
  budgetIssue : Option Text
  flags : List (Text × Bool)
  eligible : Bool

/-- A confirmatory phase of the second schema -/
def isConfirmatory (config : Members F) (phase : Phase) : Bool :=
  isV2 config && phase = .confirmatory

/-- The first part of `_finalize_phase_summary` -/
def Runner.eligibilityGate (r : Runner F D) (config preflight : Members F) (paths : AcademicPaths)
    (phase : Phase) (planned : List (Members F)) (allowOverBudget : Bool) :
    Option (EligibilityGate F) := do
  let _ ← r.readIfFile (paths.phase.join (text "run-summary.json"))
  let m := r.matrix config preflight paths phase planned
  let plannedMatrix ← r.readIfFile (paths.phase.join (text "planned-matrix.json"))
  let inputIdentity ← analysisInputIdentity m.available plannedMatrix
  let failures := caught (r.retainedFailureRecords paths.phase) []
    (text "cannot load retained failure artifacts safely: ")
  let authenticationErrors := m.errors ++ failures.2
  let unresolved := m.unresolved failures.1
  let currentCore ← (r.numericalCoreIdentity config).toOption
  let storedCorePath := paths.root.join (text "numerical-core-manifest.json")
  let storedCore ← r.readIfFile storedCorePath
  let coreVerified := r.disk.isFile storedCorePath &&
    isText (storedCore.lookup (text "identity")) currentCore
  let statisticalProtocol ← (config.lookup (text "statistical_protocol")).bind mapping
  let primaryMetric := strAt statisticalProtocol (text "primary_metric") (text "auroc")
  let primaryOutcomesComplete ← m.available.allM fun cell =>
    (cellMetric cell primaryMetric).map Option.isSome
  let datasets ← (preflight.lookup (text "datasets")).bind mapping
  let batchLedgerIssue := if isConfirmatory config phase then
    r.confirmatoryBatchLedgerIssue config paths.phase else none
  let budgetIssue ← r.confirmatoryBudgetIssue preflight allowOverBudget
    (isConfirmatory config phase)
  let flags := eligibilityFlags config preflight datasets phase m authenticationErrors coreVerified
    primaryOutcomesComplete budgetIssue batchLedgerIssue
  some {
    matrix := m
    plannedMatrix := plannedMatrix
    analysisInputIdentity := inputIdentity
    failures := failures.1
    unresolved := unresolved
    authenticationErrors := authenticationErrors
    batchLedgerIssue := batchLedgerIssue
    budgetIssue := budgetIssue
    flags := flags
    eligible := isConfirmatory config phase && isBool (preflight.lookup (text "ready")) true &&
      flags.all Prod.snd && unresolved.isEmpty }

def EligibilityGate.reasons (gate : EligibilityGate F) : List Text :=
  gate.authenticationErrors ++ gate.batchLedgerIssue.toList ++
    issueUnless (gate.unresolved = []) (DecimalText.natText gate.unresolved.length ++
      text " planned cell failures remain unresolved") ++ gate.budgetIssue.toList ++
    (gate.flags.filter fun flag => !flag.2).map fun flag =>
      text "eligibility flag failed: " ++ flag.1

/-- The analysis of the complete cells, which a confirmatory phase withholds unless it is eligible -/
def Runner.analysis (r : Runner F D) (config preflight : Members F) (phase : Phase)
    (gate : EligibilityGate F) : Option (Analysis F) :=
  let frozenRepetitionPlans := mapping (nested (.obj preflight)
    [text "repetition_planning_gate", text "pilot_planning"])
  if isConfirmatory config phase && !gate.eligible then some .withheld
  else (r.analyzeCompletedCells config gate.matrix.available phase frozenRepetitionPlans).map
    .aggregates

/-- `_finalize_phase_summary` -/
def Runner.finalizePhaseSummary (r : Runner F D) (config preflight : Members F)
    (paths : AcademicPaths) (phase : Phase) (planned : List (Members F)) (allowOverBudget : Bool) :
    Option (PhaseSummary F) := do
  let gate ← r.eligibilityGate config preflight paths phase planned allowOverBudget
  let analysis ← r.analysis config preflight phase gate
  let plannedMatrixIdentity ← canonicalJsonHash (.obj gate.plannedMatrix)
  some {
    phase := phase
    flags := gate.flags
    eligible := gate.eligible
    plannedCellIds := (gate.matrix.expectedById.map Prod.fst).insertionSort (· ≤ ·)
    authenticatedCompleteCellIds := gate.matrix.authenticated.insertionSort (· ≤ ·)
    retainedFailureCount := gate.unresolved.length
    historicalFailureCount := gate.failures.length
    reasons := gate.reasons
    completeCellCount := gate.matrix.available.length
    analysis := analysis
    analysisInputIdentity := gate.analysisInputIdentity
    plannedMatrixIdentity := plannedMatrixIdentity }

/-! ## The matrix behind the aggregates -/

/-- The cells are those of the plan, one for each descriptor, and each of them passes the check with
its descriptor. A failure is about what one of the cells is about. -/
structure Runner.ExactMatrix (r : Runner F D) (config : Members F) (paths : AcademicPaths)
    (descriptors cells failures : List (Members F)) : Prop where
  nodup : (descriptors.map cellId).Nodup
  perm : (cells.map cellId).Perm (descriptors.map cellId)
  passed : ∀ cell ∈ cells, ∃ descriptor ∈ descriptors, cellId descriptor = cellId cell ∧
    r.validateResumeArtifact config cell descriptor (cellPath paths (cellId cell) cell)
      paths.predictions = .ok ()
  resolved : ∀ failure ∈ failures, ∃ cell ∈ cells,
    completedLogicalKey cell = completedLogicalKey failure

variable {r : Runner F D} {config preflight : Members F} {paths : AcademicPaths} {phase : Phase}
  {planned : List (Members F)} {allowOverBudget : Bool}

theorem issueUnless_eq_nil {p : Prop} [Decidable p] {issue : Text} :
    issueUnless p issue = [] ↔ p := by
  by_cases h : p <;> simp [issueUnless, h]

theorem caught_issues_eq_nil {α : Type} {step : Except Text α} {fallback : α} {issue : Text} :
    (caught step fallback issue).2 = [] ↔ step = .ok (caught step fallback issue).1 := by
  cases step <;> simp [caught]

theorem issueOf_eq_none {outcome : Except Text Unit} : issueOf outcome = none ↔ outcome = .ok () := by
  cases outcome <;> simp [issueOf]

omit [FloatEq F] in
theorem keys_byId (items : List (Members F)) :
    (items.map fun item => (cellId item, item)).map Prod.fst = items.map cellId := by
  rw [List.map_map]
  rfl

omit [FloatEq F] in
/-- Identifiers that are distinct lose no item. -/
theorem byId_of_length_eq {items : List (Members F)} (h : (byId items).length = items.length) :
    (items.map cellId).Nodup ∧ byId items = items.map fun item => (cellId item, item) := by
  have hlength : (byId items).length = (items.map fun item => (cellId item, item)).length := by
    rw [h, List.length_map]
  have hnodup := Dict.length_ofItems_eq_iff.mp hlength
  refine ⟨?_, Dict.ofItems_of_nodup hnodup⟩
  rwa [keys_byId] at hnodup

/-- What a planned cell is authenticated by -/
theorem Runner.authenticate_eq_ok {availableById : List (Text × Members F)}
    {planned : Text × Members F} :
    r.authenticate config paths availableById planned = .ok () ↔
      ∃ cell, availableById.lookup planned.1 = some cell ∧
        r.validateResumeArtifact config cell planned.2 (cellPath paths planned.1 cell)
          paths.predictions = .ok () := by
  rw [Runner.authenticate]
  cases availableById.lookup planned.1 with
  | none => simp
  | some cell =>
    simp only [Option.some.injEq, exists_eq_left']
    cases r.validateResumeArtifact config cell planned.2 (cellPath paths planned.1 cell)
      paths.predictions <;> simp [Except.mapError]

/-- What it takes for authentication to have no error -/
structure Runner.Faultless (r : Runner F D) (config preflight : Members F) (paths : AcademicPaths)
    (phase : Phase) (planned descriptors cells : List (Members F)) : Prop where
  expected : r.expected config preflight phase planned = (descriptors, [])
  loaded : r.loadCompletedCells paths.phase = .ok cells
  descriptors_length : (byId descriptors).length = descriptors.length
  cells_length : (byId cells).length = cells.length
  authenticated : ∀ entry ∈ byId descriptors, r.authenticate config paths (byId cells) entry = .ok ()
  extra : ∀ id ∈ (byId cells).map Prod.fst, id ∈ (byId descriptors).map Prod.fst

theorem Runner.faultless_of_errors (h : (r.matrix config preflight paths phase planned).errors = []) :
    r.Faultless config preflight paths phase planned
      (r.expected config preflight phase planned).1
      (r.matrix config preflight paths phase planned).available := by
  simp only [Runner.matrix, List.append_eq_nil_iff, issueUnless_eq_nil, caught_issues_eq_nil,
    List.filterMap_eq_nil_iff, issueOf_eq_none] at h
  obtain ⟨⟨⟨⟨⟨⟨hexpected, hdescriptors⟩, hloaded⟩, hcells⟩, -⟩, hauthenticated⟩, hextra⟩ := h
  refine ⟨Prod.ext rfl hexpected, hloaded, hdescriptors, hcells, hauthenticated, fun id hid => ?_⟩
  by_contra hout
  refine List.not_mem_nil (a := id) ?_
  rw [← hextra, List.mem_insertionSort, List.mem_filter]
  exact ⟨hid, decide_eq_true hout⟩

/-- Where authentication has no error, the cells are the matrix of the plan. -/
theorem Runner.Faultless.exactMatrix {descriptors cells failures : List (Members F)}
    (h : r.Faultless config preflight paths phase planned descriptors cells)
    (hfailures : ∀ failure ∈ failures, ∃ cell ∈ cells,
      completedLogicalKey cell = completedLogicalKey failure) :
    r.ExactMatrix config paths descriptors cells failures := by
  obtain ⟨hnodup, hdescriptors⟩ := byId_of_length_eq h.descriptors_length
  obtain ⟨hnodup', hcells⟩ := byId_of_length_eq h.cells_length
  have hextra := h.extra
  have hfound : ∀ descriptor ∈ descriptors, ∃ cell ∈ cells, cellId cell = cellId descriptor ∧
      r.validateResumeArtifact config cell descriptor (cellPath paths (cellId descriptor) cell)
        paths.predictions = .ok () := by
    intro descriptor hdescriptor
    have hentry : (cellId descriptor, descriptor) ∈ byId descriptors := by
      rw [hdescriptors]
      exact List.mem_map.mpr ⟨descriptor, hdescriptor, rfl⟩
    obtain ⟨cell, hlookup, hpassed⟩ := authenticate_eq_ok.mp (h.authenticated _ hentry)
    have hdistinct := Dict.nodup_keys_ofItems (cells.map fun item => (cellId item, item))
    have hmem := (Dict.lookup_eq_some_iff hdistinct).mp hlookup
    rw [← byId, hcells] at hmem
    obtain ⟨cell', hcell, heq⟩ := List.mem_map.mp hmem
    obtain ⟨hid, rfl⟩ := Prod.mk.inj heq
    exact ⟨cell', hcell, hid, hpassed⟩
  rw [hdescriptors, hcells, keys_byId, keys_byId] at hextra
  refine ⟨hnodup, (List.perm_ext_iff_of_nodup hnodup' hnodup).mpr fun id => ⟨hextra id, ?_⟩, ?_,
    hfailures⟩
  · intro hid
    obtain ⟨descriptor, hdescriptor, rfl⟩ := List.mem_map.mp hid
    obtain ⟨cell, hcell, heq, -⟩ := hfound descriptor hdescriptor
    exact List.mem_map.mpr ⟨cell, hcell, heq⟩
  · intro cell hcell
    have hid := hextra (cellId cell) (List.mem_map.mpr ⟨cell, hcell, rfl⟩)
    obtain ⟨descriptor, hdescriptor, hown⟩ := List.mem_map.mp hid
    obtain ⟨cell', hcell', heq, hpassed⟩ := hfound descriptor hdescriptor
    obtain rfl := List.inj_on_of_nodup_map hnodup' hcell' hcell (heq.trans hown)
    exact ⟨descriptor, hdescriptor, hown, hown ▸ hpassed⟩

omit [FloatEq F] in
/-- A failure that is resolved is about what one of the cells is about. -/
theorem Matrix.resolved_of_unresolved {m : Matrix F} {failures : List (Members F)}
    (h : (m.unresolved failures).isEmpty = true) :
    ∀ failure ∈ failures, ∃ cell ∈ m.available,
      completedLogicalKey cell = completedLogicalKey failure := by
  intro failure hfailure
  have hresolved := List.filter_eq_nil_iff.mp (List.isEmpty_iff.mp h) failure hfailure
  rw [decide_eq_true_eq, not_not] at hresolved
  obtain ⟨cell, hcell, heq⟩ := List.mem_map.mp hresolved
  exact ⟨cell, List.mem_of_mem_filter hcell, heq⟩

/-- What an eligible phase was decided by -/
structure Runner.Eligible (r : Runner F D) (config preflight : Members F) (paths : AcademicPaths)
    (phase : Phase) (planned : List (Members F)) (gate : EligibilityGate F) : Prop where
  matrix : gate.matrix = r.matrix config preflight paths phase planned
  ready : isBool (preflight.lookup (text "ready")) true = true
  errors : gate.matrix.errors = []
  failures : r.retainedFailureRecords paths.phase = .ok gate.failures
  unresolved : (gate.matrix.unresolved gate.failures).isEmpty = true

theorem Runner.eligible_of_eligibilityGate {gate : EligibilityGate F}
    (h : r.eligibilityGate config preflight paths phase planned allowOverBudget = some gate)
    (heligible : gate.eligible = true) : r.Eligible config preflight paths phase planned gate := by
  simp only [Runner.eligibilityGate, bind, Option.bind_eq_some_iff] at h
  obtain ⟨_, -, _, -, _, -, core, -, stored, -, _, -, outcomes, -, datasets, -, budget, -, h⟩ := h
  obtain rfl := Option.some.inj h
  simp only [Bool.and_eq_true] at heligible
  obtain ⟨⟨⟨-, hready⟩, hflags⟩, hunresolved⟩ := heligible
  have hverified := List.all_eq_true.mp hflags (text "prediction_artifacts_verified", _)
    (List.mem_cons_of_mem _ List.mem_cons_self)
  obtain ⟨-, herrors⟩ := Bool.and_eq_true_iff.mp hverified
  obtain ⟨herrors, hfailures⟩ := List.append_eq_nil_iff.mp (List.isEmpty_iff.mp herrors)
  exact ⟨rfl, hready, herrors, caught_issues_eq_nil.mp hfailures, hunresolved⟩

omit [FloatEq F] in
/-- A ready phase is planned by its descriptors. -/
theorem Runner.expectedDescriptors_of_ready {descriptors : List (Members F)}
    (hready : isBool (preflight.lookup (text "ready")) true = true)
    (h : r.expected config preflight phase planned = (descriptors, [])) :
    r.expectedDescriptors config phase = .ok descriptors := by
  rw [Runner.expected, if_pos hready] at h
  have hcaught := caught_issues_eq_nil.mp (congrArg Prod.snd h)
  rwa [h] at hcaught

/-- The confirmatory phase emits aggregates of a matrix that is exact, and only of it: they are the
analysis of the complete cells, which are those of the frozen plan, authenticated one by one. -/
theorem Runner.exactMatrix_of_aggregates {summary : PhaseSummary F} {outcomes : Members F}
    (hv2 : isV2 config = true)
    (h : r.finalizePhaseSummary config preflight paths .confirmatory planned allowOverBudget =
      some summary)
    (houtcomes : summary.analysis = .aggregates outcomes) :
    ∃ descriptors cells failures plans,
      r.expectedDescriptors config .confirmatory = .ok descriptors ∧
      r.loadCompletedCells paths.phase = .ok cells ∧
      r.retainedFailureRecords paths.phase = .ok failures ∧
      r.analyzeCompletedCells config cells .confirmatory plans = some outcomes ∧
      r.ExactMatrix config paths descriptors cells failures := by
  simp only [Runner.finalizePhaseSummary, bind, Option.bind_eq_some_iff] at h
  obtain ⟨gate, hgate, analysis, hanalysis, _, -, h⟩ := h
  obtain rfl := Option.some.inj h
  obtain rfl : analysis = .aggregates outcomes := houtcomes
  rw [Runner.analysis] at hanalysis
  split_ifs at hanalysis with hwithheld
  · cases hanalysis
  · obtain ⟨outcomes', houtcomes', heq⟩ := Option.map_eq_some_iff.mp hanalysis
    obtain rfl := Analysis.aggregates.inj heq
    have heligible : gate.eligible = true := by simpa [isConfirmatory, hv2] using hwithheld
    obtain ⟨hmatrix, hready, herrors, hfailures, hunresolved⟩ :=
      eligible_of_eligibilityGate hgate heligible
    rw [hmatrix] at herrors hunresolved houtcomes'
    have hfaultless := faultless_of_errors herrors
    exact ⟨_, _, _, _, expectedDescriptors_of_ready hready hfaultless.expected, hfaultless.loaded,
      hfailures, houtcomes', hfaultless.exactMatrix (Matrix.resolved_of_unresolved hunresolved)⟩

end Summary

/-! ## A phase of one cell -/

section SoleCell

open Evidence (bytesId)

def soleId : Text := text "hai__lstm__seed-1"

def passedAudit : Value ℚ := .obj [(text "passed", .bool true), (text "independent_roles", .bool true)]

def soleDescriptor : Members ℚ :=
  [(text "cell_id", .str soleId), (text "dataset", .str (text "hai")),
    (text "model", .str (text "lstm")), (text "seed", .num (.int 1))]

def solePath (name : String) : Text := text "/run/confirmatory/" ++ text name

def soleManifestPath : Text := solePath "transactions/" ++ soleId ++ text ".transaction.json"

def soleRow : Members ℚ :=
  [(text "unit_id", .str (text "u")), (text "evidence_origin", .str (text "official_native")),
    (text "truth", .num (.int 1)), (text "prediction", .num (.int 1)),
    (text "score", .num (.int 1)), (text "threshold", .num (.int 1))]

def soleRowDigest : Text :=
  text "sha256:224e72b2ae2c2a0a5472aef722df029d765b34f5471a0c24ac1ea5e51b6320b9"

def soleCell : Members ℚ := soleDescriptor ++
  [(text "schema_version", .str (text "academic-cell-result-v2")),
    (text "status", .str (text "complete")),
    (text "evidence_origin", .str (text "official_native")),
    (text "numeric_authority", .obj [(text "accountability_outcome", .str (text "accountable"))]),
    (text "blind_test_gate", .obj [(text "calibration_frozen_before_test_scoring", .bool true),
      (text "test_truth_used_for_fit_preprocessing_stopping_or_calibration", .bool false)]),
    (text "numerical_core_identity", .str (text "core")),
    (text "predictions_artifact", .obj [(text "path", .str (solePath "predictions/rows.jsonl")),
      (text "sha256", .str soleRowDigest), (text "rows", .num (.int 1))]),
    (text "test", .obj [(text "operating", .obj [(text "auroc", .num (.int 1)),
      (text "support", .obj [(text "total", .num (.int 1))])])]),
    (text "publication_transaction", .obj [
      (text "transaction_id", .str (text "academic-cell-publication:" ++ soleId)),
      (text "manifest_path", .str soleManifestPath)])]


def soleCellPath : Text := solePath "cells/" ++ soleId ++ text ".json"

def soleCellDigest : Text := text "sha256:3e72c0f9423f3abcb27b9b72d8f3e759b8703cd62919b14c685057a4c2b3b903"

def soleTransaction : Members ℚ :=
  [(text "schema_version", .str (text "academic-cell-publication-transaction-v1")),
    (text "state", .str (text "committed")),
    (text "transaction_id", .str (text "academic-cell-publication:" ++ soleId)),
    (text "cell_id", .str soleId),
    (text "cell_target_path", .str soleCellPath),
    (text "prediction_target_path", .str (solePath "predictions/rows.jsonl")),
    (text "cell_sha256", .str soleCellDigest),
    (text "prediction_sha256", .str soleRowDigest),
    (text "cell_payload_path", .str (solePath "transactions/cell")),
    (text "prediction_payload_path", .str (solePath "transactions/rows"))]

def soleTransactionId : Text := text "sha256:b6600d56326a2bfd9f6b0d939c7b3d11b5613f376736940796479c2031770637"

/-- The files of the run -/
def soleFiles : List (Text × Members ℚ) :=
  [(soleCellPath, soleCell), (solePath "transactions/cell", soleCell),
    (solePath "predictions/rows.jsonl", soleRow), (solePath "transactions/rows", soleRow),
    (soleManifestPath, soleTransaction ++ [(text "identity", .str soleTransactionId)]),
    (solePath "failures/first.json", soleDescriptor), (solePath "planned-matrix.json", []),
    (solePath "confirmatory-batch-ledger.json", []),
    (text "/run/numerical-core-manifest.json", [(text "identity", .str (text "core"))])]

def soleText (path : Path) : Except Text Text :=
  orIssue ((soleFiles.lookup path.toText).map fun members => Python.canonicalText (.obj members))
    (text "No such file or directory")

def soleDisk : Disk where
  isSymlink := fun _ => false
  isFile := fun path => (soleFiles.lookup path.toText).isSome
  isDir := fun path => path.toText = solePath "cells" || path.toText = solePath "failures"
  resolve := id
  globJson := fun directory => (soleFiles.map fun file => Path.ofText file.1).filter
    fun path => path.parent = directory
  readText := soleText
  fileSha256 := fun path => (soleText path).map fun t => bytesId t.utf8

def soleRunner : Runner ℚ Unit where
  disk := soleDisk
  loads := fun t => (Python.loads (text "repeated name") t).mapError fun _ => ⟨true, text "line 1"⟩
  numericalCoreIdentity := fun _ => .ok (text "core")
  validateCellRawReconstruction := fun _ _ _ => .ok ()
  prepareOneDataset := fun _ _ _ => .ok ()
  scheduleEntries := fun _ _ _ => .ok [[(text "seed", .num (.int 1))]]
  cellDescriptor := fun _ _ _ _ _ _ _ _ => .ok soleDescriptor
  confirmatoryBatchLedger := fun _ => .ok []
  confirmatoryBudgetIssue := fun _ _ _ => some none
  analyzeCompletedCells := fun _ _ _ _ => some []

def soleConfig : Members ℚ :=
  [(text "schema_version", .str configSchemaV2), (text "statistical_protocol", .obj []),
    (text "datasets", .obj [(text "hai", .obj [(text "models", .obj [(text "lstm", .obj [])])])])]

def solePreflight : Members ℚ :=
  [(text "ready", .bool true), (text "phase_allocation_audit", passedAudit),
    (text "datasets", .obj [(text "hai", .obj [(text "phase_disjointness", passedAudit),
      (text "validation_role_split", passedAudit)])]),
    (text "repetition_planning_gate", .obj [(text "passed", .bool true),
      (text "status", .str (text "fixed-nonadaptive-50-after-complete-five-trial-pilot"))]),
    (text "numeric_authority", .obj [(text "accountability_outcome", .str (text "accountable"))])]

def solePaths : AcademicPaths where
  root := Path.ofText (text "/run")
  phase := Path.ofText (text "/run/confirmatory")
  cells := Path.ofText (solePath "cells")
  predictions := Path.ofText (solePath "predictions")

theorem soleSummary_isAggregates :
    (soleRunner.finalizePhaseSummary soleConfig solePreflight solePaths .confirmatory [] false).any
      (·.analysis.isAggregates) = true := by decide +kernel

theorem exactMatrix_of_soleCell :
    ∃ descriptors cells failures plans outcomes,
      soleRunner.expectedDescriptors soleConfig .confirmatory = .ok descriptors ∧
      soleRunner.loadCompletedCells solePaths.phase = .ok cells ∧
      soleRunner.retainedFailureRecords solePaths.phase = .ok failures ∧
      soleRunner.analyzeCompletedCells soleConfig cells .confirmatory plans = some outcomes ∧
      soleRunner.ExactMatrix soleConfig solePaths descriptors cells failures := by
  obtain ⟨summary, hsummary, haggregates⟩ :=
    (Option.any_eq_true _ _).mp soleSummary_isAggregates
  cases houtcomes : summary.analysis with
  | withheld =>
    rw [houtcomes] at haggregates
    cases haggregates
  | aggregates outcomes =>
    obtain ⟨descriptors, cells, failures, plans, h⟩ :=
      Runner.exactMatrix_of_aggregates rfl hsummary houtcomes
    exact ⟨descriptors, cells, failures, plans, outcomes, h⟩

end SoleCell

end TruthFingerprint.OfflineTraining
