import Mathlib
import TruthFingerprint.OfflineTraining.ContentUniqueness
import TruthFingerprint.OfflineTraining.HaiSlices

/-!
# Units of the two phases

A dataset that passes the audit has no unit in both phases. Only HAI needs the numeric schema for
this: by it a dataset with the strata of HAI has a total cap for its test blocks in every phase, so
that the phases do not rank the test blocks of the labels apart.
-/

namespace TruthFingerprint.OfflineTraining

open Python (Coercions Members Value mapping)

variable {F T : Type} [Coercions F] [LinearOrder T]

/-! ## Loading -/

/-- What is below a root directory -/
structure Corpora (F : Type) where
  adfaLd : AdfaCorpus
  lidDs2021 : LidCorpus F
  hai2305 : HaiCorpus

/-- `str(config.get(name, default))` -/
def textAt (config : Members F) (name default : Text) : Text :=
  match config.lookup name with
  | some value => Python.str value
  | none => default

/-- `load_academic_dataset`, where the corpora of each root are given -/
def loadAcademicDataset (calendar : Calendar T) (corpora : Text → Corpora F) (name : Text)
    (config : Members F) (phase : Phase) : Option (AcademicDataset F) :=
  let kind := textAt config (text "kind") name
  let corpora := corpora (textAt config (text "root") [])
  if kind = text "adfa-ld" then loadAdfaLd corpora.adfaLd config phase
  else if kind = text "lid-ds-2021" then loadLidDs2021 corpora.lidDs2021 config phase
  else if kind = text "hai-23.05" then loadHai2305 calendar corpora.hai2305 config phase
  else none

/-! ## The schema of HAI -/

section Schema

variable {config dataset allocation : Members F} {datasetKey : Text}

/-- The counts of test blocks are those of HAI. -/
theorem testCounts_pointer : ∀ pointer ∈ v2NumericRules.map Prod.fst,
    pointer.drop 2 = [text "phase_allocation", text "pilot", text "counts", text "test"] →
      pointer.take 2 = [text "datasets", text "hai-23.05"] := by
  decide +kernel

theorem testTotal_rule : ∀ phase : Phase,
    ([text "datasets", text "hai-23.05", text "phase_caps", phase.label, text "test", text "total"],
      NumericType.integer) ∈ v2NumericRules := by
  intro phase
  cases phase <;> decide +kernel

omit [Coercions F] in
theorem rank_eq_some {value : Value F} {n : Nat} (h : rank value = some n) :
    ∃ i, value = .num (.int i) := by
  unfold rank at h
  split at h
  · exact ⟨_, rfl⟩
  · cases h

/-- A dataset of the kind of HAI has the key of HAI. -/
theorem Passed.key_eq (h : Passed datasetKey dataset allocation)
    (hkind : kindOf dataset = text "hai-23.05") (hnumbers : numericIssues (.obj config) = [])
    {datasets : Members F} (hdatasets : config.lookup (text "datasets") = some (.obj datasets))
    {key : Text} (hkey : datasets.lookup key = some (.obj dataset)) : key = text "hai-23.05" := by
  obtain ⟨offsets, counts, record, hdeclared, -, hexpected⟩ := h.declared
  obtain ⟨members, hmembers, -, hcounts⟩ := (hdeclared .pilot).inPhase
  have htest : text "test" ∈ (counts .pilot).map Prod.fst := by
    obtain ⟨expected, declared, hexp, hdecl, hsame⟩ := hexpected .pilot
    have hroles : text "test" ∈ expected.map Prod.fst := by
      rw [map_fst_expected hexp, hkind]
      decide
    rw [← map_fst_of_mapValues hdecl]
    exact List.map_subset _ (fun x hx => hsame.1 x hx) hroles
  obtain ⟨raw, n, hraw, hrank, -⟩ := (hdeclared .pilot).count htest
  obtain ⟨i, rfl⟩ := rank_eq_some hrank
  have hleaf : (([] : Pointer), (.num (.int i) : Value F)) ∈ scalarLeaves (.num (.int i) : Value F) := by
    simp [scalarLeaves]
  have hleaf := mem_scalarLeaves_obj (mem_of_lookup hraw) hleaf
  have hleaf := mem_scalarLeaves_obj (mem_of_lookup hcounts) hleaf
  have hleaf := mem_scalarLeaves_obj (mem_of_lookup hmembers) hleaf
  have hleaf := mem_scalarLeaves_obj (mem_of_lookup h.hasAllocation) hleaf
  have hleaf := mem_scalarLeaves_obj (mem_of_lookup hkey) hleaf
  have hleaf := mem_scalarLeaves_obj (mem_of_lookup hdatasets) hleaf
  have htake := testCounts_pointer _ (rule_of_integer hnumbers hleaf) rfl
  simpa using htake

omit [Coercions F] in
theorem pointerValue_obj {members : Members F} {name : Text} {rest : Pointer} {value : Value F}
    (h : pointerValue (.obj members) (name :: rest) = some value) :
    ∃ d, members.lookup name = some d ∧ pointerValue d rest = some value := by
  rw [pointerValue] at h
  exact Option.bind_eq_some_iff.mp h

/-- The test blocks of HAI have a total cap. -/
theorem testTotal_of_schema (hnumbers : numericIssues (.obj config) = []) {datasets : Members F}
    (hdatasets : config.lookup (text "datasets") = some (.obj datasets))
    (hkey : datasets.lookup (text "hai-23.05") = some (.obj dataset)) (phase : Phase)
    {caps : Members F} (hcaps : phaseCaps dataset phase = some caps) :
    haiTotalCap caps (text "test") ≠ some none := by
  obtain ⟨i, hvalue⟩ := integer_of_rule hnumbers (testTotal_rule phase)
  obtain ⟨_, hlookup, hvalue⟩ := pointerValue_obj hvalue
  obtain rfl := Option.some.inj (hdatasets.symm.trans hlookup)
  obtain ⟨_, hlookup, hvalue⟩ := pointerValue_obj hvalue
  obtain rfl := Option.some.inj (hkey.symm.trans hlookup)
  obtain ⟨raw, hraw, hvalue⟩ := pointerValue_obj hvalue
  simp only [phaseCaps, hraw, Option.bind_eq_some_iff, mapping_eq_some] at hcaps
  obtain ⟨members, rfl, hcaps⟩ := hcaps
  obtain ⟨selected, hselected, hvalue⟩ := pointerValue_obj hvalue
  simp only [hselected, mapping_eq_some] at hcaps
  subst hcaps
  obtain ⟨partitionCaps', hpartition, hvalue⟩ := pointerValue_obj hvalue
  intro htotal
  simp only [haiTotalCap, partitionCaps, hpartition, Option.bind_eq_some_iff, mapping_eq_some]
    at htotal
  obtain ⟨caps', rfl, htotal⟩ := htotal
  obtain ⟨total, hlookup, -⟩ := pointerValue_obj hvalue
  rw [hlookup] at htotal
  obtain ⟨_, -, hnone⟩ := Option.map_eq_some_iff.mp htotal
  cases hnone

end Schema

/-! ## Isolation -/

section Isolation

variable {config dataset : Members F} {key : Text} {datasets : List (Text × Members F)}
  {audits : List (Text × DatasetAudit)} {calendar : Calendar T} {corpora : Text → Corpora F}
  {pilot confirmatory : AcademicDataset F}

theorem passed_of_phaseAllocationAudit (haudit : phaseAllocationAudit config = some (audits, true))
    (hdatasets : datasetConfigs config = some datasets) (hmem : (key, dataset) ∈ datasets) :
    ∃ allocation, Passed key dataset allocation := by
  unfold phaseAllocationAudit at haudit
  split_ifs at haudit
  · simp at haudit
  simp only [hdatasets, Option.bind_eq_bind, Option.bind_some, Option.bind_eq_some_iff,
    Option.some.injEq, Prod.mk.injEq, Bool.and_eq_true, List.all_eq_true] at haudit
  obtain ⟨audits, haudits, rfl, hpassed, -⟩ := haudit
  obtain ⟨item, hitem, haudit⟩ := List.exists_of_mapM_eq_some haudits hmem
  obtain ⟨audit, hown, rfl⟩ := Option.map_eq_some_iff.mp haudit
  exact passed_of_auditDataset hown (hpassed _ hitem)

omit [Coercions F] in
theorem lookup_of_datasetConfigs (hdatasets : datasetConfigs config = some datasets)
    (hdataset : datasets.lookup key = some dataset) :
    ∃ raw, config.lookup (text "datasets") = some (.obj raw) ∧
      raw.lookup key = some (.obj dataset) := by
  simp only [datasetConfigs, Option.bind_eq_bind, Option.bind_eq_some_iff, mapping_eq_some,
    exists_eq_right] at hdatasets
  obtain ⟨raw, hraw, hread⟩ := hdatasets
  have hname : key ∈ raw.map Prod.fst := by
    rw [← map_fst_of_mapValues hread]
    exact List.mem_map_of_mem (f := Prod.fst) (mem_of_lookup hdataset)
  obtain ⟨value, hvalue⟩ := exists_lookup hname
  obtain ⟨dataset', hmapping, hlookup⟩ := lookup_of_mapValues hread hvalue
  obtain rfl := Option.some.inj (hdataset.symm.trans hlookup)
  exact ⟨raw, hraw, by rw [hvalue, mapping_eq_some.mp hmapping]⟩

/-- A dataset that passes is of a kind that the audit knows. -/
theorem Passed.kind_mem {datasetKey : Text} {allocation : Members F}
    (h : Passed datasetKey dataset allocation) :
    kindOf dataset ∈ [text "adfa-ld", text "lid-ds-2021", text "hai-23.05"] := by
  obtain ⟨_, _, _, -, -, hexpected⟩ := h.declared
  obtain ⟨expected, _, hexp, -⟩ := hexpected .pilot
  simp only [expectedAllocationCounts, Option.bind_eq_bind, Option.bind_eq_some_iff] at hexp
  obtain ⟨_, -, _, -, hexp⟩ := hexp
  split_ifs at hexp <;> simp_all

theorem textAt_kind (name : Text) (hkind : kindOf dataset ≠ []) :
    textAt dataset (text "kind") name = kindOf dataset := by
  unfold kindOf at hkind ⊢
  rw [textAt]
  split at hkind
  · rename_i s hlookup
    simp [hlookup, Python.str]
  · exact absurd rfl hkind

/-- The 64-bit priority tells the blocks of HAI apart. -/
def Corpora.PrioritiesApart (corpora : Text → Corpora F) (calendar : Calendar T)
    (dataset : Members F) : Prop :=
  kindOf dataset = text "hai-23.05" →
    OfflineTraining.PrioritiesApart calendar (corpora (textAt dataset (text "root") [])).hai2305 dataset

/-- No unit is selected in both phases, and no sequence of calls of ADFA-LD. -/
theorem phases_isolated (hnumbers : numericIssues (.obj config) = [])
    (haudit : phaseAllocationAudit config = some (audits, true))
    (hdatasets : datasetConfigs config = some datasets)
    (hdataset : datasets.lookup key = some dataset)
    (hpriorities : Corpora.PrioritiesApart corpora calendar dataset)
    (hpilot : loadAcademicDataset calendar corpora key dataset .pilot = some pilot)
    (hconfirmatory : loadAcademicDataset calendar corpora key dataset .confirmatory =
      some confirmatory) :
    (∀ unit ∈ pilot.units, ∀ other ∈ confirmatory.units, other.unitId ≠ unit.unitId) ∧
      (kindOf dataset = text "adfa-ld" →
        ∀ unit ∈ pilot.units, ∀ other ∈ confirmatory.units, other.values ≠ unit.values) := by
  obtain ⟨allocation, hpassed⟩ :=
    passed_of_phaseAllocationAudit haudit hdatasets (mem_of_lookup hdataset)
  obtain ⟨raw, hraw, hkey⟩ := lookup_of_datasetConfigs hdatasets hdataset
  obtain ⟨start, count, hslices⟩ := hpassed.exists_slices
  have hmem := hpassed.kind_mem
  have hkindText : textAt dataset (text "kind") key = kindOf dataset := by
    refine textAt_kind key fun hnil => ?_
    rw [hnil] at hmem
    exact absurd hmem (by decide)
  simp only [loadAcademicDataset, hkindText] at hpilot hconfirmatory
  have hadfa : text "lid-ds-2021" ≠ text "adfa-ld" := by decide
  have hadfa' : text "hai-23.05" ≠ text "adfa-ld" := by decide
  have hlid : text "hai-23.05" ≠ text "lid-ds-2021" := by decide
  simp only [List.mem_cons, List.not_mem_nil, or_false] at hmem
  rcases hmem with hkind | hkind | hkind
  · rw [hkind, if_pos rfl] at hpilot hconfirmatory
    obtain ⟨loaded⟩ := exists_adfaLoaded hpilot
    obtain ⟨loaded'⟩ := exists_adfaLoaded hconfirmatory
    exact ⟨fun unit hunit other hother => hslices.adfa_unitId_ne hkind loaded loaded' hunit hother,
      fun _ unit hunit other hother => hslices.adfa_values_ne hkind loaded loaded' hunit hother⟩
  · rw [hkind, if_neg hadfa, if_pos rfl] at hpilot hconfirmatory
    obtain ⟨loaded⟩ := exists_lidLoaded hpilot
    obtain ⟨loaded'⟩ := exists_lidLoaded hconfirmatory
    exact ⟨fun unit hunit other hother =>
      hslices.lid_unitId_ne hpassed hkind loaded loaded' hunit hother,
      fun h => absurd (hkind.symm.trans h) hadfa⟩
  · rw [hkind, if_neg hadfa', if_neg hlid, if_pos rfl] at hpilot hconfirmatory
    have hstrict : (present dataset (text "phase_allocation")).isSome := by
      simp [present, hpassed.hasAllocation]
    obtain ⟨loaded⟩ := exists_haiLoaded hstrict hpilot
    obtain ⟨loaded'⟩ := exists_haiLoaded hstrict hconfirmatory
    obtain rfl := hpassed.key_eq hkind hnumbers hraw hkey
    have hallocated : HaiAllocated dataset start count :=
      ⟨hslices, hkind, fun phase _ hcaps => testTotal_of_schema hnumbers hraw hkey phase hcaps⟩
    exact ⟨fun unit hunit other hother =>
      hallocated.unitId_ne (hpriorities hkind) loaded loaded' hunit hother,
      fun h => absurd (hkind.symm.trans h) hadfa'⟩

end Isolation

/-! ## A configuration -/

section Sample

def ones (names : List Text) : Members ℤ := names.map fun name => (name, .num (.int 1))

def samplePhases (value : Phase → Members ℤ) : Value ℤ :=
  .obj [(text "pilot", .obj (value .pilot)), (text "confirmatory", .obj (value .confirmatory))]

/-- One unit of each stratum in each phase -/
def sampleAllocation (method : Text) (roles : List Text) : Value ℤ :=
  let phaseRecord (start : Int) : Value ℤ :=
    .obj [(text "offsets", .obj (roles.map fun role => (role, .num (.int start)))),
      (text "counts", .obj (ones roles))]
  .obj [(text "method", .str method), (text "pilot", phaseRecord 0), (text "confirmatory", phaseRecord 1)]

def sampleDatasetConfig (kind method : Text) (roles : List Text) (caps : Members ℤ)
    (fields : Members ℤ) : Text × Value ℤ :=
  (kind, .obj ([(text "kind", .str kind), (text "phase_caps", samplePhases fun _ => caps),
    (text "phase_allocation", sampleAllocation method roles),
    (text "minimum_support", samplePhases fun _ => ones [text "test_normal", text "test_attack"]),
    (text "window", .obj (ones [text "sequence_length", text "stride", text "max_windows_per_unit"]))] ++
    ones [text "partition_seed", text "numeric_clip"] ++ fields))

def sampleCategoricalModels : Value ℤ :=
  .obj [(text "categorical-unigram", .obj (ones [text "laplace_alpha"])),
    (text "robust-distance", .obj (ones [text "hash_bins", text "max_robust_z"])),
    (text "pca-autoencoder", .obj (ones [text "hash_bins", text "latent_dimensions"])),
    (text "recurrent-autoencoder", .obj (ones [text "epochs", text "batch_size", text "hidden_units",
      text "latent_units", text "embedding_dimensions", text "patience", text "learning_rate",
      text "min_delta"]))]

def sampleNumericModels : Value ℤ :=
  .obj [(text "robust-distance", .obj (ones [text "max_robust_z"])),
    (text "pca-autoencoder", .obj (ones [text "latent_dimensions"])),
    (text "recurrent-autoencoder", .obj (ones [text "epochs", text "batch_size", text "hidden_units",
      text "latent_units", text "patience", text "learning_rate", text "min_delta"]))]

def sampleDatasets : Members ℤ :=
  [sampleDatasetConfig (text "adfa-ld") disjointPrioritySlicesV1 adfaRoles
      (ones [text "train", text "validation", text "test_normal", text "test_attack_per_class"])
      [(text "normal_validation_fraction", .num (.float 1)), (text "models", sampleCategoricalModels)],
    sampleDatasetConfig (text "lid-ds-2021") disjointContentPrioritySlicesV2 lidRoles
      (ones [text "archives_per_scenario_partition"]) [(text "models", sampleCategoricalModels)],
    sampleDatasetConfig (text "hai-23.05") disjointPrioritySlicesV1 haiRoles
      [(text "train", .obj (ones [text "normal"])), (text "validation", .obj (ones [text "normal"])),
        (text "test", .obj (ones [text "total"]))]
      ((text "models", sampleNumericModels) :: ones [text "block_rows"])]

def sampleConfig : Members ℤ :=
  let seeds (n : Nat) : Value ℤ := .arr ((List.range n).map fun i => .num (.int i))
  [(text "schema_version", .str configSchemaV2), (text "pilot_seeds", seeds 5),
    (text "confirmatory_seeds", seeds 50),
    (text "execution_protocol", .obj (ones [text "confirmatory_batch_size"])),
    (text "computational_budget", .obj (ones [text "ask_first_cpu_hours", text "safety_factor"])),
    (text "validation_protocol", .obj (ones [text "early_stopping_fraction", text "split_seed",
      text "minimum_units_per_role"])),
    (text "statistical_protocol", .obj (ones [text "bootstrap_replicates",
      text "minimum_bootstrap_clusters", text "minimum_class_carrying_clusters",
      text "minimum_valid_bootstrap_replicates", text "bootstrap_seed_offset",
      text "minimum_stochastic_trials", text "maximum_stochastic_trials", text "comparison_seed",
      text "permutation_replicates", text "curve_max_points", text "confidence_level",
      text "minimum_valid_bootstrap_fraction", text "target_ci_half_width"] ++
      [(text "threshold", .obj ((text "sensitivity_normal_quantiles", seeds 5) ::
        ones [text "target_fpr", text "normal_quantile"]))])),
    (text "datasets", .obj sampleDatasets)]

/-- Halves of integers, for examples -/
instance : Coercions ℤ where
  containerText := fun _ => text "[]"
  ofLiteral := fun _ => 1
  repr := Python.intText
  isFinite := fun _ => true
  eqInt := fun x i => x = 2 * i
  truncate := fun x => some (x / 2)
  ofInt := fun i => some (2 * i)
  ofText := fun t => (Python.intOfText t).map (2 * ·)
  isFraction := fun x => x = 1
  roundTimes := fun n x => n * x / 2

/-- Dates as the numbers that their digits make -/
def sampleCalendar : Calendar ℕ where
  fromIsoFormat := fun stamp => some (DecimalText.natValue (stamp.filter JsonText.isDigit))
  minuteFloor := fun n => n / 100 * 100

/-- Two rows in each file, of which the second is an attack where there are labels -/
def sampleHaiCorpus : HaiCorpus where
  manifest := some fun name => name
  rows := fun name =>
    if (text "label").isPrefixOf name then
      [[text "timestamp", text "label"], [text "2022-08-12 16:00:00", text "0"],
        [text "2022-08-12 16:00:01", text "1"]]
    else
      [[text "timestamp", text "P1"], [text "2022-08-12 16:00:00", text "3"],
        [text "2022-08-12 16:00:01", text "4"]]

def noRecordings : LidCorpus ℤ where
  hasRoot := false
  directories := []
  archives := fun _ _ => []
  project := fun _ _ _ _ => none
  directories_ok := by simp
  archives_nodup := by simp

def sampleCorpora (_root : Text) : Corpora ℤ := ⟨sampleAdfaCorpus, noRecordings, sampleHaiCorpus⟩

/-- The dataset is read in both phases and has the property. -/
def ReadInBoth (datasets : List (Text × Members ℤ)) (key : Text) (property : Members ℤ → Bool) :
    Bool :=
  (datasets.lookup key).any fun dataset =>
    (loadAcademicDataset sampleCalendar sampleCorpora key dataset .pilot).isSome &&
      (loadAcademicDataset sampleCalendar sampleCorpora key dataset .confirmatory).isSome &&
      property dataset

theorem exists_of_readInBoth {datasets : List (Text × Members ℤ)} {key : Text}
    {property : Members ℤ → Bool} (h : ReadInBoth datasets key property) :
    ∃ dataset pilot confirmatory, datasets.lookup key = some dataset ∧
      loadAcademicDataset sampleCalendar sampleCorpora key dataset .pilot = some pilot ∧
      loadAcademicDataset sampleCalendar sampleCorpora key dataset .confirmatory = some confirmatory ∧
      property dataset := by
  simp only [ReadInBoth, Bool.and_eq_true, Option.any_eq_true, Option.isSome_iff_exists] at h
  obtain ⟨dataset, hdataset, ⟨⟨pilot, hpilot⟩, confirmatory, hconfirmatory⟩, hproperty⟩ := h
  exact ⟨dataset, pilot, confirmatory, hdataset, hpilot, hconfirmatory, hproperty⟩

/-- The priorities tell the blocks of a corpus apart, by a run over its files. -/
def priorityCheck (corpus : HaiCorpus) (config : Members ℤ) : Bool :=
  (haiSettings corpus config).all fun settings =>
    (haiCorpusBlocks (F := ℤ) sampleCalendar corpus settings.hashes settings.blockRows).all fun files =>
      files.all fun file => file.2.1.all fun unit => files.all fun file' => file'.2.1.all fun other =>
        unitPriority settings.seed unit ≠ unitPriority settings.seed other ||
          unit.unitId = other.unitId

theorem prioritiesApart_of_check {corpus : HaiCorpus} {config : Members ℤ}
    (h : priorityCheck corpus config) : PrioritiesApart sampleCalendar corpus config := by
  intro settings files hsettings hfiles file hfile unit hunit file' hfile' other hother heq
  simp only [priorityCheck, hsettings, hfiles, Option.all_some, List.all_eq_true] at h
  simpa [heq] using h file hfile unit hunit file' hfile' other hother

theorem sample_phases_isolated :
    (∃ dataset pilot confirmatory,
      loadAcademicDataset sampleCalendar sampleCorpora (text "adfa-ld") dataset .pilot = some pilot ∧
      loadAcademicDataset sampleCalendar sampleCorpora (text "adfa-ld") dataset .confirmatory =
        some confirmatory ∧
      ∀ unit ∈ pilot.units, ∀ other ∈ confirmatory.units, other.values ≠ unit.values) ∧
    ∃ dataset pilot confirmatory,
      loadAcademicDataset sampleCalendar sampleCorpora (text "hai-23.05") dataset .pilot = some pilot ∧
      loadAcademicDataset sampleCalendar sampleCorpora (text "hai-23.05") dataset .confirmatory =
        some confirmatory ∧
      ∀ unit ∈ pilot.units, ∀ other ∈ confirmatory.units, other.unitId ≠ unit.unitId := by
  have hnumbers : numericIssues (.obj sampleConfig) = [] := by decide +kernel
  have hpasses : (phaseAllocationAudit sampleConfig).any (·.2) := by decide +kernel
  have hreads : (datasetConfigs sampleConfig).any fun datasets =>
      ReadInBoth datasets (text "adfa-ld") (fun dataset => kindOf dataset = text "adfa-ld") &&
        ReadInBoth datasets (text "hai-23.05") (priorityCheck sampleHaiCorpus) := by decide +kernel
  obtain ⟨⟨audits, _⟩, haudit, rfl⟩ := (Option.any_eq_true _ _).mp hpasses
  obtain ⟨datasets, hdatasets, hboth⟩ := (Option.any_eq_true _ _).mp hreads
  obtain ⟨hadfa, hhai⟩ := Bool.and_eq_true_iff.mp hboth
  constructor
  · obtain ⟨dataset, pilot, confirmatory, hdataset, hpilot, hconfirmatory, hkind⟩ :=
      exists_of_readInBoth hadfa
    have hkind := of_decide_eq_true hkind
    have hisolated := phases_isolated hnumbers haudit hdatasets hdataset
      (fun h => absurd (hkind.symm.trans h) (by decide)) hpilot hconfirmatory
    exact ⟨dataset, pilot, confirmatory, hpilot, hconfirmatory, hisolated.2 hkind⟩
  · obtain ⟨dataset, pilot, confirmatory, hdataset, hpilot, hconfirmatory, hpriorities⟩ :=
      exists_of_readInBoth hhai
    have hisolated := phases_isolated hnumbers haudit hdatasets hdataset
      (fun _ => prioritiesApart_of_check hpriorities) hpilot hconfirmatory
    exact ⟨dataset, pilot, confirmatory, hpilot, hconfirmatory, hisolated.1⟩

end Sample

end TruthFingerprint.OfflineTraining
