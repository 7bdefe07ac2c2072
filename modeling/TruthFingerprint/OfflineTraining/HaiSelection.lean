import TruthFingerprint.OfflineTraining.HaiBlockTruth

/-!
# The selection of blocks of HAI 23.05

The files of a partition keep reservoirs of their blocks, and a slice is taken of what the reservoirs
keep. A loaded dataset has the slice of the ranking of all blocks of each partition, and what it has
of them is read off the observations alone (`haiSelection_exact`).
-/

namespace TruthFingerprint.OfflineTraining

open List (HasFirst ranked)
open Chunks (chunk)
open Python (Coercions Members)

variable {F T : Type} [Coercions F] [LinearOrder T]

/-! ## What is observed of a block -/

/-- A block without what the labels say of it -/
structure ObservedBlock (F : Type) where
  partition : Partition
  order : Int
  unitId : Text
  values : Rows F

def AcademicUnit.observed (unit : AcademicUnit F) : ObservedBlock F :=
  ⟨unit.assignedPartition, unit.order, unit.unitId, unit.values⟩

namespace ObservedBlock

def priority (seed : Int) (block : ObservedBlock F) : Nat := stablePriority seed block.unitId

def sortKey (block : ObservedBlock F) : Text ×ₗ Int ×ₗ Text :=
  toLex (block.partition.label, toLex (block.order, block.unitId))

end ObservedBlock

/-- The complete blocks of the values of a file -/
def blocksOfValues (source : HaiSource) (blockRows : Nat) (values : Rows F) :
    List (ObservedBlock F) :=
  (List.range (values.length / blockRows)).map fun k : Nat =>
    { partition := source.assignedPartition
      order := k * blockRows
      unitId := haiUnitId source.observations (k * blockRows) blockRows
      values := chunk blockRows values k }

/-- The values of the rows of a file, those that can be read -/
def observedValues (corpus : HaiCorpus) (source : HaiSource) : Rows F :=
  (corpus.rows source.observations).tail.filterMap fun row => haiValues row.tail

/-- The blocks of the files of a partition, read off the observations -/
def observedBlocks (corpus : HaiCorpus) (blockRows : Nat) (partition : Partition) :
    List (ObservedBlock F) :=
  (haiSources.filter fun source => source.assignedPartition = partition).flatMap fun source =>
    blocksOfValues source blockRows (observedValues corpus source)

/-! ## The blocks of a file -/

section File

variable {calendar : Calendar T} {corpus : HaiCorpus} {source : HaiSource} {sourceSha256 : Text}
  {columns blockRows blockIndex : Nat}

omit [LinearOrder T] in
theorem partition_of_haiUnit {rows : Rows F} {events : List Text} {unit : AcademicUnit F}
    (h : haiUnit source sourceSha256 blockRows blockIndex rows events = some unit) :
    unit.assignedPartition = source.assignedPartition := by
  simp only [haiUnit, Option.bind_eq_bind, Option.bind_eq_some_iff] at h
  obtain ⟨groupId, -, h⟩ := h
  by_cases hgroup : groupId ≠ []
  · rw [dif_pos hgroup] at h
    exact Option.some.inj h ▸ rfl
  · rw [dif_neg hgroup] at h
    cases h

theorem partition_of_haiScan {scan : HaiScan F T} {names : List Text}
    (h : haiScan calendar corpus source sourceSha256 blockRows = some (scan, names)) :
    ∀ unit ∈ scan.blocks, unit.assignedPartition = source.assignedPartition := by
  simp only [haiScan, Option.bind_eq_bind, Option.bind_eq_some_iff, Option.some.injEq,
    Prod.mk.injEq] at h
  obtain ⟨header, -, _, -, _, -, scanned, hscanned, _, -, rfl, -⟩ := h
  refine BreakLoop.foldlM_invariant
    (fun scan : HaiScan F T => ∀ unit ∈ scan.blocks, unit.assignedPartition = source.assignedPartition)
    (fun _ row scan next hscan hrow => ?_) (fun _ hunit => absurd hunit List.not_mem_nil) hscanned
  obtain ⟨events, -, ⟨hblocks, -⟩ | ⟨rows, unit, hunit, hblocks, -⟩⟩ := haiRow_eq_some hrow
  · exact hblocks ▸ hscan
  · rw [hblocks]
    intro other hother
    rcases List.mem_append.mp hother with hother | hother
    · exact hscan other hother
    · exact List.mem_singleton.mp hother ▸ partition_of_haiUnit hunit

theorem observedValues_eq {values : Rows F}
    (h : List.Forall₂ (fun row value => haiValues row.tail = some value)
      (corpus.rows source.observations).tail values) : observedValues corpus source = values := by
  rw [observedValues]
  generalize (corpus.rows source.observations).tail = rows at h ⊢
  induction h with
  | nil => rfl
  | cons hrow _ ih => rw [List.filterMap_cons, hrow, ih]

/-- The blocks of a file are those of its values. -/
theorem observed_haiBlocks {blocks : List (AcademicUnit F) × List Text} (hpos : 0 < blockRows)
    (h : haiBlocks calendar corpus source sourceSha256 blockRows = some blocks) :
    blocks.1.map AcademicUnit.observed =
      blocksOfValues source blockRows (observedValues corpus source) := by
  have hids := (blocksOf_haiBlocks h).ids
  rw [haiBlocks_eq_haiScan] at h
  obtain ⟨⟨scan, names⟩, hscan, rfl⟩ := Option.map_eq_some_iff.mp h
  have hpartition := partition_of_haiScan hscan
  obtain ⟨values, hvalues, hblocks⟩ := blockScan_of_haiScan hpos hscan
  rw [observedValues_eq hvalues, blocksOfValues, ← hblocks.size]
  refine List.ext_getElem (by simp) fun k hk hk' => ?_
  rw [List.length_map] at hk
  have htruth := hblocks.blocks k _ (List.getElem?_eq_getElem hk)
  have hid := congrArg (·[k]?) hids
  simp only [List.getElem?_map, List.getElem?_eq_getElem hk, List.getElem?_range hk,
    Option.map_some, Option.some.injEq] at hid
  simp only [List.getElem_map, List.getElem_range, AcademicUnit.observed, hid,
    hpartition _ (List.getElem_mem hk), htruth.rows, htruth.order]

end File

/-! ## The blocks of a partition -/

section Partitions

variable {calendar : Calendar T} {corpus : HaiCorpus} {hashes : Text → Text} {blockRows : Nat}
  {files : HaiFiles F}

theorem observed_ofPartition (hpos : 0 < blockRows)
    (h : haiCorpusBlocks calendar corpus hashes blockRows = some files) (partition : Partition) :
    (files.ofPartition partition).map AcademicUnit.observed =
      observedBlocks corpus blockRows partition := by
  rw [observedBlocks, HaiFiles.ofPartition, inPartition]
  rw [haiCorpusBlocks] at h
  generalize haiSources = sources at h ⊢
  have hfiles := List.mapM_eq_some_iff.mp h
  clear h
  induction hfiles with
  | nil => rfl
  | @cons source file sources files hfile _ ih =>
    simp only [Option.bind_eq_bind, Option.bind_eq_some_iff, Option.some.injEq] at hfile
    obtain ⟨blocks, hblocks, rfl⟩ := hfile
    rw [List.map_cons, List.filter_cons, List.filter_cons]
    by_cases hpartition : source.assignedPartition = partition
    · simp only [hpartition, decide_true, if_true, List.flatMap_cons, List.map_append, ih,
        observed_haiBlocks hpos hblocks]
    · simpa only [hpartition, decide_false, if_false, Bool.false_eq_true] using ih

omit [Coercions F] in
/-- The ranking of blocks is one of what is observed of them. -/
theorem observed_ranked (seed : Int) (units : List (AcademicUnit F)) :
    (ranked (unitPriority seed) units).map AcademicUnit.observed =
      ranked (ObservedBlock.priority seed) (units.map AcademicUnit.observed) :=
  List.map_insertionSort _ _ _ _ fun _ _ _ _ => Iff.rfl

omit [Coercions F] in
theorem observed_sortUnits (units : List (AcademicUnit F)) :
    (sortUnits units).map AcademicUnit.observed =
      ranked ObservedBlock.sortKey (units.map AcademicUnit.observed) :=
  List.map_insertionSort _ _ _ _ fun _ _ _ _ => Iff.rfl

end Partitions

/-! ## The slice of a partition -/

section Slice

variable {config caps : Members F} {phase : Phase} {seed : Int} {partition : Partition}
  {offset c : Nat} {blocks candidates selected : List (AcademicUnit F)}

omit [Coercions F] in
theorem length_of_stableUnitSlice {cap : Nat} (hcap : cap ≠ 0)
    (h : stableUnitSlice seed candidates cap offset true = some selected) :
    selected.length = cap := by
  rw [stableUnitSlice, if_neg fun h => hcap h.2, if_neg hcap] at h
  split_ifs at h with hexact
  rw [not_and, not_not] at hexact
  exact Option.some.inj h ▸ hexact rfl

/-- A slice that is selected is full. -/
theorem HaiCaps.length_eq (h : HaiCaps caps partition c blocks)
    (hcandidates : ∀ unit ∈ candidates, unit ∈ blocks)
    (hoffset : phaseRankStart config phase partition.label (some partition.label) = some offset)
    (hselected : slicePartition config caps phase seed partition candidates = some selected) :
    selected.length = c := by
  obtain ⟨members, hmembers, hcount⟩ := h.members
  simp only [slicePartition, hoffset, Option.bind_eq_bind, Option.bind_some,
    Option.bind_eq_some_iff] at hselected
  obtain ⟨total, htotal, hselected⟩ := hselected
  cases total with
  | some total =>
    obtain rfl := total_eq hmembers hcount htotal
    exact length_of_stableUnitSlice h.pos.ne' hselected
  | none =>
    simp only [Option.bind_eq_some_iff, Option.some.injEq] at hselected
    obtain ⟨n, hn, a, ha, normal, hnormal, attack, hattack, rfl⟩ := hselected
    have hlabel : ∀ unit ∈ candidates, unit.label = 0 := fun unit hunit =>
      h.normal htotal unit (hcandidates unit hunit)
    obtain ⟨rfl, rfl⟩ := sliceLabel_nil (filter_label_normal hlabel).2 hattack
    obtain rfl : n = c := sum_eq hmembers hcount htotal hn ha
    rw [List.append_nil]
    exact length_of_stableUnitSlice h.pos.ne' (stableUnitSlice_of_sliceLabel hlabel h.pos.ne' hnormal)

end Slice

/-! ## A loaded dataset -/

section Loaded

variable {calendar : Calendar T} {corpus : HaiCorpus} {config : Members F} {phase : Phase}
  {dataset : AcademicDataset F} {start count : Text → Phase → Nat}

/-- The slice that a phase takes of the blocks of a partition -/
def phaseSlice (corpus : HaiCorpus) (blockRows : Nat) (seed : Int)
    (start count : Text → Phase → Nat) (phase : Phase) (partition : Partition) :
    List (ObservedBlock F) :=
  (ranked (ObservedBlock.priority seed) (observedBlocks corpus blockRows partition)).slice
    (start partition.label phase) (count partition.label phase)

/-- A partition has the slice of its blocks. -/
theorem HaiAllocated.observed_of_slicePartition (h : HaiAllocated config start count)
    (loaded : HaiLoaded calendar corpus config phase dataset)
    (hpriorities : PrioritiesApart calendar corpus config) {partition : Partition}
    {selected : List (AcademicUnit F)}
    (hslice : slicePartition config loaded.caps phase loaded.settings.seed partition
      (inPartition partition loaded.retained) = some selected) :
    selected.map AcademicUnit.observed = phaseSlice corpus loaded.settings.blockRows
        loaded.settings.seed start count phase partition ∧
      selected.length = count partition.label phase := by
  have hcaps := h.haiCaps loaded partition
  have hoffset := h.rankStart phase partition
  have hnodup := loaded.nodup_priorities hpriorities partition
  have hsubset := loaded.retains.subset hnodup
  obtain ⟨hselected, hnormalCap⟩ := hcaps.slice_eq (fun _ hunit => hsubset hunit) hoffset hslice
  have hfirst := hcaps.hasFirst hoffset hnormalCap hnodup loaded.retains
  have hslices : selected = (ranked (unitPriority loaded.settings.seed)
      (loaded.files.ofPartition partition)).slice (start partition.label phase)
        (count partition.label phase) := by
    rw [hselected, rankUnits_eq_ranked hfirst.nodup,
      List.slice_eq_of_take_eq (List.take_ranked_of_first _ hfirst hnodup)]
  refine ⟨?_, hcaps.length_eq (fun _ hunit => hsubset hunit) hoffset hslice⟩
  rw [hslices, phaseSlice, ← observed_ofPartition (blockRows_pos loaded.hasSettings) loaded.hasFiles,
    ← observed_ranked, List.slice, List.slice, List.map_take, List.map_drop]

/-- The units of a loaded dataset -/
theorem HaiAllocated.observed_units (h : HaiAllocated config start count)
    (loaded : HaiLoaded calendar corpus config phase dataset)
    (hpriorities : PrioritiesApart calendar corpus config) :
    dataset.units.map AcademicUnit.observed = ranked ObservedBlock.sortKey
        ([Partition.train, .validation, .test].flatMap
          (phaseSlice corpus loaded.settings.blockRows loaded.settings.seed start count phase)) ∧
      ∀ partition : Partition, (phaseSlice (F := F) corpus loaded.settings.blockRows
        loaded.settings.seed start count phase partition).length = count partition.label phase := by
  have hselects := List.mapM_eq_some_iff.mp loaded.selects
  rw [List.forall₂_cons_left_iff] at hselects
  obtain ⟨train, _, htrain, hselects, hselected⟩ := hselects
  rw [List.forall₂_cons_left_iff] at hselects
  obtain ⟨validation, _, hvalidation, hselects, rfl⟩ := hselects
  rw [List.forall₂_cons_left_iff] at hselects
  obtain ⟨test, _, htest, hselects, rfl⟩ := hselects
  obtain rfl := List.forall₂_nil_left_iff.mp hselects
  obtain ⟨htrain, htrainLength⟩ := h.observed_of_slicePartition loaded hpriorities htrain
  obtain ⟨hvalidation, hvalidationLength⟩ :=
    h.observed_of_slicePartition loaded hpriorities hvalidation
  obtain ⟨htest, htestLength⟩ := h.observed_of_slicePartition loaded hpriorities htest
  constructor
  · rw [loaded.units, observed_sortUnits, hselected]
    simp only [List.flatten_cons, List.flatten_nil, List.map_append, List.map_nil,
      List.flatMap_cons, List.flatMap_nil, htrain, hvalidation, htest]
  · intro partition
    cases partition with
    | train => rw [← htrain, List.length_map, htrainLength]
    | validation => rw [← hvalidation, List.length_map, hvalidationLength]
    | test => rw [← htest, List.length_map, htestLength]

end Loaded

/-! ## Configurations and labels -/

section Labels

variable {calendar : Calendar T} {corpus corpus' : HaiCorpus} {phase : Phase}
  {corpora : Text → Corpora F} {document config : Members F} {key : Text}
  {datasets : List (Text × Members F)} {audits : List (Text × DatasetAudit)}
  {dataset : AcademicDataset F}

/-- Two corpora with the same observations, whatever their labels are -/
def SameObservations (corpus corpus' : HaiCorpus) : Prop :=
  ∀ source ∈ haiSources, corpus'.rows source.observations = corpus.rows source.observations

theorem observedBlocks_eq (h : SameObservations corpus corpus')
    (blockRows : Nat) (partition : Partition) :
    observedBlocks (F := F) corpus' blockRows partition =
      observedBlocks corpus blockRows partition := by
  rw [observedBlocks, observedBlocks]
  refine List.flatMap_congr fun source hsource => ?_
  rw [observedValues, observedValues, h source (List.mem_of_mem_filter hsource)]

omit [LinearOrder T] in
/-- The manifest of a corpus has no part in what its blocks are cut and ranked by. -/
theorem settings_eq_of_haiSettings {settings settings' : HaiSettings}
    (h : haiSettings corpus config = some settings)
    (h' : haiSettings corpus' config = some settings') :
    settings'.blockRows = settings.blockRows ∧ settings'.seed = settings.seed := by
  simp only [haiSettings, Option.bind_eq_bind, Option.bind_eq_some_iff, Option.guard_eq_some',
    Option.some.injEq] at h h'
  obtain ⟨_, -, blockRows, hrows, _, -, seed, hseed, rfl⟩ := h
  obtain ⟨_, -, blockRows', hrows', _, -, seed', hseed', rfl⟩ := h'
  obtain rfl := Option.some.inj (hrows.symm.trans hrows')
  obtain rfl := Option.some.inj (hseed.symm.trans hseed')
  exact ⟨rfl, rfl⟩

/-- A configuration that passes allocates the blocks of HAI. -/
theorem exists_haiAllocated (hnumbers : numericIssues (.obj document) = [])
    (haudit : phaseAllocationAudit document = some (audits, true))
    (hdatasets : datasetConfigs document = some datasets)
    (hconfig : datasets.lookup key = some config) (hkind : kindOf config = text "hai-23.05") :
    (present config (text "phase_allocation")).isSome ∧
      ∃ start count, HaiAllocated config start count := by
  obtain ⟨allocation, hpassed⟩ :=
    passed_of_phaseAllocationAudit haudit hdatasets (mem_of_lookup hconfig)
  obtain ⟨raw, hraw, hkey⟩ := lookup_of_datasetConfigs hdatasets hconfig
  obtain ⟨start, count, hslices⟩ := hpassed.exists_slices
  obtain rfl := hpassed.key_eq hkind hnumbers hraw hkey
  exact ⟨by simp [present, hpassed.hasAllocation], start, count, hslices, hkind,
    fun phase _ hcaps => testTotal_of_schema hnumbers hraw hkey phase hcaps⟩

omit [LinearOrder T] in
theorem loadAcademicDataset_hai [LinearOrder T] (hkind : kindOf config = text "hai-23.05")
    (h : loadAcademicDataset calendar corpora key config phase = some dataset) :
    loadHai2305 calendar (corpora (textAt config (text "root") [])).hai2305 config phase =
      some dataset := by
  have hkindText : textAt config (text "kind") key = kindOf config :=
    textAt_kind key (by rw [hkind]; decide)
  have hadfa : text "hai-23.05" ≠ text "adfa-ld" := by decide
  have hlid : text "hai-23.05" ≠ text "lid-ds-2021" := by decide
  simpa only [loadAcademicDataset, hkindText, hkind, if_neg hadfa, if_neg hlid, if_true] using h

end Labels

/-- The corpus with two rows in each file, where the first row is an attack and not the second -/
def relabelledHaiCorpus : HaiCorpus where
  manifest := sampleHaiCorpus.manifest
  rows := fun name =>
    if (text "label").isPrefixOf name then
      [[text "timestamp", text "label"], [text "2022-08-12 16:00:00", text "1"],
        [text "2022-08-12 16:00:01", text "0"]]
    else sampleHaiCorpus.rows name

def relabelledCorpora (_root : Text) : Corpora ℤ :=
  ⟨sampleAdfaCorpus, noRecordings, relabelledHaiCorpus⟩

end TruthFingerprint.OfflineTraining
