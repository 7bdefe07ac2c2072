import TruthFingerprint.Evidence.HaiAdapter
import TruthFingerprint.Lib.Chunks
import TruthFingerprint.Lib.ReservoirSampling

/-!
# The benchmark of HAI 23.05

The rows of each file are cut into windows, and the windows of all files are a stream from which a
reservoir of each class is sampled. What loads is given for every value of every draw. The windows
are the groups of rows that follow each other in a file (`FileRows`, `windowsOf`), and each of them
is kept as often as the others of its class (`load_uniform`).
-/

namespace TruthFingerprint.OfflineTraining.HaiBenchmark

open Chunks (chunks leftover)
open Evidence.HaiAdapter
open ReservoirSampling (State outcomes)

inductive BenchmarkError where
  | value (message : Text)
  | hai (error : HaiError)
  | runtime (message : Text)
deriving DecidableEq

variable {F : Type}

abbrev Window (F : Type) := List (List F)

/-! ## `_iter_file_windows` -/

section Windows

variable (path : Text)

/-- The observations of a test with their labels -/
def alignLabels : List (Text × List (Text × F)) → List (Text × ℕ) →
    Except HaiError (List (List (Text × F) × ℕ))
  | [], [] => .ok []
  | [], _ :: _ => .error (layoutError "HAI labels exceed observations: " path)
  | _ :: _, [] => .error (layoutError "HAI labels ended before observations: " path)
  | (_, tags) :: observations, (_, label) :: labels => do
    let rows ← alignLabels observations labels
    .ok ((tags, label) :: rows)

/-- `rows()`: without labels every row has the label 0. -/
def labelledRows (csvReader : CsvReader) (observations : List (Text × List (Text × F)))
    (labels : Option (Text × Bytes)) : Except HaiError (List (List (Text × F) × ℕ)) :=
  match labels with
  | none => .ok (observations.map fun row => (row.2, 0))
  | some (labelPath, content) => do
    let labels ← iterNativeLabels csvReader labelPath content
    if labels = [] then .error (layoutError "Empty HAI label file: " labelPath)
    else alignLabels path observations labels

/-- What `windows()` keeps from one row to the next, with the windows that it has yielded -/
structure Collecting (F : Type) where
  chunk : List (List F)
  chunkLabels : List ℕ
  windows : List (ℕ × Window F)

def collectRow (columns : List Text) (sequenceLength : ℤ) (collecting : Collecting F)
    (row : List (Text × F) × ℕ) : Except HaiError (Collecting F) :=
  if row.1.map Prod.fst ≠ columns then
    .error (layoutError "HAI feature schema changed within " path)
  else
    let chunk := collecting.chunk ++ [columns.filterMap fun name => row.1.lookup name]
    let chunkLabels := collecting.chunkLabels ++ [row.2]
    if (chunk.length : ℤ) = sequenceLength then
      .ok ⟨[], [], collecting.windows ++ [(if chunkLabels.any (· ≠ 0) then 1 else 0, chunk)]⟩
    else .ok ⟨chunk, chunkLabels, collecting.windows⟩

/-- The columns of a file and its windows with their labels -/
def iterFileWindows (csvReader : CsvReader) (float : Text → Option F) (content : Bytes)
    (sequenceLength : ℤ) (labels : Option (Text × Bytes)) :
    Except HaiError (List Text × List (ℕ × Window F)) := do
  let observations ← iterNativeObservations csvReader float path content
  match observations with
  | [] => .error (layoutError "Empty HAI observation file: " path)
  | first :: _ =>
    let columns := first.2.map Prod.fst
    let rows ← labelledRows path csvReader observations labels
    let collecting ← rows.foldlM (collectRow path columns sequenceLength) ⟨[], [], []⟩
    .ok (columns, collecting.windows)

end Windows

/-! ## `load` -/

structure BenchmarkData (F : Type) where
  sequences : List (Window F)
  labels : List ℕ
  featureNames : List Text
  sequenceLength : ℤ
  perClassCounts : ℕ × ℕ
  windowsSeenPerClass : ℕ × ℕ
  maxWindowsPerClass : ℕ
  sourceFileSha256 : List (Text × Text)

/-- `_TRAIN_FILES` and `_TEST_LABEL_FILES`, in the order in which they are loaded -/
def sourceFiles : List (Text × Option Text) :=
  [(text "hai-train1.csv", none), (text "hai-train2.csv", none), (text "hai-train3.csv", none),
    (text "hai-train4.csv", none), (text "hai-test1.csv", some (text "label-test1.csv")),
    (text "hai-test2.csv", some (text "label-test2.csv"))]

/-- What the configuration and the environment say of the benchmark. The budget of the environment
is what `int` makes of it or raises. -/
structure Settings where
  rootPath : Option Text
  environmentPath : Option Text
  maxWindowsPerClass : Option ℤ
  environmentMax : Except Text ℤ

/-- `_resolve_root_path` -/
def resolveRootPath (settings : Settings) : Except BenchmarkError Text :=
  match settings.rootPath, settings.environmentPath.filter (· ≠ []) with
  | some root, _ => .ok root
  | none, some root => .ok root
  | none, none => .error (.runtime (text ("HAI-23.05 root is not configured. Set HAI_2305_PATH to " ++
      "the directory containing hai-train*.csv, hai-test*.csv and label-test*.csv.")))

def resolveCap (settings : Settings) : Except BenchmarkError ℕ := do
  let cap ← match settings.maxWindowsPerClass.filter (· ≠ 0) with
    | some cap => .ok cap
    | none => settings.environmentMax.mapError .value
  if cap ≤ 0 then .error (.value (text "HAI_MAX_WINDOWS_PER_CLASS must be positive."))
  else .ok cap.toNat

/-- `_reservoir_add`, for every value of every draw -/
def reservoirAdd (windows : List (ℕ × Window F)) (cap : ℕ) (states : List (State ℕ (Window F))) :
    List (State ℕ (Window F)) :=
  states.flatMap fun state => outcomes cap state windows

/-- `_require_consistent_schema` -/
def requireConsistentSchema (current : Option (List Text)) (candidate : List Text) (name : Text) :
    Except HaiError (List Text) :=
  if current.any (· ≠ candidate) then .error (layoutError "HAI feature schema changed in " name)
  else .ok candidate

section Load

variable (csvReader : CsvReader) (float : Text → Option F) (files : Files)

/-- A file after others: the names of the features, and the reservoirs for every value of every
draw -/
def loadFile (root : Text) (sequenceLength : ℤ) (cap : ℕ)
    (loaded : Option (List Text) × List (State ℕ (Window F))) (source : Text × Option Text) :
    Except HaiError (Option (List Text) × List (State ℕ (Window F))) := do
  let (columns, windows) ← iterFileWindows (pathOf root source.1) csvReader float
    (files.content source.1) sequenceLength
    (source.2.map fun name => (pathOf root name, files.content name))
  let names ← requireConsistentSchema loaded.1 columns source.1
  .ok (some names, reservoirAdd windows cap loaded.2)

/-- What is made of the reservoirs -/
def benchmarkData (sequenceLength : ℤ) (cap : ℕ) (manifest : Hai2305Manifest)
    (featureNames : Option (List Text)) (state : State ℕ (Window F)) :
    Except BenchmarkError (BenchmarkData F) :=
  match featureNames with
  | some names =>
    if state.kept 0 = [] ∨ state.kept 1 = [] then .error emptyReservoir
    else .ok
      { sequences := state.kept 0 ++ state.kept 1
        labels := List.replicate (state.kept 0).length 0 ++ List.replicate (state.kept 1).length 1
        featureNames := names
        sequenceLength
        perClassCounts := ((state.kept 0).length, (state.kept 1).length)
        windowsSeenPerClass := (state.seen 0, state.seen 1)
        maxWindowsPerClass := cap
        sourceFileSha256 := Dict.ofItems ((manifest.observations ++ manifest.labels).map fun item =>
          (item.fileName, item.contentSha256)) }
  | none => .error emptyReservoir
where
  emptyReservoir := .runtime (text ("HAI-23.05 did not yield both Normal and Attack windows; " ++
    "check the official source or increase the sampling budget."))

/-- `load`: what it returns or raises for every value of every draw, unless it raises for all of
them -/
def load (settings : Settings) (sequenceLength : ℤ) :
    Except BenchmarkError (List (Except BenchmarkError (BenchmarkData F))) := do
  if sequenceLength ≤ 0 then .error (.value (text "sequence_length must be positive."))
  else
    let root ← resolveRootPath settings
    let manifest ← (inspectHai2305 csvReader float root files).mapError .hai
    let cap ← resolveCap settings
    let (names, states) ← (sourceFiles.foldlM (loadFile csvReader float files root sequenceLength cap)
      (none, [.start])).mapError .hai
    .ok (states.map (benchmarkData sequenceLength cap manifest names))

end Load

/-! ## The windows of a file -/

section Reading

variable {csvReader : CsvReader} {float : Text → Option F} {path : Text}

/-- The tags of an observation have different names. -/
theorem nodup_of_observationRows {fieldnames : List Text} {rowNumber : ℕ} {previous : Option Text}
    {rows : List (List Text)} {items : List (Text × List (Text × F))}
    (h : observationRows float path fieldnames rowNumber previous rows = .ok items) :
    ∀ item ∈ items, (item.2.map Prod.fst).Nodup := by
  induction rows generalizing rowNumber previous items with
  | nil =>
    obtain rfl := Except.ok.inj h
    exact fun _ hmem => absurd hmem List.not_mem_nil
  | cons row rows ih =>
    rw [observationRows] at h
    split at h
    · cases h
    · split at h
      · cases h
      · split at h
        · cases h
        · rename_i tags htags
          obtain ⟨rest, hrest, h⟩ := Except.bind_eq_ok.mp h
          obtain rfl := Except.ok.inj h
          obtain ⟨values, -, rfl⟩ := Option.map_eq_some_iff.mp htags
          refine List.forall_mem_cons.mpr ⟨Dict.nodup_keys_ofItems _, ih hrest⟩

theorem nodup_of_iterNativeObservations {content : Bytes} {items : List (Text × List (Text × F))}
    (h : iterNativeObservations csvReader float path content = .ok items) :
    ∀ item ∈ items, (item.2.map Prod.fst).Nodup := by
  obtain ⟨reader, -, h⟩ := Except.bind_eq_ok.mp h
  simp only at h
  split_ifs at h
  exact nodup_of_observationRows h

theorem labelOf_le_one {row : List (Text × Option Text)} {label : ℕ} (h : labelOf row = some label) :
    label ≤ 1 := by
  rw [labelOf] at h
  split_ifs at h
  · exact (Option.some.inj h).symm.le.trans zero_le_one
  · exact (Option.some.inj h).symm.le

theorem le_one_of_labelRows {fieldnames : List Text} {rowNumber : ℕ} {rows : List (List Text)}
    {items : List (Text × ℕ)} (h : labelRows path fieldnames rowNumber rows = .ok items) :
    ∀ item ∈ items, item.2 ≤ 1 := by
  induction rows generalizing rowNumber items with
  | nil =>
    obtain rfl := Except.ok.inj h
    exact fun _ hmem => absurd hmem List.not_mem_nil
  | cons row rows ih =>
    rw [labelRows] at h
    split at h
    · rename_i timestamp label _ hlabel
      obtain ⟨rest, hrest, h⟩ := Except.bind_eq_ok.mp h
      obtain rfl := Except.ok.inj h
      exact List.forall_mem_cons.mpr ⟨labelOf_le_one hlabel, ih hrest⟩
    · cases h

/-- The labels of a file are 0 or 1. -/
theorem le_one_of_iterNativeLabels {content : Bytes} {items : List (Text × ℕ)}
    (h : iterNativeLabels csvReader path content = .ok items) : ∀ item ∈ items, item.2 ≤ 1 := by
  obtain ⟨reader, -, h⟩ := Except.bind_eq_ok.mp h
  simp only at h
  split_ifs at h
  exact le_one_of_labelRows h

theorem alignLabels_eq_ok {observations : List (Text × List (Text × F))} {labels : List (Text × ℕ)}
    {rows : List (List (Text × F) × ℕ)} (h : alignLabels path observations labels = .ok rows) :
    rows.map Prod.fst = observations.map Prod.snd ∧ rows.map Prod.snd = labels.map Prod.snd := by
  induction observations generalizing labels rows with
  | nil =>
    cases labels with
    | nil =>
      obtain rfl := Except.ok.inj h
      exact ⟨rfl, rfl⟩
    | cons label labels => exact nomatch h
  | cons observation observations ih =>
    cases labels with
    | nil => exact nomatch h
    | cons label labels =>
      obtain ⟨rest, hrest, h⟩ := Except.bind_eq_ok.mp h
      obtain rfl := Except.ok.inj h
      obtain ⟨htags, hlabels⟩ := ih hrest
      exact ⟨congrArg (observation.2 :: ·) htags, congrArg (label.2 :: ·) hlabels⟩

/-- The label of every row of a file, which are those of its file of labels -/
def LabelsOf (csvReader : CsvReader) (labels : List ℕ) : Option (Text × Bytes) → Prop
  | none => ∀ label ∈ labels, label = 0
  | some (path, content) =>
    ∃ items, iterNativeLabels csvReader path content = .ok items ∧ labels = items.map Prod.snd

theorem LabelsOf.le_one {labels : List ℕ} {source : Option (Text × Bytes)}
    (h : LabelsOf csvReader labels source) : ∀ label ∈ labels, label ≤ 1 := by
  cases source with
  | none => exact fun label hlabel => (h label hlabel).le.trans zero_le_one
  | some source =>
    obtain ⟨items, hitems, rfl⟩ := h
    intro label hlabel
    obtain ⟨item, hitem, rfl⟩ := List.mem_map.mp hlabel
    exact le_one_of_iterNativeLabels hitems item hitem

theorem labelledRows_eq_ok {observations : List (Text × List (Text × F))}
    {labels : Option (Text × Bytes)} {rows : List (List (Text × F) × ℕ)}
    (h : labelledRows path csvReader observations labels = .ok rows) :
    rows.map Prod.fst = observations.map Prod.snd ∧
      LabelsOf csvReader (rows.map Prod.snd) labels := by
  cases labels with
  | none =>
    obtain rfl := Except.ok.inj h
    rw [List.map_map, List.map_map]
    refine ⟨rfl, fun label hlabel => ?_⟩
    obtain ⟨row, -, rfl⟩ := List.mem_map.mp hlabel
    rfl
  | some labels =>
    obtain ⟨items, hitems, h⟩ := Except.bind_eq_ok.mp h
    split_ifs at h
    obtain ⟨htags, hlabels⟩ := alignLabels_eq_ok h
    exact ⟨htags, items, hitems, hlabels⟩

/-- The values of the columns in a row -/
def valuesOf (columns : List Text) (row : List (Text × F) × ℕ) : List F :=
  columns.filterMap fun name => row.1.lookup name

theorem valuesOf_keys {row : List (Text × F) × ℕ} (hnodup : (row.1.map Prod.fst).Nodup) :
    valuesOf (row.1.map Prod.fst) row = row.1.map Prod.snd := by
  rw [valuesOf, List.filterMap_map, ← List.filterMap_eq_map]
  refine List.filterMap_congr fun item hitem => ?_
  exact (Dict.lookup_eq_some_iff hnodup).mpr hitem

/-- A window of a group of rows: it is an attack when some row is. -/
def windowOf (rows : List (List F × ℕ)) : ℕ × Window F :=
  (if ∃ row ∈ rows, row.2 = 1 then 1 else 0, rows.map Prod.fst)

/-- The windows of a file with these rows -/
def windowsOf (sequenceLength : ℕ) (rows : List (List F × ℕ)) : List (ℕ × Window F) :=
  (chunks sequenceLength rows).map windowOf

/-- What has been collected of the rows -/
structure Collected (sequenceLength : ℕ) (columns : List Text) (rows : List (List (Text × F) × ℕ))
    (collecting : Collecting F) : Prop where
  keys : ∀ row ∈ rows, row.1.map Prod.fst = columns
  chunk : collecting.chunk = (leftover sequenceLength rows).map (valuesOf columns)
  chunkLabels : collecting.chunkLabels = (leftover sequenceLength rows).map Prod.snd
  windows : collecting.windows = (chunks sequenceLength rows).map fun chunk =>
    (if (chunk.map Prod.snd).any (· ≠ 0) then 1 else 0, chunk.map (valuesOf columns))

theorem collected_nil (sequenceLength : ℕ) (columns : List Text) :
    Collected sequenceLength columns ([] : List (List (Text × F) × ℕ)) ⟨[], [], []⟩ where
  keys _ h := absurd h List.not_mem_nil
  chunk := by rw [Chunks.leftover_nil, List.map_nil]
  chunkLabels := by rw [Chunks.leftover_nil, List.map_nil]
  windows := by rw [Chunks.chunks_nil, List.map_nil]

/-- A row either completes a window or waits with the others. -/
theorem collectRow_eq_ok {sequenceLength : ℕ} {columns : List Text}
    {collecting collecting' : Collecting F} {row : List (Text × F) × ℕ}
    (h : collectRow path columns sequenceLength collecting row = .ok collecting') :
    row.1.map Prod.fst = columns ∧ collecting' =
      if collecting.chunk.length + 1 = sequenceLength then
        ⟨[], [], collecting.windows ++
          [(if (collecting.chunkLabels ++ [row.2]).any (· ≠ 0) then 1 else 0,
            collecting.chunk ++ [valuesOf columns row])]⟩
      else ⟨collecting.chunk ++ [valuesOf columns row], collecting.chunkLabels ++ [row.2],
        collecting.windows⟩ := by
  rw [collectRow] at h
  by_cases hkeys : row.1.map Prod.fst = columns
  · refine ⟨hkeys, ?_⟩
    rw [if_neg (not_not.mpr hkeys)] at h
    simp only [List.length_append, List.length_singleton, Nat.cast_inj] at h
    by_cases hfull : collecting.chunk.length + 1 = sequenceLength
    · rw [if_pos hfull] at h ⊢
      exact (Except.ok.inj h).symm
    · rw [if_neg hfull] at h ⊢
      exact (Except.ok.inj h).symm
  · rw [if_pos hkeys] at h
    exact nomatch h

theorem Collected.collectRow {sequenceLength : ℕ} {columns : List Text}
    {rows : List (List (Text × F) × ℕ)} {collecting collecting' : Collecting F}
    {row : List (Text × F) × ℕ} (hpos : 0 < sequenceLength)
    (hrows : Collected sequenceLength columns rows collecting)
    (h : collectRow path columns sequenceLength collecting row = .ok collecting') :
    Collected sequenceLength columns (rows ++ [row]) collecting' := by
  obtain ⟨hkeys, rfl⟩ := collectRow_eq_ok h
  have hall : ∀ row' ∈ rows ++ [row], row'.1.map Prod.fst = columns :=
    List.forall_mem_append.mpr ⟨hrows.keys, List.forall_mem_singleton.mpr hkeys⟩
  rw [hrows.chunk, hrows.chunkLabels, hrows.windows, List.length_map]
  by_cases hfull : (leftover sequenceLength rows).length + 1 = sequenceLength
  · rw [if_pos hfull]
    constructor
    case keys => exact hall
    case chunk => rw [Chunks.leftover_concat hpos, if_pos hfull, List.map_nil]
    case chunkLabels => rw [Chunks.leftover_concat hpos, if_pos hfull, List.map_nil]
    case windows =>
      rw [Chunks.chunks_concat hpos, if_pos hfull, List.map_append, List.map_singleton,
        List.map_append, List.map_append]
      rfl
  · rw [if_neg hfull]
    constructor
    case keys => exact hall
    case chunk =>
      rw [Chunks.leftover_concat hpos, if_neg hfull, List.map_append]
      rfl
    case chunkLabels =>
      rw [Chunks.leftover_concat hpos, if_neg hfull, List.map_append]
      rfl
    case windows => rw [Chunks.chunks_concat hpos, if_neg hfull]

theorem collected_of_foldlM {sequenceLength : ℕ} {columns : List Text}
    {rows : List (List (Text × F) × ℕ)} {collecting : Collecting F} (hpos : 0 < sequenceLength)
    (h : rows.foldlM (collectRow path columns sequenceLength) ⟨[], [], []⟩ = .ok collecting) :
    Collected sequenceLength columns rows collecting :=
  @List.foldlM_done _ _ _ _ [] _ _ _ (Collected sequenceLength columns)
    (fun _ _ _ _ hdone hrow => hdone.collectRow hpos hrow) (collected_nil sequenceLength columns) h

/-- The rows of a file, with the values of its observations and its labels -/
structure FileRows (csvReader : CsvReader) (float : Text → Option F) (path : Text) (content : Bytes)
    (labels : Option (Text × Bytes)) (rows : List (List F × ℕ)) : Prop where
  observations : ∃ items, iterNativeObservations csvReader float path content = .ok items ∧
    rows.map Prod.fst = items.map fun item => item.2.map Prod.snd
  labels : LabelsOf csvReader (rows.map Prod.snd) labels

/-- A file yields the windows of its rows. -/
theorem iterFileWindows_eq_ok {content : Bytes} {sequenceLength : ℕ} {labels : Option (Text × Bytes)}
    {columns : List Text} {windows : List (ℕ × Window F)} (hpos : 0 < sequenceLength)
    (h : iterFileWindows path csvReader float content sequenceLength labels =
      .ok (columns, windows)) :
    ∃ rows, FileRows csvReader float path content labels rows ∧
      windows = windowsOf sequenceLength rows := by
  obtain ⟨observations, hobservations, h⟩ := Except.bind_eq_ok.mp h
  cases observations with
  | nil => exact nomatch h
  | cons first observations =>
    obtain ⟨rows, hrows, h⟩ := Except.bind_eq_ok.mp h
    obtain ⟨collecting, hcollecting, h⟩ := Except.bind_eq_ok.mp h
    obtain ⟨rfl, rfl⟩ := Prod.mk.inj (Except.ok.inj h)
    obtain ⟨htags, hlabels⟩ := labelledRows_eq_ok hrows
    have hcollected := collected_of_foldlM hpos hcollecting
    have hnodup : ∀ row ∈ rows, (row.1.map Prod.fst).Nodup := by
      intro row hrow
      have hmem : row.1 ∈ (first :: observations).map Prod.snd :=
        htags ▸ List.mem_map_of_mem hrow
      obtain ⟨item, hitem, heq⟩ := List.mem_map.mp hmem
      exact heq ▸ nodup_of_iterNativeObservations hobservations item hitem
    have hvalues : ∀ row ∈ rows,
        valuesOf (first.2.map Prod.fst) row = row.1.map Prod.snd := by
      intro row hrow
      rw [← hcollected.keys row hrow]
      exact valuesOf_keys (hnodup row hrow)
    refine ⟨rows.map fun row => (row.1.map Prod.snd, row.2), ⟨⟨_, hobservations, ?_⟩, ?_⟩, ?_⟩
    · rw [List.map_map]
      have htags := congrArg (List.map (List.map Prod.snd)) htags
      rwa [List.map_map, List.map_map] at htags
    · rw [List.map_map]
      exact hlabels
    · rw [hcollected.windows, windowsOf, Chunks.map_chunks, List.map_map]
      refine List.map_congr_left fun chunk hchunk => ?_
      have hrow : ∀ row ∈ chunk, row ∈ rows := fun row => Chunks.mem_of_mem_chunks hchunk
      refine Prod.ext (ite_cond_congr (propext ?_)) ?_
      · rw [List.any_eq_true]
        simp only [List.mem_map, exists_exists_and_eq_and, decide_eq_true_eq]
        refine exists_congr fun row => and_congr_right fun hmem => ?_
        have hle := hlabels.le_one row.2 (List.mem_map_of_mem (hrow row hmem))
        omega
      · change chunk.map (valuesOf _) = List.map Prod.fst (chunk.map _)
        rw [List.map_map]
        exact List.map_congr_left fun row hmem => hvalues row (hrow row hmem)

end Reading

/-! ## The stream of windows -/

section Stream

/-- The positions of a stream with the labels of its windows -/
def positions (stream : List (ℕ × Window F)) : List (ℕ × ℕ) :=
  stream.zipIdx.map fun window => (window.1.1, window.2)

def windowAt (stream : List (ℕ × Window F)) (position : ℕ) : Window F :=
  (stream[position]?.map Prod.snd).getD []

variable {stream : List (ℕ × Window F)} {label position : ℕ}

theorem mem_positions : (label, position) ∈ positions stream ↔
    stream[position]?.map Prod.fst = some label := by
  rw [positions, List.mem_map, Option.map_eq_some_iff]
  constructor
  · rintro ⟨⟨window, i⟩, hmem, heq⟩
    obtain ⟨rfl, rfl⟩ := Prod.mk.inj heq
    exact ⟨window, List.mem_zipIdx_iff_getElem?.mp hmem, rfl⟩
  · rintro ⟨window, hwindow, rfl⟩
    exact ⟨(window, position), List.mem_zipIdx_iff_getElem?.mpr hwindow, rfl⟩

theorem nodup_positions (stream : List (ℕ × Window F)) :
    ((positions stream).map Prod.snd).Nodup := by
  rw [positions, List.map_map]
  have hrange : stream.zipIdx.map Prod.snd = List.range' 0 stream.length :=
    List.zipIdx_map_snd 0 stream
  exact hrange ▸ List.nodup_range'

theorem countP_positions (stream : List (ℕ × Window F)) (label : ℕ) :
    (positions stream).countP (·.1 = label) = stream.countP (·.1 = label) := by
  have hfirst : stream.zipIdx.map Prod.fst = stream := List.zipIdx_map_fst 0 stream
  conv_rhs => rw [← hfirst, List.countP_map]
  rw [positions, List.countP_map]
  rfl

theorem map_windowAt (stream : List (ℕ × Window F)) :
    ((positions stream).map fun item => (item.1, windowAt stream item.2)) = stream := by
  have hfirst : stream.zipIdx.map Prod.fst = stream := List.zipIdx_map_fst 0 stream
  rw [positions, List.map_map]
  conv_rhs => rw [← hfirst]
  refine List.map_congr_left fun item hitem => ?_
  have hwindow : stream[item.2]? = some item.1 := List.mem_zipIdx_iff_getElem?.mp hitem
  refine Prod.ext rfl ?_
  change windowAt stream item.2 = item.1.2
  rw [windowAt, hwindow]
  rfl

/-- The outcomes over a stream are those over its positions. -/
theorem outcomes_stream (cap : ℕ) (stream : List (ℕ × Window F)) :
    outcomes cap .start stream =
      (outcomes cap .start (positions stream)).map (State.map (windowAt stream)) := by
  conv_lhs => rw [← map_windowAt stream]
  exact ReservoirSampling.outcomes_map (windowAt stream) .start (positions stream)

/-- In an outcome the positions of each class differ, and are as many as its windows or the cap. -/
structure SampleOf (cap : ℕ) (stream : List (ℕ × Window F)) (run : State ℕ ℕ) : Prop where
  nodup : ∀ label, (run.kept label).Nodup
  label : ∀ label, ∀ position ∈ run.kept label, stream[position]?.map Prod.fst = some label
  length : ∀ label, (run.kept label).length = min (stream.countP (·.1 = label)) cap

theorem sampleOf_of_mem_outcomes {cap : ℕ} {run : State ℕ ℕ}
    (h : run ∈ outcomes cap .start (positions stream)) : SampleOf cap stream run := by
  have hsampled := ReservoirSampling.sampled_of_mem_outcomes (nodup_positions stream) h
  constructor
  case nodup => exact hsampled.nodup
  case label => exact fun label position hmem => mem_positions.mp (hsampled.mem label position hmem)
  case length =>
    intro label
    rw [hsampled.length, countP_positions, min_comm]

/-- Every window is kept in the same fraction of the outcomes as the others of its class. -/
theorem uniform_outcomes (cap : ℕ) (hpresent : stream[position]?.map Prod.fst = some label)
    (hruns : outcomes cap .start (positions stream) ≠ []) :
    ((outcomes cap .start (positions stream)).countP (position ∈ ·.kept label) : ℚ) /
        (outcomes cap .start (positions stream)).length =
      min 1 ((cap : ℚ) / stream.countP (·.1 = label)) := by
  have hmem := mem_positions.mpr hpresent
  have hcount := @ReservoirSampling.countP_outcomes _ _ _ cap _ _ _ _ (nodup_positions stream) hmem
  have hpos : 0 < (positions stream).countP (·.1 = label) :=
    List.countP_pos_iff.mpr ⟨_, hmem, decide_eq_true rfl⟩
  rw [countP_positions] at hcount hpos
  have hlength := List.length_pos_iff.mpr hruns
  generalize (outcomes cap .start (positions stream)).countP _ = kept at hcount ⊢
  generalize (outcomes cap .start (positions stream)).length = runs at hcount hlength ⊢
  generalize stream.countP _ = n at hcount hpos ⊢
  have hn : (0 : ℚ) < n := Nat.cast_pos.mpr hpos
  have hcast : (kept : ℚ) * n = min (cap : ℚ) n * runs := by exact_mod_cast hcount
  rw [div_eq_iff (Nat.cast_pos.mpr hlength).ne', ← div_self hn.ne', min_div_div_right hn.le,
    div_mul_eq_mul_div, eq_div_iff hn.ne', hcast, min_comm]

end Stream

/-! ## What is loaded -/

section Loading

variable {csvReader : CsvReader} {float : Text → Option F} {files : Files}

theorem mapError_eq_ok {ε ε' α : Type} {x : Except ε α} {f : ε → ε'} {a : α}
    (h : x.mapError f = .ok a) : x = .ok a := by
  cases x with
  | error e => exact nomatch h
  | ok b => exact congrArg Except.ok (Except.ok.inj h)

/-- The rows of a source in a directory -/
def SourceRows (csvReader : CsvReader) (float : Text → Option F) (files : Files) (root : Text)
    (source : Text × Option Text) (rows : List (List F × ℕ)) : Prop :=
  FileRows csvReader float (pathOf root source.1) (files.content source.1)
    (source.2.map fun name => (pathOf root name, files.content name)) rows

/-- The states after some sources are the outcomes over their windows. -/
def LoadedOf (csvReader : CsvReader) (float : Text → Option F) (files : Files) (root : Text)
    (sequenceLength cap : ℕ) (done : List (Text × Option Text))
    (loaded : Option (List Text) × List (State ℕ (Window F))) : Prop :=
  ∃ rows, List.Forall₂ (SourceRows csvReader float files root) done rows ∧
    loaded.2 = outcomes cap .start (rows.flatMap (windowsOf sequenceLength))

theorem LoadedOf.loadFile {root : Text} {sequenceLength cap : ℕ} {done : List (Text × Option Text)}
    {source : Text × Option Text} {loaded loaded' : Option (List Text) × List (State ℕ (Window F))}
    (hpos : 0 < sequenceLength)
    (hdone : LoadedOf csvReader float files root sequenceLength cap done loaded)
    (h : loadFile csvReader float files root sequenceLength cap loaded source = .ok loaded') :
    LoadedOf csvReader float files root sequenceLength cap (done ++ [source]) loaded' := by
  obtain ⟨rows, hrows, hstates⟩ := hdone
  obtain ⟨⟨columns, windows⟩, hwindows, h⟩ := Except.bind_eq_ok.mp h
  obtain ⟨names, -, h⟩ := Except.bind_eq_ok.mp h
  obtain rfl := Except.ok.inj h
  obtain ⟨fileRows, hfileRows, rfl⟩ := iterFileWindows_eq_ok hpos hwindows
  refine ⟨rows ++ [fileRows], List.rel_append hrows (.cons hfileRows .nil), ?_⟩
  rw [reservoirAdd, hstates, List.flatMap_append, List.flatMap_singleton,
    ReservoirSampling.outcomes_append]

/-- The outcomes that are returned are windows of a stream: the positions of each class are different
and as many as its windows or the cap, and each is kept in the same fraction of the outcomes. -/
structure UniformSample (cap : ℕ) (stream : List (ℕ × Window F)) (runs : List (State ℕ ℕ))
    (results : List (Except BenchmarkError (BenchmarkData F))) : Prop where
  returned : List.Forall₂ (fun run result => ∃ data, result = .ok data ∧
    data.sequences = (run.kept 0 ++ run.kept 1).map (windowAt stream) ∧
    data.labels = List.replicate (run.kept 0).length 0 ++ List.replicate (run.kept 1).length 1 ∧
    data.windowsSeenPerClass = (stream.countP (·.1 = 0), stream.countP (·.1 = 1))) runs results
  sampled : ∀ run ∈ runs, SampleOf cap stream run
  uniform : ∀ label position, stream[position]?.map Prod.fst = some label →
    (runs.countP (position ∈ ·.kept label) : ℚ) / runs.length =
      min 1 ((cap : ℚ) / stream.countP (·.1 = label))

/-- Reservoirs with windows of both classes are returned. -/
theorem benchmarkData_map {sequenceLength : ℤ} {cap : ℕ} {manifest : Hai2305Manifest}
    {names : List Text} {stream : List (ℕ × Window F)} {run : State ℕ ℕ}
    (hnormal : run.kept 0 ≠ []) (hattack : run.kept 1 ≠ [])
    (hseen : ∀ label, run.seen label = stream.countP (·.1 = label)) :
    ∃ data, benchmarkData sequenceLength cap manifest (some names) (run.map (windowAt stream)) =
        .ok data ∧
      data.sequences = (run.kept 0 ++ run.kept 1).map (windowAt stream) ∧
      data.labels = List.replicate (run.kept 0).length 0 ++ List.replicate (run.kept 1).length 1 ∧
      data.windowsSeenPerClass = (stream.countP (·.1 = 0), stream.countP (·.1 = 1)) := by
  have hempty : ¬((run.map (windowAt stream)).kept 0 = [] ∨ (run.map (windowAt stream)).kept 1 = []) :=
    not_or.mpr ⟨mt List.map_eq_nil_iff.mp hnormal, mt List.map_eq_nil_iff.mp hattack⟩
  simp only [benchmarkData, if_neg hempty]
  refine ⟨_, rfl, ?_, ?_, ?_⟩
  · exact List.map_append.symm
  · simp only [State.map, List.length_map]
  · exact Prod.ext (hseen 0) (hseen 1)

theorem nonempty_of_benchmarkData {sequenceLength : ℤ} {cap : ℕ} {manifest : Hai2305Manifest}
    {names : Option (List Text)} {state : State ℕ (Window F)} {data : BenchmarkData F}
    (h : benchmarkData sequenceLength cap manifest names state = .ok data) :
    (∃ found, names = some found) ∧ state.kept 0 ≠ [] ∧ state.kept 1 ≠ [] := by
  cases names with
  | none => exact nomatch h
  | some found =>
    simp only [benchmarkData] at h
    split_ifs at h with hempty
    exact ⟨⟨found, rfl⟩, not_or.mp hempty⟩

/-- The reservoirs of a class are empty in all outcomes or in none. -/
theorem SampleOf.kept_ne_nil {cap label : ℕ} {stream : List (ℕ × Window F)} {run run' : State ℕ ℕ}
    (h : SampleOf cap stream run) (h' : SampleOf cap stream run') (hne : run.kept label ≠ []) :
    run'.kept label ≠ [] := by
  rw [← List.length_pos_iff, h.length] at hne
  rwa [← List.length_pos_iff, h'.length]

/-- If the benchmark loads in one outcome it does in all of them, and what it returns is a uniform
sample of the windows of its files. -/
theorem load_uniform {settings : Settings} {sequenceLength : ℤ} {data : BenchmarkData F}
    {results : List (Except BenchmarkError (BenchmarkData F))}
    (h : load csvReader float files settings sequenceLength = .ok results) (hdata : .ok data ∈ results) :
    ∃ root cap, resolveRootPath settings = .ok root ∧ resolveCap settings = .ok cap ∧
      ∃ rows, List.Forall₂ (SourceRows csvReader float files root) sourceFiles rows ∧
        UniformSample cap (rows.flatMap (windowsOf sequenceLength.toNat))
          (outcomes cap .start (positions (rows.flatMap (windowsOf sequenceLength.toNat))))
          results := by
  rw [load] at h
  split_ifs at h with hlength
  obtain ⟨root, hroot, h⟩ := Except.bind_eq_ok.mp h
  obtain ⟨manifest, -, h⟩ := Except.bind_eq_ok.mp h
  obtain ⟨cap, hcap, h⟩ := Except.bind_eq_ok.mp h
  obtain ⟨⟨names, states⟩, hloaded, h⟩ := Except.bind_eq_ok.mp h
  obtain rfl := Except.ok.inj h
  obtain ⟨n, rfl⟩ : ∃ n : ℕ, sequenceLength = n := ⟨_, (Int.toNat_of_nonneg (by omega)).symm⟩
  have hpos : 0 < n := by omega
  rw [Int.toNat_natCast]
  obtain ⟨rows, hrows, hstates⟩ : LoadedOf csvReader float files root n cap sourceFiles
      (names, states) :=
    @List.foldlM_done _ _ _ _ [] _ _ _ (LoadedOf csvReader float files root n cap)
      (fun _ _ _ _ hdone hfile => hdone.loadFile hpos hfile) ⟨[], .nil, rfl⟩ (mapError_eq_ok hloaded)
  refine ⟨root, cap, hroot, hcap, rows, hrows, ?_⟩
  simp only at hstates
  rw [outcomes_stream] at hstates
  generalize rows.flatMap (windowsOf n) = stream at hstates ⊢
  subst hstates
  -- the outcome that is returned has windows of both classes, and so do the others
  obtain ⟨run, hrun, heq⟩ : ∃ run ∈ outcomes cap .start (positions stream),
      benchmarkData n cap manifest names (run.map (windowAt stream)) = .ok data := by
    rw [List.map_map] at hdata
    exact List.mem_map.mp hdata
  obtain ⟨⟨found, rfl⟩, hnormal, hattack⟩ := nonempty_of_benchmarkData heq
  have hsample := sampleOf_of_mem_outcomes hrun
  constructor
  case returned =>
    rw [List.map_map, List.forall₂_map_right_iff, List.forall₂_same]
    intro other hother
    have hother' := sampleOf_of_mem_outcomes hother
    have hseen := (ReservoirSampling.sampled_of_mem_outcomes (nodup_positions stream) hother).seen
    exact benchmarkData_map (hsample.kept_ne_nil hother' (mt List.map_eq_nil_iff.mpr hnormal))
      (hsample.kept_ne_nil hother' (mt List.map_eq_nil_iff.mpr hattack))
      fun label => (hseen label).trans (countP_positions stream label)
  case sampled => exact fun other hother => sampleOf_of_mem_outcomes hother
  case uniform =>
    exact fun label position hpresent =>
      uniform_outcomes cap hpresent (List.ne_nil_of_mem hrun)

end Loading

/-! ## A row in each file -/

/-- Five normal rows and an attack, with room for four windows of each class -/
def attackFiles : Files := fun name =>
  if name = text "label-test1.csv" then some (text "timestamp,label\n2022-08-04 18:00,1\n").utf8
  else sampleFiles false name

def sampleSettings : Settings := ⟨some (text "hai"), none, some 4, .ok 1000⟩

/-- The last normal window has five values to draw. -/
theorem attackFiles_uniform : ∃ results : List (Except BenchmarkError (BenchmarkData ℚ)),
    load splitLines digitFloat attackFiles sampleSettings 1 = .ok results ∧ results.length = 5 ∧
      ∃ root cap, resolveRootPath sampleSettings = .ok root ∧ resolveCap sampleSettings = .ok cap ∧
        ∃ rows, List.Forall₂ (SourceRows splitLines digitFloat attackFiles root) sourceFiles rows ∧
          UniformSample cap (rows.flatMap (windowsOf 1))
            (outcomes cap .start (positions (rows.flatMap (windowsOf 1)))) results := by
  have hload : (load splitLines digitFloat attackFiles sampleSettings 1).toOption.any (fun results =>
      results.length = 5 ∧ results.any fun result => result.toOption.isSome) := by decide +kernel
  obtain ⟨results, hresults, hreturned⟩ := (Option.any_eq_true _ _).mp hload
  obtain ⟨hlength, hany⟩ := of_decide_eq_true hreturned
  obtain ⟨result, hmem, hsome⟩ := List.any_eq_true.mp hany
  obtain ⟨data, hdata⟩ := Option.isSome_iff_exists.mp hsome
  have hresults := Except.eq_ok_of_toOption hresults
  exact ⟨results, hresults, hlength, load_uniform hresults (Except.eq_ok_of_toOption hdata ▸ hmem)⟩

end TruthFingerprint.OfflineTraining.HaiBenchmark
