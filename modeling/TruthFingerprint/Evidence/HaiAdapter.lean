import TruthFingerprint.Lib.DecimalText
import TruthFingerprint.Lib.Dict
import TruthFingerprint.Lib.Loops
import TruthFingerprint.Evidence.ManifestBytes

/-!
# The inspection of HAI 23.05

The inspection of a directory reads each file from beginning to end, and so do the readers that the
adapters use afterwards. On observations they make the same checks. Of the labels the inspection
allows further columns, which their reader does not, so that what is accepted can be read if and only
if the label files have no other column (`readable_iff`). How a file is split into rows, and what
`float` makes of a text, are parameters.
-/

namespace TruthFingerprint.Evidence.HaiAdapter

open DecimalText (natText)

inductive HaiError where
  /-- `Hai2305LayoutError` -/
  | layout (message : Text)
  /-- The file cannot be decoded or split. -/
  | unreadable
deriving DecidableEq

def layoutError (message : String) (subject : Text) : HaiError := .layout (text message ++ subject)

def rowError (message : String) (path : Text) (rowNumber : ℕ) : HaiError :=
  layoutError message (path ++ text ":" ++ natText rowNumber)

/-! ## `csv.DictReader` -/

abbrev CsvReader := Bytes → Option (List (List Text))

/-- The first row names the fields, and rows without a field are skipped. -/
structure DictReader where
  fieldnames : Option (List Text)
  rows : List (List Text)

def dictReader (csvReader : CsvReader) (content : Bytes) : Except HaiError DictReader :=
  match csvReader content with
  | some rows => .ok ⟨rows.head?, rows.tail.filter (· ≠ [])⟩
  | none => .error .unreadable

/-- The fields of a row. Those that a short row does not have are `None`, and what a long row has
beyond the names is under no name. -/
def dictRow (fieldnames row : List Text) : List (Text × Option Text) :=
  (fieldnames.drop row.length).foldl (fun d name => Dict.setItem d (name, none))
    (Dict.ofItems (fieldnames.zip (row.map some)))

/-- `row.get(name)` -/
def get (row : List (Text × Option Text)) (name : Text) : Option Text := (row.lookup name).join

/-- The timestamp of a row, unless it is empty -/
def timestampOf (row : List (Text × Option Text)) : Option Text :=
  (get row (text "timestamp")).filter (· ≠ [])

/-- `raw_label in {"0", "1"}`, with the number of the label -/
def labelOf (row : List (Text × Option Text)) : Option ℕ :=
  if get row (text "label") = some (text "0") then some 0
  else if get row (text "label") = some (text "1") then some 1
  else none

section Inspection

variable {F : Type} (csvReader : CsvReader) (float : Text → Option F)

/-- `float(row[name])` -/
def tagOf (row : List (Text × Option Text)) (name : Text) : Option F := (get row name).bind float

/-! ## `_inspect_csv` -/

structure HaiFileManifest where
  fileName : Text
  role : Text
  rowCount : ℕ
  columns : List Text
  firstTimestamp : Text
  lastTimestamp : Text
  contentSha256 : Text

/-- What the loop over the rows keeps -/
structure Scan where
  first : Option Text
  previous : Option Text
  count : ℕ

def inspectRow (path : Text) (requireLabel : Bool) (columns : List Text) (rowNumber : ℕ)
    (scan : Scan) (row : List (Text × Option Text)) : Except HaiError Scan :=
  match timestampOf row with
  | none => .error (rowError "Non-monotonic HAI timestamp at " path rowNumber)
  | some timestamp =>
    if !requireLabel && scan.previous.any (timestamp ≤ ·) then
      .error (rowError "Non-monotonic HAI timestamp at " path rowNumber)
    else if requireLabel && (labelOf row).isNone then
      .error (rowError "Invalid HAI label at " path rowNumber)
    else if !requireLabel && columns.tail.any fun column => (tagOf float row column).isNone then
      .error (rowError "Invalid native HAI value at " path rowNumber)
    else .ok ⟨scan.first.or (some timestamp), some timestamp, scan.count + 1⟩

def inspectRows (path : Text) (requireLabel : Bool) (columns : List Text) :
    ℕ → Scan → List (List Text) → Except HaiError Scan
  | _, scan, [] => .ok scan
  | rowNumber, scan, row :: rows => do
    let scan ← inspectRow float path requireLabel columns rowNumber scan (dictRow columns row)
    inspectRows path requireLabel columns (rowNumber + 1) scan rows

def requiredColumns (requireLabel : Bool) : List Text :=
  if requireLabel then [text "timestamp", text "label"] else [text "timestamp"]

/-- `root / name` -/
def pathOf (root name : Text) : Text := root ++ text "/" ++ name

def inspectCsv (root name role : Text) (requireLabel : Bool) (content : Bytes) :
    Except HaiError HaiFileManifest := do
  let path := pathOf root name
  let reader ← dictReader csvReader content
  let columns := reader.fieldnames.getD []
  if columns = [] ∨ columns.take (requiredColumns requireLabel).length ≠
      requiredColumns requireLabel ∨ (requireLabel = false ∧ columns.length < 2) then
    .error (layoutError "Unsupported HAI-23.05 schema in " path)
  else
    let scan ← inspectRows float path requireLabel columns 2 ⟨none, none, 0⟩ reader.rows
    match scan.first, scan.previous with
    | some first, some previous =>
      if scan.count = 0 then .error (layoutError "Empty HAI CSV: " path)
      else .ok ⟨name, role, scan.count, columns, first, previous, bytesId content⟩
    | _, _ => .error (layoutError "Empty HAI CSV: " path)

/-! ## `inspect_hai_23_05` -/

structure Hai2305Manifest where
  root : Text
  observations : List HaiFileManifest
  labels : List HaiFileManifest

/-- `_OBSERVATION_FILES` -/
def observationFiles : List Text :=
  [text "hai-train1.csv", text "hai-train2.csv", text "hai-train3.csv", text "hai-train4.csv",
    text "hai-test1.csv", text "hai-test2.csv"]

def labelFiles : List Text := [text "label-test1.csv", text "label-test2.csv"]

/-- `_LABEL_BY_TEST` -/
def labelByTest : List (Text × Text) :=
  [(text "hai-test1.csv", text "label-test1.csv"), (text "hai-test2.csv", text "label-test2.csv")]

/-- The representation of a list of names -/
def namesText (names : List Text) : Text :=
  text "[" ++ List.flatten ((names.map fun name => text "'" ++ name ++ text "'").intersperse
    (text ", ")) ++ text "]"

def observationRole (name : Text) : Text :=
  if (text "hai-train").isPrefixOf name then text "train" else text "test"

/-- The regular files of the directory -/
abbrev Files := Text → Option Bytes

def Files.content (files : Files) (name : Text) : Bytes := (files name).getD []

/-- The files of tests whose labels are more or fewer than their observations -/
def misaligned (items : List HaiFileManifest) : List (Text × Text) :=
  let rowCount (name : Text) := (items.find? (·.fileName = name)).map (·.rowCount)
  labelByTest.filter fun pair => rowCount pair.1 ≠ rowCount pair.2

def inspectHai2305 (root : Text) (files : Files) : Except HaiError Hai2305Manifest := do
  let missing := (observationFiles ++ labelFiles).filter fun name => (files name).isNone
  if missing ≠ [] then .error (layoutError "HAI-23.05 missing required files: " (namesText missing))
  else
    let observations ← observationFiles.mapM fun name =>
      inspectCsv csvReader float root name (observationRole name) false (files.content name)
    let labels ← labelFiles.mapM fun name =>
      inspectCsv csvReader float root name (text "restricted-evaluation-truth") true
        (files.content name)
    match misaligned (observations ++ labels) with
    | [] => .ok ⟨root, observations, labels⟩
    | pair :: _ => .error (layoutError "HAI-23.05 label alignment failed for "
        (pair.1 ++ text " and " ++ pair.2))

/-! ## The readers -/

/-- The tags of a row by their names -/
def tagsOf (fieldnames : List Text) (row : List (Text × Option Text)) : Option (List (Text × F)) :=
  (fieldnames.tail.mapM fun name => (tagOf float row name).map fun x => (name, x)).map Dict.ofItems

def observationRows (path : Text) (fieldnames : List Text) :
    ℕ → Option Text → List (List Text) → Except HaiError (List (Text × List (Text × F)))
  | _, _, [] => .ok []
  | rowNumber, previous, row :: rows =>
    match timestampOf (dictRow fieldnames row) with
    | none => .error (rowError "Non-monotonic HAI timestamp at " path rowNumber)
    | some timestamp =>
      if previous.any (timestamp ≤ ·) then
        .error (rowError "Non-monotonic HAI timestamp at " path rowNumber)
      else match tagsOf float fieldnames (dictRow fieldnames row) with
        | none => .error (rowError "Invalid native HAI value at " path rowNumber)
        | some tags => do
          let rest ← observationRows path fieldnames (rowNumber + 1) (some timestamp) rows
          .ok ((timestamp, tags) :: rest)

/-- `iter_native_observations`, to the end -/
def iterNativeObservations (path : Text) (content : Bytes) :
    Except HaiError (List (Text × List (Text × F))) := do
  let reader ← dictReader csvReader content
  let fieldnames := reader.fieldnames.getD []
  if fieldnames.head? ≠ some (text "timestamp") ∨ fieldnames.length < 2 then
    .error (layoutError "Unsupported HAI observation schema in " path)
  else observationRows float path fieldnames 2 none reader.rows

def labelRows (path : Text) (fieldnames : List Text) :
    ℕ → List (List Text) → Except HaiError (List (Text × ℕ))
  | _, [] => .ok []
  | rowNumber, row :: rows =>
    match timestampOf (dictRow fieldnames row), labelOf (dictRow fieldnames row) with
    | some timestamp, some label => do
      let rest ← labelRows path fieldnames (rowNumber + 1) rows
      .ok ((timestamp, label) :: rest)
    | _, _ => .error (rowError "Invalid HAI label at " path rowNumber)

/-- `iter_native_labels`, to the end -/
def iterNativeLabels (path : Text) (content : Bytes) : Except HaiError (List (Text × ℕ)) := do
  let reader ← dictReader csvReader content
  let fieldnames := reader.fieldnames.getD []
  if fieldnames ≠ [text "timestamp", text "label"] then
    .error (layoutError "Unsupported HAI label schema in " path)
  else labelRows path fieldnames 2 reader.rows

end Inspection

/-! ## What the inspection says of a file -/

section Reading

variable {F : Type} {csvReader : CsvReader} {float : Text → Option F} {path : Text}
  {columns : List Text} {scan scan' : Scan}

/-- The loop has come from one state to another over rows with these timestamps. -/
structure Scans (scan : Scan) (timestamps : List Text) (scan' : Scan) : Prop where
  count : scan'.count = scan.count + timestamps.length
  first : scan'.first = scan.first.or timestamps.head?
  previous : scan'.previous = timestamps.getLast?.or scan.previous

theorem Scans.refl (scan : Scan) : Scans scan [] scan := ⟨rfl, by simp, rfl⟩

/-- A row is scanned before the others. -/
theorem Scans.cons {timestamp : Text} {timestamps : List Text}
    (h : Scans ⟨scan.first.or (some timestamp), some timestamp, scan.count + 1⟩ timestamps scan') :
    Scans scan (timestamp :: timestamps) scan' where
  count := by
    have hcount : scan'.count = scan.count + 1 + timestamps.length := h.count
    rw [hcount, List.length_cons]
    omega
  first := by
    rw [h.first, List.head?_cons]
    cases scan.first <;> rfl
  previous := by
    rw [h.previous, List.getLast?_cons]
    cases timestamps.getLast? <;> rfl

theorem inspectRow_observation {rowNumber : ℕ} {row : List (Text × Option Text)}
    (h : inspectRow float path false columns rowNumber scan row = .ok scan') :
    ∃ timestamp, timestampOf row = some timestamp ∧
      scan.previous.any (timestamp ≤ ·) = false ∧
      (∀ column ∈ columns.tail, (tagOf float row column).isSome) ∧
      scan' = ⟨scan.first.or (some timestamp), some timestamp, scan.count + 1⟩ := by
  rw [inspectRow] at h
  cases htimestamp : timestampOf row with
  | none => simp [htimestamp] at h
  | some timestamp =>
    simp only [htimestamp, Bool.not_false, Bool.true_and, Bool.false_and, Bool.false_eq_true,
      if_false] at h
    split_ifs at h with horder htags
    refine ⟨timestamp, rfl, Bool.eq_false_iff.mpr horder, fun column hcolumn => ?_, ?_⟩
    · by_contra hnone
      exact htags (List.any_eq_true.mpr ⟨column, hcolumn, by simpa using hnone⟩)
    · exact (Except.ok.inj h).symm

theorem inspectRow_label {rowNumber : ℕ} {row : List (Text × Option Text)}
    (h : inspectRow float path true columns rowNumber scan row = .ok scan') :
    ∃ timestamp label, timestampOf row = some timestamp ∧ labelOf row = some label ∧
      scan' = ⟨scan.first.or (some timestamp), some timestamp, scan.count + 1⟩ := by
  rw [inspectRow] at h
  cases htimestamp : timestampOf row with
  | none => simp [htimestamp] at h
  | some timestamp =>
    cases hlabel : labelOf row with
    | none => simp [htimestamp, hlabel] at h
    | some label =>
      simp only [htimestamp, hlabel, Bool.not_true, Bool.false_and, Bool.true_and,
        Option.isNone_some, Bool.false_eq_true, if_false] at h
      exact ⟨timestamp, label, rfl, rfl, (Except.ok.inj h).symm⟩

theorem exists_tagsOf {row : List (Text × Option Text)}
    (h : ∀ column ∈ columns.tail, (tagOf float row column).isSome) :
    ∃ tags, tagsOf float columns row = some tags := by
  obtain ⟨values, hvalues⟩ : ∃ values, (columns.tail.mapM fun name =>
      (tagOf float row name).map fun x => (name, x)) = some values := by
    refine List.exists_mapM_eq_some fun column hcolumn => ?_
    obtain ⟨x, hx⟩ := Option.isSome_iff_exists.mp (h column hcolumn)
    exact ⟨(column, x), by rw [hx, Option.map_some]⟩
  rw [tagsOf, hvalues]
  exact ⟨_, rfl⟩

/-- Observations that the inspection has scanned are read, in the order of their timestamps. -/
theorem observationRows_of_inspect {rowNumber : ℕ} {rows : List (List Text)}
    (h : inspectRows float path false columns rowNumber scan rows = .ok scan') :
    ∃ items, observationRows float path columns rowNumber scan.previous rows = .ok items ∧
      Scans scan (items.map Prod.fst) scan' ∧ (items.map Prod.fst).Pairwise (· < ·) ∧
      ∀ previous, scan.previous = some previous → ∀ timestamp ∈ items.map Prod.fst,
        previous < timestamp := by
  induction rows generalizing rowNumber scan with
  | nil =>
    obtain rfl := Except.ok.inj h
    exact ⟨[], rfl, .refl _, List.Pairwise.nil, fun _ _ _ hmem => absurd hmem List.not_mem_nil⟩
  | cons row rows ih =>
    obtain ⟨next, hrow, hrest⟩ := Except.bind_eq_ok.mp h
    obtain ⟨timestamp, htimestamp, horder, htags, rfl⟩ := inspectRow_observation hrow
    obtain ⟨tags, htags⟩ := exists_tagsOf htags
    obtain ⟨items, hitems, hscans, hsorted, hbefore⟩ := ih hrest
    have hlt : ∀ previous, scan.previous = some previous → previous < timestamp := by
      intro previous hprevious
      rw [hprevious] at horder
      exact not_le.mp (of_decide_eq_false horder)
    refine ⟨(timestamp, tags) :: items, ?_, hscans.cons, ?_, ?_⟩
    · rw [observationRows, htimestamp]
      simp only [horder, htags, Bool.false_eq_true, if_false, hitems]
      rfl
    · exact List.pairwise_cons.mpr ⟨hbefore timestamp rfl, hsorted⟩
    · intro previous hprevious other hother
      rcases List.mem_cons.mp hother with rfl | hother
      · exact hlt previous hprevious
      · exact (hlt previous hprevious).trans (hbefore timestamp rfl other hother)

/-- Labels that the inspection has scanned are read. -/
theorem labelRows_of_inspect {rowNumber : ℕ} {rows : List (List Text)}
    (h : inspectRows float path true columns rowNumber scan rows = .ok scan') :
    ∃ items, labelRows path columns rowNumber rows = .ok items ∧
      Scans scan (items.map Prod.fst) scan' := by
  induction rows generalizing rowNumber scan with
  | nil =>
    obtain rfl := Except.ok.inj h
    exact ⟨[], rfl, .refl _⟩
  | cons row rows ih =>
    obtain ⟨next, hrow, hrest⟩ := Except.bind_eq_ok.mp h
    obtain ⟨timestamp, label, htimestamp, hlabel, rfl⟩ := inspectRow_label hrow
    obtain ⟨items, hitems, hscans⟩ := ih hrest
    refine ⟨(timestamp, label) :: items, ?_, hscans.cons⟩
    rw [labelRows, htimestamp, hlabel]
    simp only [hitems]
    rfl

/-- What a manifest says of the items of its file -/
structure Describes {α : Type} (manifest : HaiFileManifest) (items : List (Text × α)) : Prop where
  rowCount : items.length = manifest.rowCount
  first : items.head?.map Prod.fst = some manifest.firstTimestamp
  last : items.getLast?.map Prod.fst = some manifest.lastTimestamp

theorem describes_of_scans {α : Type} {items : List (Text × α)} {manifest : HaiFileManifest}
    (h : Scans ⟨none, none, 0⟩ (items.map Prod.fst) scan) (hcount : manifest.rowCount = scan.count)
    (hfirst : scan.first = some manifest.firstTimestamp)
    (hlast : scan.previous = some manifest.lastTimestamp) : Describes manifest items where
  rowCount := by rw [hcount, h.count, List.length_map, Nat.zero_add]
  first := by rw [← List.head?_map, ← hfirst, h.first, Option.none_or]
  last := by rw [← List.getLast?_map, ← hlast, h.previous, Option.or_none]

/-- The names of the fields of a file -/
def header (csvReader : CsvReader) (content : Bytes) : Option (List Text) :=
  (csvReader content).bind List.head?

/-- The header of a file that can be split -/
theorem header_eq_of_dictReader {content : Bytes} {reader : DictReader}
    (h : dictReader csvReader content = .ok reader) :
    header csvReader content = reader.fieldnames := by
  rw [dictReader] at h
  cases hrows : csvReader content with
  | none => simp [hrows] at h
  | some rows =>
    rw [hrows] at h
    obtain rfl := Except.ok.inj h
    rw [header, hrows]
    rfl

/-- What the inspection of a file that is accepted has gone through -/
theorem inspectCsv_eq_ok {root name role : Text} {requireLabel : Bool} {content : Bytes}
    {manifest : HaiFileManifest}
    (h : inspectCsv csvReader float root name role requireLabel content = .ok manifest) :
    ∃ reader scan, dictReader csvReader content = .ok reader ∧
      header csvReader content = some manifest.columns ∧
      reader.fieldnames.getD [] = manifest.columns ∧
      manifest.columns.take (requiredColumns requireLabel).length = requiredColumns requireLabel ∧
      (requireLabel = false → 2 ≤ manifest.columns.length) ∧
      inspectRows float (pathOf root name) requireLabel manifest.columns 2 ⟨none, none, 0⟩
        reader.rows = .ok scan ∧
      manifest.fileName = name ∧ manifest.rowCount = scan.count ∧
      scan.first = some manifest.firstTimestamp ∧ scan.previous = some manifest.lastTimestamp := by
  obtain ⟨reader, hreader, h⟩ := Except.bind_eq_ok.mp h
  simp only at h
  split_ifs at h with hschema
  rw [not_or, not_or] at hschema
  obtain ⟨scan, hscan, h⟩ := Except.bind_eq_ok.mp h
  cases hfirst : scan.first with
  | none => simp [hfirst] at h
  | some first =>
    cases hprevious : scan.previous with
    | none => simp [hfirst, hprevious] at h
    | some last =>
      simp only [hfirst, hprevious] at h
      split_ifs at h
      obtain rfl := Except.ok.inj h
      have hheader : header csvReader content = some (reader.fieldnames.getD []) := by
        rw [header_eq_of_dictReader hreader]
        cases hnames : reader.fieldnames with
        | none => exact absurd (by rw [hnames]; rfl) hschema.1
        | some fieldnames => rfl
      refine ⟨reader, scan, hreader, hheader, rfl, not_not.mp hschema.2.1, fun hlabel => ?_, hscan,
        rfl, rfl, hfirst, hprevious⟩
      exact not_lt.mp fun hlt => hschema.2.2 ⟨hlabel, hlt⟩

/-- Observations that are accepted are read as their manifest says, in the order of time. -/
theorem iterNativeObservations_of_inspect {root name role : Text} {content : Bytes}
    {manifest : HaiFileManifest}
    (h : inspectCsv csvReader float root name role false content = .ok manifest) :
    ∃ items, iterNativeObservations csvReader float (pathOf root name) content = .ok items ∧
      Describes manifest items ∧ (items.map Prod.fst).Pairwise (· < ·) := by
  obtain ⟨reader, scan, hreader, -, hcolumns, hrequired, htwo, hscan, hname, hcount, hfirst, hlast⟩ :=
    inspectCsv_eq_ok h
  obtain ⟨items, hitems, hscans, hsorted, -⟩ := observationRows_of_inspect hscan
  have hhead : manifest.columns.head? = some (text "timestamp") := by
    cases hmanifest : manifest.columns with
    | nil => simp [hmanifest, requiredColumns] at hrequired
    | cons column columns =>
      rw [hmanifest] at hrequired
      simpa [requiredColumns] using hrequired
  refine ⟨items, ?_, ?_, hsorted⟩
  · rw [iterNativeObservations, hreader]
    simp only [Except.bind, bind, hcolumns]
    rw [if_neg]
    · exact hitems
    · rw [not_or, not_not]
      exact ⟨hhead, not_lt.mpr (htwo rfl)⟩
  · exact describes_of_scans hscans hcount hfirst hlast

/-- Labels that are accepted are read as their manifest says when there is no other column. -/
theorem iterNativeLabels_of_inspect {root name role : Text} {content : Bytes}
    {manifest : HaiFileManifest}
    (h : inspectCsv csvReader float root name role true content = .ok manifest)
    (hheader : header csvReader content = some [text "timestamp", text "label"]) :
    ∃ items, iterNativeLabels csvReader (pathOf root name) content = .ok items ∧
      Describes manifest items := by
  obtain ⟨reader, scan, hreader, hcolumns, hnames, -, -, hscan, -, hcount, hfirst, hlast⟩ :=
    inspectCsv_eq_ok h
  obtain ⟨items, hitems, hscans⟩ := labelRows_of_inspect hscan
  have hexact : manifest.columns = [text "timestamp", text "label"] :=
    Option.some.inj (hcolumns.symm.trans hheader)
  refine ⟨items, ?_, describes_of_scans hscans hcount hfirst hlast⟩
  rw [iterNativeLabels, hreader]
  simp only [Except.bind, bind, hnames]
  rw [if_neg (not_not.mpr hexact)]
  exact hitems

/-- Only labels without another column are read. -/
theorem header_of_iterNativeLabels {content : Bytes} {items : List (Text × ℕ)}
    (h : iterNativeLabels csvReader path content = .ok items) :
    header csvReader content = some [text "timestamp", text "label"] := by
  obtain ⟨reader, hreader, h⟩ := Except.bind_eq_ok.mp h
  simp only at h
  split_ifs at h with hnames
  rw [not_not] at hnames
  rw [header_eq_of_dictReader hreader]
  cases hfields : reader.fieldnames with
  | none =>
    rw [hfields] at hnames
    exact absurd hnames (List.cons_ne_nil _ _).symm
  | some fieldnames =>
    rw [hfields] at hnames
    exact congrArg some hnames

end Reading

/-! ## What the inspection says of a directory -/

section Directory

variable {F : Type} {csvReader : CsvReader} {float : Text → Option F} {root : Text} {files : Files}
  {manifest : Hai2305Manifest}

/-- Every file is read to its end as the manifest says, the observations in the order of time, and a
test has as many observations as labels. -/
structure Readable (csvReader : CsvReader) (float : Text → Option F) (root : Text) (files : Files)
    (manifest : Hai2305Manifest) : Prop where
  observations : ∀ item ∈ manifest.observations, ∃ rows,
    iterNativeObservations csvReader float (pathOf root item.fileName)
        (files.content item.fileName) = .ok rows ∧
      Describes item rows ∧ (rows.map Prod.fst).Pairwise (· < ·)
  labels : ∀ item ∈ manifest.labels, ∃ rows,
    iterNativeLabels csvReader (pathOf root item.fileName) (files.content item.fileName) =
        .ok rows ∧
      Describes item rows
  aligned : ∀ pair ∈ labelByTest, ∃ observations labels,
    iterNativeObservations csvReader float (pathOf root pair.1) (files.content pair.1) =
        .ok observations ∧
      iterNativeLabels csvReader (pathOf root pair.2) (files.content pair.2) = .ok labels ∧
      observations.length = labels.length

/-- The parts of an inspection that is accepted -/
structure Inspected (csvReader : CsvReader) (float : Text → Option F) (root : Text) (files : Files)
    (manifest : Hai2305Manifest) : Prop where
  observations : List.Forall₂ (fun name item => inspectCsv csvReader float root name
    (observationRole name) false (files.content name) = .ok item)
      observationFiles manifest.observations
  labels : List.Forall₂ (fun name item => inspectCsv csvReader float root name
    (text "restricted-evaluation-truth") true (files.content name) = .ok item)
      labelFiles manifest.labels
  aligned : misaligned (manifest.observations ++ manifest.labels) = []

theorem inspected (h : inspectHai2305 csvReader float root files = .ok manifest) :
    Inspected csvReader float root files manifest := by
  rw [inspectHai2305] at h
  split_ifs at h
  obtain ⟨observations, hobservations, h⟩ := Except.bind_eq_ok.mp h
  obtain ⟨labels, hlabels, h⟩ := Except.bind_eq_ok.mp h
  rw [List.mapM_eq_ok_iff] at hobservations hlabels
  cases haligned : misaligned (observations ++ labels) with
  | nil =>
    rw [haligned] at h
    obtain rfl := Except.ok.inj h
    exact ⟨hobservations, hlabels, haligned⟩
  | cons pair rest => simp [haligned] at h

theorem fileName_of_inspect {name role : Text} {requireLabel : Bool} {content : Bytes}
    {item : HaiFileManifest}
    (h : inspectCsv csvReader float root name role requireLabel content = .ok item) :
    item.fileName = name := by
  obtain ⟨_, _, -, -, -, -, -, -, hname, -⟩ := inspectCsv_eq_ok h
  exact hname

theorem exists_find {items : List HaiFileManifest} {item : HaiFileManifest} {name : Text}
    (hitem : item ∈ items) (hname : item.fileName = name) :
    ∃ found ∈ items, found.fileName = name ∧ items.find? (·.fileName = name) = some found := by
  have hsome : (items.find? (·.fileName = name)).isSome :=
    List.find?_isSome.mpr ⟨item, hitem, decide_eq_true hname⟩
  obtain ⟨found, hfound⟩ := Option.isSome_iff_exists.mp hsome
  have hfoundName := List.find?_some hfound
  exact ⟨found, List.mem_of_find?_eq_some hfound, of_decide_eq_true hfoundName, hfound⟩

/-- The manifest of a file of observations is found under its name. -/
theorem Inspected.find_observations (h : Inspected csvReader float root files manifest) {name : Text}
    (hname : name ∈ observationFiles) : ∃ item ∈ manifest.observations,
      inspectCsv csvReader float root name (observationRole name) false (files.content name) =
        .ok item ∧
      (manifest.observations ++ manifest.labels).find? (·.fileName = name) = some item := by
  obtain ⟨item, hitem, hinspect⟩ := h.observations.exists_of_mem_left hname
  obtain ⟨found, hany, hfoundName, hfound⟩ :=
    exists_find (List.mem_append_left _ hitem) (fileName_of_inspect hinspect)
  rcases List.mem_append.mp hany with hmem | hmem
  · obtain ⟨other, -, hother⟩ := h.observations.exists_of_mem_right hmem
    obtain rfl := (fileName_of_inspect hother).symm.trans hfoundName
    exact ⟨found, hmem, hother, hfound⟩
  · obtain ⟨other, hlabel, hother⟩ := h.labels.exists_of_mem_right hmem
    obtain rfl := (fileName_of_inspect hother).symm.trans hfoundName
    have hdisjoint : ∀ label ∈ labelFiles, label ∉ observationFiles := by decide
    exact absurd hname (hdisjoint _ hlabel)

theorem Inspected.find_labels (h : Inspected csvReader float root files manifest) {name : Text}
    (hname : name ∈ labelFiles) : ∃ item ∈ manifest.labels,
      inspectCsv csvReader float root name (text "restricted-evaluation-truth") true
        (files.content name) = .ok item ∧
      (manifest.observations ++ manifest.labels).find? (·.fileName = name) = some item := by
  obtain ⟨item, hitem, hinspect⟩ := h.labels.exists_of_mem_left hname
  obtain ⟨found, hany, hfoundName, hfound⟩ :=
    exists_find (List.mem_append_right _ hitem) (fileName_of_inspect hinspect)
  rcases List.mem_append.mp hany with hmem | hmem
  · obtain ⟨other, hobservation, hother⟩ := h.observations.exists_of_mem_right hmem
    obtain rfl := (fileName_of_inspect hother).symm.trans hfoundName
    have hdisjoint : ∀ label ∈ labelFiles, label ∉ observationFiles := by decide
    exact absurd hobservation (hdisjoint _ hname)
  · obtain ⟨other, -, hother⟩ := h.labels.exists_of_mem_right hmem
    obtain rfl := (fileName_of_inspect hother).symm.trans hfoundName
    exact ⟨found, hmem, hother, hfound⟩

/-- What the inspection accepts can be read as it says if and only if the label files have no columns
but the timestamp and the label. -/
theorem readable_iff (h : inspectHai2305 csvReader float root files = .ok manifest) :
    Readable csvReader float root files manifest ↔ ∀ name ∈ labelFiles,
      header csvReader (files.content name) = some [text "timestamp", text "label"] := by
  have hinspected := inspected h
  constructor
  · intro hreadable name hname
    obtain ⟨item, hitem, hinspect⟩ := hinspected.labels.exists_of_mem_left hname
    obtain ⟨rows, hrows, -⟩ := hreadable.labels item hitem
    rw [fileName_of_inspect hinspect] at hrows
    exact header_of_iterNativeLabels hrows
  · intro hheaders
    constructor
    case observations =>
      intro item hitem
      obtain ⟨name, -, hinspect⟩ := hinspected.observations.exists_of_mem_right hitem
      obtain rfl := fileName_of_inspect hinspect
      exact iterNativeObservations_of_inspect hinspect
    case labels =>
      intro item hitem
      obtain ⟨name, hname, hinspect⟩ := hinspected.labels.exists_of_mem_right hitem
      obtain rfl := fileName_of_inspect hinspect
      exact iterNativeLabels_of_inspect hinspect (hheaders _ hname)
    case aligned =>
      intro pair hpair
      have hnames : ∀ pair ∈ labelByTest, pair.1 ∈ observationFiles ∧ pair.2 ∈ labelFiles := by
        decide
      obtain ⟨test, -, htest, hfindTest⟩ := hinspected.find_observations (hnames pair hpair).1
      obtain ⟨label, -, hlabel, hfindLabel⟩ := hinspected.find_labels (hnames pair hpair).2
      obtain ⟨observations, hobservations, hcount, -⟩ := iterNativeObservations_of_inspect htest
      obtain ⟨labels, hlabels, hcount'⟩ :=
        iterNativeLabels_of_inspect hlabel (hheaders _ (hnames pair hpair).2)
      refine ⟨observations, labels, hobservations, hlabels, ?_⟩
      have haligned := List.filter_eq_nil_iff.mp hinspected.aligned pair hpair
      simp only [hfindTest, hfindLabel] at haligned
      have hrowCount : test.rowCount = label.rowCount := by simpa using haligned
      rw [hcount.rowCount, hcount'.rowCount, hrowCount]

end Directory

/-! ## Directories with one row in each file -/

/-- Lines with fields between commas, without quotes -/
def splitLines : CsvReader := fun content =>
  some (((content.map fun byte => (⟨byte.toNat, by have := byte.toNat_lt; omega⟩ : CodePoint)).splitOn
    '\n'.codePoint).dropLast.map fun line => if line = [] then [] else line.splitOn ','.codePoint)

def digitFloat (t : Text) : Option ℚ := if t = text "7" then some 7 else none

/-- Files with one row, whose label files have one column more or not -/
def sampleFiles (moreColumns : Bool) : Files := fun name =>
  if name ∈ observationFiles then some (text "timestamp,P1\n2022-08-04 18:00:00,7\n").utf8
  else if name ∈ labelFiles then
    some (if moreColumns then (text "timestamp,label,P1\n2022-08-04 18:00,0,7\n").utf8
      else (text "timestamp,label\n2022-08-04 18:00,0\n").utf8)
  else none

theorem sampleFiles_inspected (moreColumns : Bool) :
    ∃ manifest, inspectHai2305 splitLines digitFloat (text "hai") (sampleFiles moreColumns) =
      .ok manifest := by
  have hsome (more : Bool) : (inspectHai2305 splitLines digitFloat (text "hai")
      (sampleFiles more)).toOption.isSome := by
    cases more <;> decide +kernel
  obtain ⟨manifest, hmanifest⟩ := Option.isSome_iff_exists.mp (hsome moreColumns)
  exact ⟨manifest, Except.eq_ok_of_toOption hmanifest⟩

theorem sampleFiles_readable : ∃ manifest,
    inspectHai2305 splitLines digitFloat (text "hai") (sampleFiles false) = .ok manifest ∧
      Readable splitLines digitFloat (text "hai") (sampleFiles false) manifest := by
  obtain ⟨manifest, hmanifest⟩ := sampleFiles_inspected false
  exact ⟨manifest, hmanifest, (readable_iff hmanifest).mpr (by decide +kernel)⟩

/-- Label files with a column more are inspected, but not read. -/
theorem moreColumns_not_readable :
    ¬∀ manifest,
      inspectHai2305 splitLines digitFloat (text "hai") (sampleFiles true) = .ok manifest →
        Readable splitLines digitFloat (text "hai") (sampleFiles true) manifest := by
  intro h
  obtain ⟨manifest, hmanifest⟩ := sampleFiles_inspected true
  obtain ⟨observations, labels, -, hlabels, -⟩ := (h manifest hmanifest).aligned
    (text "hai-test1.csv", text "label-test1.csv") List.mem_cons_self
  exact absurd (header_of_iterNativeLabels hlabels) (by decide +kernel)

end TruthFingerprint.Evidence.HaiAdapter
