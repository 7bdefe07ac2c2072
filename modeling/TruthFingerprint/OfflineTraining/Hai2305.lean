import Mathlib
import TruthFingerprint.OfflineTraining.PhaseAllocation
import TruthFingerprint.OfflineTraining.Preprocessing
import TruthFingerprint.OfflineTraining.Selection

/-!
# The loader of HAI 23.05

The rows of a file are cut into blocks, which are the units. Of each file a reservoir keeps the
first blocks of the ranking, and of the files of a partition together a slice is selected. Dates are
a parameter, with the order in which they come and the minute that they lie in.
-/

namespace TruthFingerprint.OfflineTraining

open List (ranked slice)
open Python (Coercions FloatOps Members Value)

/-! ## Dates -/

/-- `datetime.fromisoformat`, and a date with its seconds replaced by zero -/
structure Calendar (T : Type) where
  fromIsoFormat : Text → Option T
  minuteFloor : T → T

inductive TimeResolution where
  | microsecond
  | second
  | minute
deriving DecidableEq

/-- What is before and after the first occurrence of a character, if there is one -/
def partitionAt (c : CodePoint) (t : Text) : Text × Option Text :=
  (t.takeWhile (· ≠ c), (t.dropWhile (· ≠ c)).tail?)

/-- A clock whose hour has one digit is written with two. -/
def padHour (normalized : Text) : Text :=
  let separator := if 'T'.codePoint ∈ normalized then 'T'.codePoint else ' '.codePoint
  match partitionAt separator normalized with
  | (date, some clock) =>
    match partitionAt ':'.codePoint clock with
    | ([hour], some rest) =>
      if Python.isDecimal hour then
        date ++ separator :: '0'.codePoint :: hour :: ':'.codePoint :: rest
      else normalized
    | _ => normalized
  | _ => normalized

def timeResolution (stamp : Text) : Option TimeResolution :=
  let spaced := stamp.map fun c => if c = 'T'.codePoint then ' '.codePoint else c
  let clock := ((partitionAt ' '.codePoint spaced).2).getD []
  let clock := ((partitionAt '+'.codePoint clock).1.reverse.dropWhile (· = 'Z'.codePoint)).reverse
  let colons := clock.count ':'.codePoint
  if '.'.codePoint ∈ clock then some .microsecond
  else if 2 ≤ colons then some .second
  else if colons = 1 then some .minute
  else none

/-- `_parse_hai_timestamp` -/
def parseHaiTimestamp {T : Type} (calendar : Calendar T) (raw : Text) :
    Option (T × TimeResolution) := do
  let stamp := Python.strip raw
  guard (stamp ≠ [])
  let normalized := if stamp.getLast? = some 'Z'.codePoint then stamp.dropLast ++ text "+00:00"
    else stamp
  let timestamp ← calendar.fromIsoFormat (padHour normalized)
  let resolution ← timeResolution stamp
  some (timestamp, resolution)

/-! ## Files -/

/-- A file of observations, with the file of its labels and the partition of its blocks -/
structure HaiSource where
  observations : Text
  labels : Option Text
  nativePartition : Text
  assignedPartition : Partition

def haiSources : List HaiSource :=
  [⟨text "hai-train1.csv", none, text "train", .train⟩,
    ⟨text "hai-train2.csv", none, text "train", .train⟩,
    ⟨text "hai-train3.csv", none, text "validation", .validation⟩,
    ⟨text "hai-train4.csv", none, text "validation", .validation⟩,
    ⟨text "hai-test1.csv", some (text "label-test1.csv"), text "test1", .test⟩,
    ⟨text "hai-test2.csv", some (text "label-test2.csv"), text "test2", .test⟩]

/-- The corpus: the digest of each file that `inspect_hai_23_05` finds, unless it raises, and the
rows of each file -/
structure HaiCorpus where
  manifest : Option (Text → Text)
  rows : Text → List (List Text)

def zeroPadded (width n : Nat) : Text :=
  List.replicate (width - (DecimalText.natText n).length) '0'.codePoint ++ DecimalText.natText n

section Blocks

variable {F T : Type} [Coercions F] [LinearOrder T]

/-- The state of the loop over the rows of a file -/
structure HaiScan (F T : Type) where
  labels : List (List Text)
  rows : Rows F
  events : List Text
  eventIndex : Nat
  inAttack : Bool
  previousObservation : Option T
  previousLabel : Option T
  resolutions : List TimeResolution
  blocks : List (AcademicUnit F)

def haiValues (row : List Text) : Option (Row F) :=
  row.mapM fun value => do
    let x ← Coercions.ofText value
    guard (FloatOps.isFinite x)
    some (.number x)

/-- The label of an observation, if the next row of labels is aligned with it -/
def haiLabel (calendar : Calendar T) (observation : T) (scan : HaiScan F T) :
    Option (Bool × HaiScan F T) :=
  match scan.labels with
  | [stamp, value] :: labels => do
    guard (value = text "0" ∨ value = text "1")
    let (timestamp, resolution) ← parseHaiTimestamp calendar stamp
    guard (∀ previous, scan.previousLabel = some previous →
      ¬(timestamp < previous ∨ resolution ≠ .minute ∧ timestamp = previous))
    guard (if resolution = .minute then
        calendar.minuteFloor observation = calendar.minuteFloor timestamp
      else observation = timestamp)
    some (value = text "1", { scan with
      labels
      previousLabel := some timestamp
      resolutions := scan.resolutions.appendNew resolution })
  | _ => none

/-- Without labels nothing is an attack. -/
def haiAttack (calendar : Calendar T) (source : HaiSource) (observation : T) (scan : HaiScan F T) :
    Option (Bool × HaiScan F T) :=
  if source.labels.isSome then haiLabel calendar observation scan else some (false, scan)

def haiUnitId (observations : Text) (start blockRows : Nat) : Text :=
  text "hai-23.05:" ++ observations ++ text ":rows-" ++ nineDigits start ++ text "-" ++
    nineDigits (start + blockRows - 1)

/-- The document that the group of a block hashes -/
def haiBlockDoc (rows : Rows F) : Value F :=
  .obj [(text "projection", .str (text "hai-detector-visible-time-series-block-v2")),
    (text "values", rowsDoc rows)]

def haiUnit (source : HaiSource) (sourceSha256 : Text) (blockRows blockIndex : Nat) (rows : Rows F)
    (events : List Text) : Option (AcademicUnit F) := do
  let groupId ← canonicalJsonHash (haiBlockDoc rows)
  let start := blockIndex * blockRows
  let label : Fin 2 := if events = [] then 0 else 1
  if h : groupId ≠ [] then
    some
      { unitId := haiUnitId source.observations start blockRows
        groupId
        nativePartition := source.nativePartition
        assignedPartition := source.assignedPartition
        label
        className := if label = 1 then text "Attack" else text "Normal"
        values := rows
        sourcePath := source.observations
        sourceSha256
        order := start
        eventIds := events.insertionSort (· ≤ ·)
        sampledSequences := []
        evidenceOrigin := .officialNative
        resamplingClusterId := text "hai-23.05:" ++ source.observations
        unitId_ne := by simp [haiUnitId, text]
        groupId_ne := h }
  else none

/-- One row of observations, with the number of columns of the header -/
def haiRow (calendar : Calendar T) (source : HaiSource) (sourceSha256 : Text) (columns : Nat)
    (blockRows : Nat) (scan : HaiScan F T) (row : List Text) : Option (HaiScan F T) := do
  guard (row.length = columns)
  let values ← haiValues row.tail
  let (observation, _) ← parseHaiTimestamp calendar (row.headD [])
  guard (∀ previous, scan.previousObservation = some previous → previous < observation)
  let scan := { scan with previousObservation := some observation }
  let (attack, scan) ← haiAttack calendar source observation scan
  let eventIndex := if attack && !scan.inAttack then scan.eventIndex + 1 else scan.eventIndex
  let event := source.observations ++ text ":event-" ++ zeroPadded 4 eventIndex
  let events := if attack then scan.events.appendNew event else scan.events
  let rows := scan.rows ++ [values]
  let scan := { scan with eventIndex, inAttack := attack, rows, events }
  if rows.length < blockRows then some scan
  else do
    let unit ← haiUnit source sourceSha256 blockRows scan.blocks.length rows events
    some { scan with rows := [], events := [], blocks := scan.blocks ++ [unit] }

/-- The blocks of a file in their order, and the names of its features -/
def haiBlocks (calendar : Calendar T) (corpus : HaiCorpus) (source : HaiSource) (sourceSha256 : Text)
    (blockRows : Nat) : Option (List (AcademicUnit F) × List Text) := do
  let header ← (corpus.rows source.observations).head?
  guard (header.head? = some (text "timestamp") ∧ 2 ≤ header.length)
  let labels := (source.labels.map corpus.rows).getD []
  guard (source.labels.isSome → labels.head? = some [text "timestamp", text "label"])
  let scan ← (corpus.rows source.observations).tail.foldlM
    (haiRow calendar source sourceSha256 header.length blockRows)
    ⟨labels.tail, [], [], 0, false, none, none, [], []⟩
  guard (scan.labels = [] ∧ scan.resolutions.length ≤ 1)
  some (scan.blocks, header.tail)

end Blocks

/-! ## Selection -/

section Selection

variable {F : Type} [Coercions F]

def offerBlocks (seed : Int) (blocks : List (AcademicUnit F)) (cap rankStart : Nat) :
    List (AcademicUnit F) :=
  blocks.foldl (priorityReservoirAdd seed (if cap = 0 then 0 else cap + rankStart)) []

/-- The blocks of one label that a file without a total cap retains -/
def retainLabel (seed : Int) (blocks : List (AcademicUnit F)) (label : Fin 2) (cap rankStart : Nat) :
    Option (List (AcademicUnit F)) :=
  let heap := offerBlocks seed (blocks.filter fun unit => unit.label = label) cap rankStart
  if heap = [] ∧ cap = 0 then some [] else prioritySlice seed heap cap rankStart

/-- What the heaps of a file retain -/
def retainBlocks (seed : Int) (blocks : List (AcademicUnit F)) (normalCap attackCap : Nat)
    (totalCap : Option Nat) (rankStart : Nat) : Option (List (AcademicUnit F)) :=
  match totalCap with
  | some total => prioritySlice seed (offerBlocks seed blocks total rankStart) total rankStart
  | none => do
    let normal ← retainLabel seed blocks 0 normalCap rankStart
    let attack ← retainLabel seed blocks 1 attackCap rankStart
    some (normal ++ attack)

/-- What `_select_hai_blocks` makes of the blocks of a file -/
def selectHaiBlocks (seed : Int) (blocks : List (AcademicUnit F)) (normalCap attackCap : Nat)
    (totalCap : Option Nat) (rankStart : Nat) : Option (List (AcademicUnit F)) := do
  guard ¬(rankStart ≠ 0 ∧ (totalCap = some 0 ∨ totalCap = none ∧ (normalCap = 0 ∨ attackCap = 0)))
  let retained ← retainBlocks seed blocks normalCap attackCap totalCap rankStart
  some (ranked AcademicUnit.order retained)

/-- A cap with room for the blocks before the slice -/
def capWithOffset (strict : Bool) (cap offset : Nat) : Nat :=
  if strict && cap ≠ 0 then cap + offset else cap

def selectHaiFile (config caps : Members F) (phase : Phase) (seed : Int) (strict : Bool)
    (partition : Partition) (blocks : List (AcademicUnit F)) : Option (List (AcademicUnit F)) := do
  let offset ← phaseRankStart config phase partition.label (some partition.label)
  let normal ← haiCap caps partition.label (text "normal")
  let attack ← haiCap caps partition.label (text "attack")
  let total ← haiTotalCap caps partition.label
  selectHaiBlocks seed blocks (capWithOffset strict normal offset) (capWithOffset strict attack offset)
    (total.map fun total => capWithOffset strict total offset) 0

/-- The candidates of one label that a partition without a total cap selects -/
def sliceLabel (seed : Int) (candidates : List (AcademicUnit F)) (label : Fin 2) (cap offset : Nat) :
    Option (List (AcademicUnit F)) :=
  let labelled := candidates.filter fun unit => unit.label = label
  if labelled = [] ∧ cap = 0 then some [] else stableUnitSlice seed labelled cap offset true

/-- The slice of the candidates of a partition -/
def slicePartition (config caps : Members F) (phase : Phase) (seed : Int) (partition : Partition)
    (candidates : List (AcademicUnit F)) : Option (List (AcademicUnit F)) := do
  let offset ← phaseRankStart config phase partition.label (some partition.label)
  let total ← haiTotalCap caps partition.label
  match total with
  | some total => stableUnitSlice seed candidates total offset true
  | none => do
    let normal ← haiCap caps partition.label (text "normal")
    let attack ← haiCap caps partition.label (text "attack")
    let normalUnits ← sliceLabel seed candidates 0 normal offset
    let attackUnits ← sliceLabel seed candidates 1 attack offset
    some (normalUnits ++ attackUnits)

/-- The blocks of all files with their sources -/
def haiCorpusBlocks {T : Type} [LinearOrder T] (calendar : Calendar T) (corpus : HaiCorpus)
    (hashes : Text → Text) (blockRows : Nat) :
    Option (List (HaiSource × List (AcademicUnit F) × List Text)) :=
  haiSources.mapM fun source => do
    let blocks ← haiBlocks calendar corpus source (hashes source.observations) blockRows
    some (source, blocks)

structure HaiSettings where
  hashes : Text → Text
  blockRows : Nat
  seed : Int

def haiSettings (corpus : HaiCorpus) (config : Members F) : Option HaiSettings := do
  let hashes ← corpus.manifest
  let blockRows ← Python.int ((config.lookup (text "block_rows")).getD (.num (.int 128)))
  guard (0 < blockRows)
  let seed ← Python.int ((config.lookup (text "partition_seed")).getD (.num (.int 1729)))
  some ⟨hashes, blockRows.toNat, seed⟩

/-- What the files of a partition retain, one after the other -/
def inPartition (partition : Partition)
    (files : List (HaiSource × List (AcademicUnit F))) : List (AcademicUnit F) :=
  (files.filter fun file => file.1.assignedPartition = partition).flatMap Prod.snd

/-- `_load_hai_23_05` -/
def loadHai2305 {T : Type} [LinearOrder T] (calendar : Calendar T) (corpus : HaiCorpus)
    (config : Members F) (phase : Phase) : Option (AcademicDataset F) := do
  let settings ← haiSettings corpus config
  let caps ← phaseCaps config phase
  let strict := (present config (text "phase_allocation")).isSome
  let files ← haiCorpusBlocks calendar corpus settings.hashes settings.blockRows
  guard (∀ file ∈ files, ∀ file' ∈ files, file.2.2 = file'.2.2)
  let retained ← files.mapM fun file => do
    let units ← selectHaiFile config caps phase settings.seed strict file.1.assignedPartition file.2.1
    some (file.1, units)
  let selected ← if strict then
      [Partition.train, .validation, .test].mapM fun partition =>
        slicePartition config caps phase settings.seed partition (inPartition partition retained)
    else some [retained.flatMap Prod.snd]
  Protocol.phaseAllocationAudit config phase
  officialDataset (text "hai-23.05") (text "numeric-multivariate")
    (if strict then text "hai-23.05-native-file-temporal-block-v2"
      else text "hai-23.05-native-file-temporal-block-v1")
    (sortUnits selected.flatten) ((files.head?.map (·.2.2)).getD []) phase.label

end Selection

end TruthFingerprint.OfflineTraining
