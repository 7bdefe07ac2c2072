import TruthFingerprint.Lib.Chunks
import TruthFingerprint.Lib.MarkedRuns
import TruthFingerprint.OfflineTraining.PhaseIsolation

/-!
# The truth of blocks of HAI 23.05

The loop over a file of observations is in a state that the rows so far determine: its blocks are the
complete groups of rows, and a block has the events of the runs of attacks that meet it
(`BlockScan`). Without a cap all blocks are selected, in the order of the file
(`selectHaiBlocks_exact`).
-/

namespace TruthFingerprint.OfflineTraining

open Chunks (chunk leftover)
open MarkedRuns (IsRun number)
open Python (Coercions FloatOps)

variable {F T : Type} [Coercions F] [LinearOrder T]

/-! ## `_select_hai_blocks` -/

structure HaiBlockCounts where
  normal : Nat
  attack : Nat
  droppedPartial : Nat
  labelResolutions : List TimeResolution
  selectedNormal : Nat
  selectedAttack : Nat
  phaseRankStart : Nat
  selectedIdentities : List Text

/-- The loop over the rows of a file to its end, with the names of the features -/
def haiScan (calendar : Calendar T) (corpus : HaiCorpus) (source : HaiSource) (sourceSha256 : Text)
    (blockRows : Nat) : Option (HaiScan F T × List Text) := do
  let header ← (corpus.rows source.observations).head?
  guard (header.head? = some (text "timestamp") ∧ 2 ≤ header.length)
  let labels := (source.labels.map corpus.rows).getD []
  guard (source.labels.isSome → labels.head? = some [text "timestamp", text "label"])
  let scan ← (corpus.rows source.observations).tail.foldlM
    (haiRow calendar source sourceSha256 header.length blockRows)
    ⟨labels.tail, [], [], 0, false, none, none, [], []⟩
  guard (scan.labels = [] ∧ scan.resolutions.length ≤ 1)
  some (scan, header.tail)

/-- The blocks that are selected of a file, the names of the features and the counts -/
def selectHaiFileBlocks (calendar : Calendar T) (corpus : HaiCorpus) (source : HaiSource)
    (sourceSha256 : Text) (blockRows : Nat) (seed : Int) (normalCap attackCap : Nat)
    (totalCap : Option Nat) (rankStart : Nat) :
    Option (List (AcademicUnit F) × List Text × HaiBlockCounts) := do
  let (scan, featureNames) ← haiScan calendar corpus source sourceSha256 blockRows
  let retained ← selectHaiBlocks seed scan.blocks normalCap attackCap totalCap rankStart
  some (retained, featureNames,
    { normal := scan.blocks.countP fun unit => unit.label = 0
      attack := scan.blocks.countP fun unit => unit.label = 1
      droppedPartial := scan.rows.length
      labelResolutions := scan.resolutions
      selectedNormal := retained.countP fun unit => unit.label = 0
      selectedAttack := retained.countP fun unit => unit.label = 1
      phaseRankStart := rankStart
      selectedIdentities := retained.map AcademicUnit.groupId })

/-- The loader of the corpus selects among the same blocks. -/
theorem haiBlocks_eq_haiScan (calendar : Calendar T) (corpus : HaiCorpus) (source : HaiSource)
    (sourceSha256 : Text) (blockRows : Nat) :
    haiBlocks (F := F) calendar corpus source sourceSha256 blockRows =
      (haiScan calendar corpus source sourceSha256 blockRows).map fun scanned =>
        (scanned.1.blocks, scanned.2) := by
  simp only [haiBlocks, haiScan, Option.bind_eq_bind, Option.map_bind, Function.comp_def,
    Option.map_some]

/-! ## Events -/

/-- The identifier of the event with a number -/
def eventId (source : HaiSource) (event : Nat) : Text :=
  source.observations ++ text ":event-" ++ zeroPadded 4 event

theorem natValue_zeroPadded (width n : Nat) : DecimalText.natValue (zeroPadded width n) = n := by
  have hzeros : ∀ (k : Nat) (t : Text),
      DecimalText.natValue (List.replicate k '0'.codePoint ++ t) = DecimalText.natValue t := by
    intro k t
    simp [DecimalText.natValue, Nat.ofDigits_append, List.reverse_replicate, DecimalText.digitValue,
      Char.codePoint]
  rw [zeroPadded, hzeros, DecimalText.natValue_natText]

theorem eventId_inj {source : HaiSource} {event event' : Nat}
    (h : eventId source event = eventId source event') : event = event' := by
  have hvalue := congrArg DecimalText.natValue (List.append_cancel_left h)
  rwa [natValue_zeroPadded, natValue_zeroPadded] at hvalue

/-! ## A row -/

section Row

variable {calendar : Calendar T} {source : HaiSource} {sourceSha256 : Text}
  {columns blockRows blockIndex : Nat}

omit [LinearOrder T] in
theorem fields_of_haiUnit {rows : Rows F} {events : List Text} {unit : AcademicUnit F}
    (h : haiUnit source sourceSha256 blockRows blockIndex rows events = some unit) :
    unit.values = rows ∧ unit.order = blockIndex * blockRows ∧
      unit.eventIds = events.insertionSort (· ≤ ·) := by
  simp only [haiUnit, Option.bind_eq_bind, Option.bind_eq_some_iff] at h
  obtain ⟨groupId, -, h⟩ := h
  by_cases hgroup : groupId ≠ []
  · rw [dif_pos hgroup] at h
    obtain rfl := Option.some.inj h
    exact ⟨rfl, Nat.cast_mul .., rfl⟩
  · rw [dif_neg hgroup] at h
    cases h

/-- What the label of an observation is, and what is left of the labels -/
def LabelStep (source : HaiSource) (attack : Bool) (labels rest : List (List Text)) : Prop :=
  match source.labels with
  | none => attack = false ∧ labels = rest
  | some _ => ∃ stamp value, labels = [stamp, value] :: rest ∧ attack = decide (value = text "1")

omit [Coercions F] in
theorem labelStep_of_haiAttack {observation : T} {scan scan' : HaiScan F T} {attack : Bool}
    (h : haiAttack calendar source observation scan = some (attack, scan')) :
    LabelStep source attack scan.labels scan'.labels ∧ scan'.rows = scan.rows ∧
      scan'.eventIndex = scan.eventIndex ∧ scan'.inAttack = scan.inAttack := by
  rw [LabelStep]
  cases hlabels : source.labels with
  | none =>
    rw [haiAttack, hlabels] at h
    obtain ⟨rfl, rfl⟩ := Prod.mk.inj (Option.some.inj h)
    exact ⟨⟨rfl, rfl⟩, rfl, rfl, rfl⟩
  | some labels =>
    rw [haiAttack, hlabels, if_pos Option.isSome_some, haiLabel] at h
    split at h
    · simp only [Option.bind_eq_bind, Option.bind_eq_some_iff, Option.some.injEq, Prod.mk.injEq] at h
      obtain ⟨_, -, _, -, _, -, _, -, rfl, rfl⟩ := h
      exact ⟨⟨_, _, ‹_›, rfl⟩, rfl, rfl, rfl⟩
    · cases h

/-- What a row does: it is added to those that wait, with its event when it is an attack, and they
are a block when they are enough. -/
structure RowStep (source : HaiSource) (sourceSha256 : Text) (blockRows : Nat) (row : Row F)
    (attack : Bool) (scan next : HaiScan F T) : Prop where
  labels : LabelStep source attack scan.labels next.labels
  inAttack : next.inAttack = attack
  eventIndex : next.eventIndex =
    if attack ∧ scan.inAttack ≠ true then scan.eventIndex + 1 else scan.eventIndex
  blocks : ∃ events, events =
      (if attack then scan.events.appendNew (eventId source next.eventIndex) else scan.events) ∧
    (scan.rows.length + 1 < blockRows ∧ next.rows = scan.rows ++ [row] ∧ next.events = events ∧
        next.blocks = scan.blocks ∨
      blockRows ≤ scan.rows.length + 1 ∧ next.rows = [] ∧ next.events = [] ∧
        ∃ unit, haiUnit source sourceSha256 blockRows scan.blocks.length (scan.rows ++ [row]) events =
            some unit ∧ next.blocks = scan.blocks ++ [unit])

theorem rowStep_of_haiRow {scan next : HaiScan F T} {row : List Text}
    (h : haiRow calendar source sourceSha256 columns blockRows scan row = some next) :
    ∃ values attack, haiValues row.tail = some values ∧
      RowStep source sourceSha256 blockRows values attack scan next := by
  simp only [haiRow, Option.bind_eq_bind, Option.bind_eq_some_iff] at h
  obtain ⟨_, -, values, hvalues, observation, -, _, -, ⟨attack, labelled⟩, hlabelled, h⟩ := h
  obtain ⟨hblocks, hevents, -⟩ := haiAttack_frame hlabelled
  obtain ⟨hlabels, hrows, hindex, hin⟩ := labelStep_of_haiAttack hlabelled
  simp only at hblocks hevents hlabels hrows hindex hin
  have hcount : (if (attack && !labelled.inAttack) = true then labelled.eventIndex + 1
      else labelled.eventIndex) =
        if attack ∧ scan.inAttack ≠ true then scan.eventIndex + 1 else scan.eventIndex := by
    rw [hin, hindex]
    simp only [Bool.and_eq_true, Bool.not_eq_true', ne_eq, Bool.not_eq_true]
  simp only [hcount] at h
  refine ⟨values, attack, hvalues, ?_⟩
  by_cases hshort : (labelled.rows ++ [values]).length < blockRows
  · rw [if_pos hshort] at h
    obtain rfl := Option.some.inj h
    rw [hrows, List.length_append, List.length_singleton] at hshort
    exact ⟨hlabels, rfl, rfl, _, rfl, .inl ⟨hshort, by rw [hrows], by rw [hevents]; rfl, hblocks⟩⟩
  · rw [if_neg hshort] at h
    obtain ⟨unit, hunit, h⟩ := Option.bind_eq_some_iff.mp h
    obtain rfl := Option.some.inj h
    rw [hrows, List.length_append, List.length_singleton, not_lt] at hshort
    rw [hblocks, hrows, hevents] at hunit
    exact ⟨hlabels, rfl, rfl, _, rfl, .inr ⟨hshort, rfl, rfl, unit, hunit, by rw [hblocks]⟩⟩

end Row

/-! ## The state of the loop -/

section Scan

variable {source : HaiSource} {sourceSha256 : Text} {blockRows first last : Nat} {marks : List Bool}
  {events : List Text}

/-- The events of the attacks in an interval of the rows -/
structure EventsOf (source : HaiSource) (marks : List Bool) (first last : Nat) (events : List Text) :
    Prop where
  nodup : events.Nodup
  mem : ∀ id, id ∈ events ↔
    ∃ i, first ≤ i ∧ i < last ∧ marks[i]? = some true ∧ id = eventId source (number marks i)

theorem EventsOf.nil (source : HaiSource) (marks : List Bool) (first : Nat) :
    EventsOf source marks first first [] :=
  ⟨List.nodup_nil, fun _ => iff_of_false List.not_mem_nil (by omega)⟩

theorem EventsOf.append (h : EventsOf source marks first last events) (hlast : last ≤ marks.length)
    (more : List Bool) : EventsOf source (marks ++ more) first last events where
  nodup := h.nodup
  mem id := by
    rw [h.mem]
    refine exists_congr fun i => and_congr_right fun _ => and_congr_right fun hi => ?_
    rw [List.getElem?_append_left (by omega), MarkedRuns.number_append (by omega)]

theorem EventsOf.perm {events' : List Text} (h : EventsOf source marks first last events)
    (hperm : events'.Perm events) : EventsOf source marks first last events' where
  nodup := hperm.nodup_iff.mpr h.nodup
  mem id := hperm.mem_iff.trans (h.mem id)

theorem EventsOf.eq_nil_iff (h : EventsOf source marks first last events) :
    events = [] ↔ ¬∃ i, first ≤ i ∧ i < last ∧ marks[i]? = some true := by
  rw [List.eq_nil_iff_forall_not_mem]
  constructor
  · rintro hnone ⟨i, hfirst, hlast, hmark⟩
    exact hnone _ ((h.mem _).mpr ⟨i, hfirst, hlast, hmark, rfl⟩)
  · intro hnone id hid
    obtain ⟨i, hfirst, hlast, hmark, -⟩ := (h.mem id).mp hid
    exact hnone ⟨i, hfirst, hlast, hmark⟩

theorem nodup_appendNew {events : List Text} (h : events.Nodup) (id : Text) :
    (events.appendNew id).Nodup := by
  rw [List.appendNew]
  split_ifs with hmem
  · exact h
  · exact List.nodup_append.mpr ⟨h, List.nodup_singleton id,
      fun a ha b hb => by rw [List.mem_singleton.mp hb]; exact fun heq => hmem (heq ▸ ha)⟩

theorem mem_appendNew {events : List Text} {id id' : Text} :
    id' ∈ events.appendNew id ↔ id' ∈ events ∨ id' = id := by
  rw [List.appendNew]
  split_ifs with hmem
  · exact ⟨.inl, fun h => h.elim (fun hold => hold) fun heq => heq ▸ hmem⟩
  · rw [List.mem_append, List.mem_singleton]

/-- The next row is numbered by the runs so far. -/
theorem EventsOf.concat (h : EventsOf source marks first marks.length events)
    (hfirst : first ≤ marks.length) (attack : Bool) :
    EventsOf source (marks ++ [attack]) first (marks.length + 1)
      (if attack then events.appendNew (eventId source (MarkedRuns.count (marks ++ [attack])))
        else events) := by
  have hold := h.append le_rfl [attack]
  constructor
  case nodup =>
    split_ifs
    · exact nodup_appendNew h.nodup _
    · exact h.nodup
  case mem =>
    intro id
    have hlast : (∃ i, first ≤ i ∧ i < marks.length + 1 ∧ (marks ++ [attack])[i]? = some true ∧
        id = eventId source (number (marks ++ [attack]) i)) ↔ id ∈ events ∨
          (attack = true ∧ id = eventId source (MarkedRuns.count (marks ++ [attack]))) := by
      rw [hold.mem]
      constructor
      · rintro ⟨i, hi, hilast, hmark, hid⟩
        rcases Nat.lt_or_ge i marks.length with hlt | hge
        · exact .inl ⟨i, hi, hlt, hmark, hid⟩
        · obtain rfl : i = marks.length := by omega
          rw [List.getElem?_concat_length, Option.some_inj] at hmark
          rw [MarkedRuns.number_length] at hid
          exact .inr ⟨hmark, hid⟩
      · rintro (⟨i, hi, hilast, hmark, hid⟩ | ⟨rfl, hid⟩)
        · exact ⟨i, hi, by omega, hmark, hid⟩
        · refine ⟨marks.length, hfirst, by omega, List.getElem?_concat_length, ?_⟩
          rw [MarkedRuns.number_length]
          exact hid
    rw [hlast]
    cases attack with
    | true => rw [if_pos rfl, mem_appendNew, eq_self, true_and]
    | false => simp

/-- The events of an interval are those of the runs that meet it. -/
theorem EventsOf.mem_iff_runs (h : EventsOf source marks first last events) (id : Text) :
    id ∈ events ↔ ∃ start stop, IsRun marks start stop ∧ start < last ∧ first < stop ∧
      first < last ∧ id = eventId source (number marks start) := by
  rw [h.mem]
  constructor
  · rintro ⟨i, hfirst, hlast, hmark, rfl⟩
    obtain ⟨start, stop, hrun, hstart, hstop, hnumber⟩ := MarkedRuns.exists_run hmark
    exact ⟨start, stop, hrun, by omega, by omega, by omega, by rw [hnumber]⟩
  · rintro ⟨start, stop, hrun, hstart, hstop, hlt, rfl⟩
    have hmax : max start first < stop := max_lt hrun.lt hstop
    exact ⟨max start first, le_max_right _ _, max_lt hstart hlt,
      hrun.marked _ (le_max_left _ _) hmax, by rw [hrun.number_eq (le_max_left _ _) hmax]⟩

/-- A block with its rows, and the attacks and events in them -/
structure BlockTruth (source : HaiSource) (blockRows : Nat) (values : Rows F) (marks : List Bool)
    (k : Nat) (unit : AcademicUnit F) : Prop where
  rows : unit.values = chunk blockRows values k
  order : unit.order = k * blockRows
  label : unit.label = 1 ↔
    ∃ i, k * blockRows ≤ i ∧ i < (k + 1) * blockRows ∧ marks[i]? = some true
  events : EventsOf source marks (k * blockRows) ((k + 1) * blockRows) unit.eventIds

omit [Coercions F] in
theorem BlockTruth.append {values : Rows F} {k : Nat} {unit : AcademicUnit F}
    (h : BlockTruth source blockRows values marks k unit) (hk : k < values.length / blockRows)
    (hlength : marks.length = values.length) (row : Row F) (attack : Bool) :
    BlockTruth source blockRows (values ++ [row]) (marks ++ [attack]) k unit := by
  have hfit : (k + 1) * blockRows ≤ marks.length :=
    hlength ▸ (Nat.mul_le_mul_right _ hk).trans (Nat.div_mul_le_self _ _)
  constructor
  case rows => rw [h.rows, Chunks.chunk_append hk]
  case order => exact h.order
  case label =>
    rw [h.label]
    refine exists_congr fun i => and_congr_right fun _ => and_congr_right fun hi => ?_
    rw [List.getElem?_append_left (by omega)]
  case events => exact h.events.append hfit _

theorem blockTruth_of_haiUnit {values rows : Rows F} {k : Nat} {unit : AcademicUnit F}
    (h : haiUnit source sourceSha256 blockRows k rows events = some unit)
    (hrows : rows = chunk blockRows values k)
    (hevents : EventsOf source marks (k * blockRows) ((k + 1) * blockRows) events) :
    BlockTruth source blockRows values marks k unit := by
  obtain ⟨hvalues, horder, hids⟩ := fields_of_haiUnit h
  obtain ⟨-, hlabel⟩ := haiUnit_eq_some h
  constructor
  case rows => rw [hvalues, hrows]
  case order => exact horder
  case label =>
    rw [hlabel, ← not_iff_not, ← hevents.eq_nil_iff]
    split_ifs with hempty
    · simp [hempty]
    · simp [hempty]
  case events => exact hids ▸ hevents.perm (List.perm_insertionSort _ _)

/-- The state of the loop after rows with these values and marks -/
structure BlockScan (source : HaiSource) (blockRows : Nat) (values : Rows F) (marks : List Bool)
    (scan : HaiScan F T) : Prop where
  length : marks.length = values.length
  rows : scan.rows = leftover blockRows values
  eventIndex : scan.eventIndex = MarkedRuns.count marks
  inAttack : scan.inAttack = true ↔ marks.getLast? = some true
  events : EventsOf source marks (scan.blocks.length * blockRows) marks.length scan.events
  size : scan.blocks.length = values.length / blockRows
  blocks : ∀ k unit, scan.blocks[k]? = some unit →
    BlockTruth source blockRows values marks k unit

omit [LinearOrder T] in
/-- A row keeps the state of the loop. -/
theorem BlockScan.row {values : Rows F} {row : Row F} {attack : Bool} {scan next : HaiScan F T}
    (hpos : 0 < blockRows) (h : BlockScan source blockRows values marks scan)
    (hstep : RowStep source sourceSha256 blockRows row attack scan next) :
    BlockScan source blockRows (values ++ [row]) (marks ++ [attack]) next := by
  have hwaiting : scan.rows.length = values.length % blockRows := by
    rw [h.rows, Chunks.length_leftover]
  have hmod := Nat.mod_lt values.length hpos
  have hdiv := Nat.div_add_mod' values.length blockRows
  have hstart : scan.blocks.length * blockRows ≤ marks.length := by
    rw [h.size, h.length]
    exact Nat.div_mul_le_self _ _
  have hsizes : (marks ++ [attack]).length = marks.length + 1 := by
    rw [List.length_append, List.length_singleton]
  have hindex : next.eventIndex = MarkedRuns.count (marks ++ [attack]) := by
    rw [hstep.eventIndex, MarkedRuns.count_concat, h.eventIndex]
    exact if_congr (and_congr_right fun _ => not_congr h.inAttack) rfl rfl
  have hin : next.inAttack = true ↔ (marks ++ [attack]).getLast? = some true := by
    rw [hstep.inAttack, List.getLast?_concat, Option.some_inj]
  have holdBlocks : ∀ k unit, scan.blocks[k]? = some unit →
      BlockTruth source blockRows (values ++ [row]) (marks ++ [attack]) k unit := by
    intro k unit hunit
    obtain ⟨hk, -⟩ := List.getElem?_eq_some_iff.mp hunit
    exact (h.blocks k unit hunit).append (h.size ▸ hk) h.length row attack
  obtain ⟨events, hevents, hcases⟩ := hstep.blocks
  have hall := h.events.concat hstart attack
  rw [← hindex, ← hevents] at hall
  rcases hcases with ⟨hshort, hrows, hnext, hblocks⟩ | ⟨hfull, hrows, hnext, unit, hunit, hblocks⟩
  · have hmore : (leftover blockRows values).length + 1 ≠ blockRows := by
      rw [Chunks.length_leftover]
      omega
    constructor
    case length => rw [hsizes, h.length, List.length_append, List.length_singleton]
    case rows => rw [hrows, h.rows, Chunks.leftover_concat hpos, if_neg hmore]
    case eventIndex => exact hindex
    case inAttack => exact hin
    case events => rw [hnext, hblocks, hsizes]; exact hall
    case size =>
      rw [hblocks, h.size, List.length_append, List.length_singleton, Chunks.succ_div hpos,
        if_neg (by omega)]
    case blocks => rw [hblocks]; exact holdBlocks
  · have hmore : (leftover blockRows values).length + 1 = blockRows := by
      rw [Chunks.length_leftover]
      omega
    have hend : marks.length + 1 = (scan.blocks.length + 1) * blockRows := by
      rw [h.length, h.size, Nat.succ_mul]
      omega
    have hlast : chunk blockRows (values ++ [row]) scan.blocks.length = scan.rows ++ [row] := by
      rw [h.size, h.rows, Chunks.chunk_concat values row hmore]
    constructor
    case length => rw [hsizes, h.length, List.length_append, List.length_singleton]
    case rows => rw [hrows, Chunks.leftover_concat hpos, if_pos hmore]
    case eventIndex => exact hindex
    case inAttack => exact hin
    case events =>
      rw [hnext, hblocks, hsizes, List.length_append, List.length_singleton, hend]
      exact .nil source _ _
    case size =>
      rw [hblocks, List.length_append, List.length_singleton, List.length_append,
        List.length_singleton, Chunks.succ_div hpos, if_pos (by omega), h.size]
    case blocks =>
      intro k other hother
      rw [hblocks, List.getElem?_append] at hother
      split_ifs at hother with hk
      · exact holdBlocks k other hother
      · rw [List.getElem?_singleton] at hother
        split_ifs at hother
        obtain rfl := Option.some.inj hother
        obtain rfl : k = scan.blocks.length := by omega
        exact blockTruth_of_haiUnit hunit hlast.symm (hend ▸ hall)

/-- A row of labels for an attack -/
def isAttackRow (row : List Text) : Bool := row[1]? = some (text "1")

/-- The labels that have been read of a file -/
def LabelsTaken (source : HaiSource) (labelRows : List (List Text)) (marks : List Bool)
    (rest : List (List Text)) : Prop :=
  match source.labels with
  | none => marks = List.replicate marks.length false
  | some _ => ∃ taken, labelRows = taken ++ rest ∧ marks = taken.map isAttackRow

theorem LabelsTaken.step {labelRows labels rest : List (List Text)} {attack : Bool}
    (h : LabelsTaken source labelRows marks labels) (hstep : LabelStep source attack labels rest) :
    LabelsTaken source labelRows (marks ++ [attack]) rest := by
  rw [LabelsTaken] at h ⊢
  rw [LabelStep] at hstep
  cases hlabels : source.labels with
  | none =>
    simp only [hlabels] at h hstep ⊢
    rw [hstep.1, List.length_append, List.length_singleton, List.replicate_succ', ← h]
  | some file =>
    simp only [hlabels] at h hstep ⊢
    obtain ⟨taken, htaken, hmarks⟩ := h
    obtain ⟨stamp, value, rfl, rfl⟩ := hstep
    refine ⟨taken ++ [[stamp, value]], by rw [htaken, List.append_assoc, List.singleton_append], ?_⟩
    rw [hmarks, List.map_append, List.map_singleton, isAttackRow, List.getElem?_cons_succ,
      List.getElem?_cons_zero]
    simp only [Option.some_inj]

/-- The state of the loop after rows of a file -/
def FileScan (source : HaiSource) (blockRows : Nat) (labelRows : List (List Text))
    (done : List (List Text)) (scan : HaiScan F T) : Prop :=
  ∃ values marks, List.Forall₂ (fun row value => haiValues row.tail = some value) done values ∧
    LabelsTaken source labelRows marks scan.labels ∧ BlockScan source blockRows values marks scan

omit [LinearOrder T] in
theorem fileScan_nil (source : HaiSource) (blockRows : Nat) (labelRows : List (List Text)) :
    FileScan (F := F) source blockRows labelRows []
      (⟨labelRows, [], [], 0, false, none, none, [], []⟩ : HaiScan F T) := by
  refine ⟨[], [], .nil, ?_, ?_⟩
  · rw [LabelsTaken]
    cases source.labels with
    | none => rfl
    | some _ => exact ⟨[], rfl, rfl⟩
  · constructor
    case length => rfl
    case rows => rw [Chunks.leftover_nil]
    case eventIndex => rfl
    case inAttack => simp
    case events => simpa using EventsOf.nil source [] 0
    case size => simp
    case blocks => intro k unit hunit; simp at hunit

theorem FileScan.row {calendar : Calendar T} {columns : Nat} {labelRows done : List (List Text)}
    {row : List Text} {scan next : HaiScan F T} (hpos : 0 < blockRows)
    (h : FileScan source blockRows labelRows done scan)
    (hrow : haiRow calendar source sourceSha256 columns blockRows scan row = some next) :
    FileScan source blockRows labelRows (done ++ [row]) next := by
  obtain ⟨values, marks, hvalues, hlabels, hscan⟩ := h
  obtain ⟨value, attack, hvalue, hstep⟩ := rowStep_of_haiRow hrow
  exact ⟨values ++ [value], marks ++ [attack], List.rel_append hvalues (.cons hvalue .nil),
    hlabels.step hstep.labels, hscan.row hpos hstep⟩

end Scan

/-! ## A file -/

section File

variable {calendar : Calendar T} {corpus : HaiCorpus} {source : HaiSource} {sourceSha256 : Text}
  {blockRows : Nat}

/-- Which rows of a file are labelled as attacks -/
def attackMarks (corpus : HaiCorpus) (source : HaiSource) : List Bool :=
  match source.labels with
  | none => (corpus.rows source.observations).tail.map fun _ => false
  | some labels => (corpus.rows labels).tail.map isAttackRow

theorem blockScan_of_haiScan {scan : HaiScan F T} {names : List Text} (hpos : 0 < blockRows)
    (h : haiScan calendar corpus source sourceSha256 blockRows = some (scan, names)) :
    ∃ values, List.Forall₂ (fun row value => haiValues row.tail = some value)
        (corpus.rows source.observations).tail values ∧
      BlockScan source blockRows values (attackMarks corpus source) scan := by
  simp only [haiScan, Option.bind_eq_bind, Option.bind_eq_some_iff, Option.some.injEq,
    Prod.mk.injEq, Option.guard_eq_some'] at h
  obtain ⟨header, -, _, -, _, -, scanned, hscanned, _, ⟨hlabels, -⟩, rfl, -⟩ := h
  obtain ⟨values, marks, hvalues, htaken, hscan⟩ := @BreakLoop.foldlM_done _ _ _ _ _ _ []
    (FileScan source blockRows _) (fun _ _ _ _ hdone hrow => hdone.row hpos hrow)
    (fileScan_nil source blockRows _) hscanned
  refine ⟨values, hvalues, ?_⟩
  have hmarks : marks = attackMarks corpus source := by
    rw [LabelsTaken] at htaken
    rw [attackMarks]
    cases hsource : source.labels with
    | none =>
      simp only [hsource] at htaken ⊢
      rw [htaken, List.map_const', hscan.length, ← hvalues.length_eq]
      rfl
    | some labels =>
      simp only [hsource] at htaken ⊢
      obtain ⟨taken, hrows, rfl⟩ := htaken
      rw [hlabels, List.append_nil] at hrows
      rw [← hrows]
      rfl
  exact hmarks ▸ hscan

omit [Coercions F] in
theorem offerBlocks_zero (seed : Int) (blocks : List (AcademicUnit F)) (rankStart : Nat) :
    offerBlocks seed blocks 0 rankStart = blocks := by
  rw [offerBlocks, if_pos rfl, foldl_priorityReservoirAdd_zero, List.nil_append]

omit [Coercions F] in
theorem perm_of_prioritySlice_zero {seed : Int} {blocks selected : List (AcademicUnit F)}
    {rankStart : Nat} (h : prioritySlice seed blocks 0 rankStart = some selected) :
    selected.Perm blocks := by
  simp only [prioritySlice, and_true, ↓reduceIte] at h
  split_ifs at h
  exact Option.some.inj h ▸ List.perm_insertionSort _ _

omit [Coercions F] in
theorem perm_of_retainLabel_zero {seed : Int} {blocks retained : List (AcademicUnit F)}
    {label : Fin 2} {rankStart : Nat} (h : retainLabel seed blocks label 0 rankStart = some retained) :
    retained.Perm (blocks.filter fun unit => unit.label = label) := by
  simp only [retainLabel, offerBlocks_zero, and_true] at h
  split_ifs at h with hempty
  · rw [← Option.some.inj h, hempty]
  · exact perm_of_prioritySlice_zero h

/-- The caps are zero. -/
def Uncapped (normalCap attackCap : Nat) (totalCap : Option Nat) : Prop :=
  totalCap = some 0 ∨ totalCap = none ∧ normalCap = 0 ∧ attackCap = 0

omit [Coercions F] in
/-- Without a cap all blocks are selected, sorted by their first rows. -/
theorem selectHaiBlocks_uncapped {seed : Int} {blocks selected : List (AcademicUnit F)}
    {normalCap attackCap rankStart : Nat} {totalCap : Option Nat}
    (hcaps : Uncapped normalCap attackCap totalCap)
    (hsorted : blocks.Pairwise (AcademicUnit.order · < AcademicUnit.order ·))
    (h : selectHaiBlocks seed blocks normalCap attackCap totalCap rankStart = some selected) :
    selected = blocks := by
  simp only [selectHaiBlocks, Option.bind_eq_bind, Option.bind_eq_some_iff, Option.some.injEq] at h
  obtain ⟨_, -, kept, hkept, rfl⟩ := h
  have hperm : kept.Perm blocks := by
    rcases hcaps with rfl | ⟨rfl, rfl, rfl⟩
    · rw [retainBlocks, offerBlocks_zero] at hkept
      exact perm_of_prioritySlice_zero hkept
    · simp only [retainBlocks, Option.bind_eq_bind, Option.bind_eq_some_iff, Option.some.injEq]
        at hkept
      obtain ⟨normal, hnormal, attack, hattack, rfl⟩ := hkept
      refine ((perm_of_retainLabel_zero hnormal).append (perm_of_retainLabel_zero hattack)).trans ?_
      have hother : (blocks.filter fun unit => unit.label = 1) =
          blocks.filter fun unit => !decide (unit.label = 0) :=
        List.filter_congr fun unit _ => by
          generalize unit.label = label
          revert label
          decide
      rw [hother]
      exact List.filter_append_perm _ blocks
  have hnodup : (blocks.map AcademicUnit.order).Nodup :=
    List.pairwise_map.mpr (hsorted.imp fun hlt => hlt.ne)
  refine List.Perm.eq_of_pairwise (fun a b ha hb hab hba => ?_)
    (List.pairwise_ranked AcademicUnit.order kept) (hsorted.imp le_of_lt)
    ((List.perm_ranked AcademicUnit.order kept).trans hperm)
  have ha := hperm.subset ((List.mem_ranked AcademicUnit.order).mp ha)
  exact List.inj_on_of_nodup_map hnodup ha hb (le_antisymm hab hba)

/-- The blocks are the complete groups of rows of a file in their order, with the attacks and the
events in them. -/
structure ExactBlocks (source : HaiSource) (blockRows : Nat) (values : Rows F) (marks : List Bool)
    (units : List (AcademicUnit F)) : Prop where
  length : units.length = values.length / blockRows
  rows : ∀ (k : ℕ) unit, units[k]? = some unit →
    unit.values = chunk blockRows values k ∧ unit.order = k * blockRows
  label : ∀ (k : ℕ) unit, units[k]? = some unit → (unit.label = 1 ↔
    ∃ i, k * blockRows ≤ i ∧ i < (k + 1) * blockRows ∧ marks[i]? = some true)
  nodup : ∀ unit ∈ units, unit.eventIds.Nodup
  events : ∀ (k : ℕ) unit, units[k]? = some unit → ∀ id, id ∈ unit.eventIds ↔
    ∃ start stop, IsRun marks start stop ∧ start < (k + 1) * blockRows ∧ k * blockRows < stop ∧
      id = eventId source (number marks start)

end File

/-- A file with labels, of the corpus with two rows in each file -/
def sampleHaiSource : HaiSource :=
  ⟨text "hai-test1.csv", some (text "label-test1.csv"), text "test1", .test⟩

end TruthFingerprint.OfflineTraining
