import Mathlib
import TruthFingerprint.OfflineTraining.Hai2305
import TruthFingerprint.OfflineTraining.PhaseSlices

/-!
# Slices of HAI 23.05

What the reservoirs of the files retain has the first blocks of each partition (`HasFirst`), whatever
the caps are: a partition without a total cap has no attacks. So the phases rank the blocks of a
partition alike, and each takes those whose rank is in its interval.
-/

namespace TruthFingerprint.OfflineTraining

open List (HasFirst rankIn ranked slice)
open Python (Coercions FloatOps Members Value mapping)

variable {F T : Type} [Coercions F] [LinearOrder T] {config : Members F}

/-! ## The blocks of a file -/

section Blocks

variable {calendar : Calendar T} {source : HaiSource} {sourceSha256 : Text}
  {columns blockRows blockIndex : Nat}

omit [LinearOrder T] in
theorem haiUnit_eq_some {rows : Rows F} {events : List Text} {unit : AcademicUnit F}
    (h : haiUnit source sourceSha256 blockRows blockIndex rows events = some unit) :
    unit.unitId = haiUnitId source.observations (blockIndex * blockRows) blockRows ∧
      unit.label = if events = [] then 0 else 1 := by
  simp only [haiUnit, Option.bind_eq_bind, Option.bind_eq_some_iff] at h
  obtain ⟨groupId, -, h⟩ := h
  by_cases hgroup : groupId ≠ []
  · rw [dif_pos hgroup] at h
    obtain rfl := Option.some.inj h
    exact ⟨rfl, rfl⟩
  · rw [dif_neg hgroup] at h
    cases h

omit [Coercions F] in
theorem haiLabel_frame {observation : T} {scan scan' : HaiScan F T} {attack : Bool}
    (h : haiLabel calendar observation scan = some (attack, scan')) :
    scan'.blocks = scan.blocks ∧ scan'.events = scan.events := by
  unfold haiLabel at h
  split at h
  · simp only [Option.bind_eq_bind, Option.bind_eq_some_iff, Option.some.injEq, Prod.mk.injEq] at h
    obtain ⟨_, -, _, -, _, -, _, -, -, rfl⟩ := h
    exact ⟨rfl, rfl⟩
  · cases h

omit [Coercions F] in
theorem haiAttack_frame {observation : T} {scan scan' : HaiScan F T} {attack : Bool}
    (h : haiAttack calendar source observation scan = some (attack, scan')) :
    scan'.blocks = scan.blocks ∧ scan'.events = scan.events ∧
      (source.labels = none → attack = false) := by
  unfold haiAttack at h
  split_ifs at h with hsome
  · obtain ⟨hblocks, hevents⟩ := haiLabel_frame h
    exact ⟨hblocks, hevents, fun hnone => by simp [hnone] at hsome⟩
  · cases h
    exact ⟨rfl, rfl, fun _ => rfl⟩

/-- A row may end a block, and only an attack has an event. -/
theorem haiRow_eq_some {scan next : HaiScan F T} {row : List Text}
    (h : haiRow calendar source sourceSha256 columns blockRows scan row = some next) :
    ∃ events, (source.labels = none → events = scan.events) ∧
      (next.blocks = scan.blocks ∧ next.events = events ∨
        ∃ rows unit, haiUnit source sourceSha256 blockRows scan.blocks.length rows events = some unit ∧
          next.blocks = scan.blocks ++ [unit] ∧ next.events = []) := by
  simp only [haiRow, Option.bind_eq_bind, Option.bind_eq_some_iff] at h
  obtain ⟨_, -, values, -, observation, -, _, -, labelled, hlabelled, h⟩ := h
  obtain ⟨hblocks, hevents, hattack⟩ := haiAttack_frame hlabelled
  by_cases hshort : (labelled.2.rows ++ [values]).length < blockRows
  · rw [if_pos hshort] at h
    cases h
    exact ⟨_, fun hnone => by rw [hattack hnone]; exact hevents, .inl ⟨hblocks, rfl⟩⟩
  · rw [if_neg hshort] at h
    obtain ⟨unit, hunit, h⟩ := Option.bind_eq_some_iff.mp h
    cases h
    rw [hblocks] at hunit
    exact ⟨_, fun hnone => by rw [hattack hnone]; exact hevents,
      .inr ⟨_, unit, hunit, by rw [hblocks], rfl⟩⟩

/-- The blocks so far are numbered, and without labels none of them is an attack. -/
structure Numbered (source : HaiSource) (blockRows : Nat) (scan : HaiScan F T) : Prop where
  ids : scan.blocks.map AcademicUnit.unitId = (List.range scan.blocks.length).map fun i =>
    haiUnitId source.observations (i * blockRows) blockRows
  events : source.labels = none → scan.events = []
  normal : source.labels = none → ∀ unit ∈ scan.blocks, unit.label = 0

theorem Numbered.row {scan next : HaiScan F T} {row : List Text} (h : Numbered source blockRows scan)
    (hnext : haiRow calendar source sourceSha256 columns blockRows scan row = some next) :
    Numbered source blockRows next := by
  obtain ⟨events, hevents, ⟨hblocks, hnextEvents⟩ | ⟨rows, unit, hunit, hblocks, hnextEvents⟩⟩ :=
    haiRow_eq_some hnext
  · refine ⟨?_, fun hnone => ?_, fun hnone => ?_⟩
    · rw [hblocks]
      exact h.ids
    · rw [hnextEvents, hevents hnone]
      exact h.events hnone
    · rw [hblocks]
      exact h.normal hnone
  · obtain ⟨hid, hlabel⟩ := haiUnit_eq_some hunit
    refine ⟨?_, fun _ => hnextEvents, fun hnone => ?_⟩
    · rw [hblocks, List.map_append, h.ids, List.length_append, List.length_singleton,
        List.range_succ, List.map_append, List.map_singleton, List.map_singleton, hid]
    · have hempty : events = [] := (hevents hnone).trans (h.events hnone)
      rw [hblocks]
      intro other hother
      rcases List.mem_append.mp hother with hother | hother
      · exact h.normal hnone other hother
      · rw [List.mem_singleton.mp hother, hlabel, if_pos hempty]

/-- What the blocks of a file are -/
structure BlocksOf (source : HaiSource) (blockRows : Nat) (blocks : List (AcademicUnit F)) : Prop where
  ids : blocks.map AcademicUnit.unitId = (List.range blocks.length).map fun i =>
    haiUnitId source.observations (i * blockRows) blockRows
  normal : source.labels = none → ∀ unit ∈ blocks, unit.label = 0

theorem blocksOf_haiBlocks {corpus : HaiCorpus} {blocks : List (AcademicUnit F) × List Text}
    (h : haiBlocks calendar corpus source sourceSha256 blockRows = some blocks) :
    BlocksOf source blockRows blocks.1 := by
  simp only [haiBlocks, Option.bind_eq_bind, Option.bind_eq_some_iff, Option.some.injEq] at h
  obtain ⟨header, -, _, -, _, -, scan, hscan, _, -, rfl⟩ := h
  have hnumbered : Numbered source blockRows scan :=
    BreakLoop.foldlM_invariant (Numbered source blockRows)
      (fun _ _ _ _ hgood hnext => hgood.row hnext) ⟨rfl, fun _ => rfl, by simp⟩ hscan
  exact ⟨hnumbered.ids, hnumbered.normal⟩

end Blocks

/-! ## Identifiers -/

theorem natValue_nineDigits (n : Nat) : DecimalText.natValue (nineDigits n) = n := by
  have hzeros : ∀ (k : Nat) (t : Text),
      DecimalText.natValue (List.replicate k '0'.codePoint ++ t) = DecimalText.natValue t := by
    intro k t
    simp [DecimalText.natValue, Nat.ofDigits_append, List.reverse_replicate, DecimalText.digitValue,
      Char.codePoint]
  rw [nineDigits, hzeros, DecimalText.natValue_natText]

theorem not_mem_nineDigits (n : Nat) : '-'.codePoint ∉ nineDigits n := by
  have hdigits : ∀ c ∈ nineDigits n, JsonText.isDigit c := by
    intro c hc
    rcases List.mem_append.mp hc with hc | hc
    · rw [List.eq_of_mem_replicate hc]
      decide
    · have hall := DecimalText.isNatText_natText n
      cases htext : DecimalText.natText n with
      | nil => simp [htext] at hc
      | cons d rest =>
        rw [htext] at hall hc
        simp only [DecimalText.isNatText, Bool.and_eq_true, List.all_eq_true] at hall
        exact hall.1 c hc
  intro hmem
  exact absurd (hdigits _ hmem) (by decide)

/-- An identifier tells its file and its first row. -/
theorem haiUnitId_inj {observations observations' : Text} {start start' blockRows : Nat}
    (h : ':'.codePoint ∉ observations) (h' : ':'.codePoint ∉ observations')
    (heq : haiUnitId observations start blockRows = haiUnitId observations' start' blockRows) :
    observations = observations' ∧ start = start' := by
  have hrows : ∀ observations start, haiUnitId observations start blockRows =
      text "hai-23.05:" ++ (observations ++ ':'.codePoint :: (text "rows-" ++
        (nineDigits start ++ '-'.codePoint :: nineDigits (start + blockRows - 1)))) := by
    intro observations start
    simp [haiUnitId, text, List.append_assoc]
  rw [hrows, hrows] at heq
  obtain ⟨hobservations, hrest⟩ := append_separator_inj h h' (List.append_cancel_left heq)
  obtain ⟨hstart, -⟩ := append_separator_inj (not_mem_nineDigits start) (not_mem_nineDigits start')
    (List.append_cancel_left hrest)
  have hvalue := congrArg DecimalText.natValue hstart
  rw [natValue_nineDigits, natValue_nineDigits] at hvalue
  exact ⟨hobservations, hvalue⟩

theorem observations_free : ∀ source ∈ haiSources, ':'.codePoint ∉ source.observations := by
  simp [haiSources, text, Char.codePoint]

theorem nodup_observations : (haiSources.map HaiSource.observations).Nodup := by decide

omit [Coercions F] [LinearOrder T] in
/-- The blocks of a file are told apart by their identifiers. -/
theorem BlocksOf.nodup {source : HaiSource} {blockRows : Nat} {blocks : List (AcademicUnit F)}
    (h : BlocksOf source blockRows blocks) (hsource : source ∈ haiSources) (hrows : 0 < blockRows) :
    (blocks.map AcademicUnit.unitId).Nodup := by
  rw [h.ids]
  refine List.nodup_range.map fun i j hij => ?_
  have hfree := observations_free source hsource
  exact Nat.eq_of_mul_eq_mul_right hrows (haiUnitId_inj hfree hfree hij).2

/-! ## What a file retains -/

section Retained

variable {seed : Int} {blocks retained : List (AcademicUnit F)} {cap : Nat}

omit [Coercions F] [LinearOrder T] in
/-- The reservoir of a positive cap keeps the first blocks. -/
theorem hasFirst_offerBlocks (hnodup : (blocks.map (unitPriority seed)).Nodup) (hcap : cap ≠ 0)
    (h : prioritySlice seed (offerBlocks seed blocks cap 0) cap 0 = some retained) :
    HasFirst (unitPriority seed) cap retained blocks := by
  have hheap : (offerBlocks seed blocks cap 0).Perm ((ranked (unitPriority seed) blocks).take cap) := by
    have hperm := perm_foldl_priorityReservoirAdd cap hnodup
    rw [if_neg hcap] at hperm
    rw [offerBlocks, if_neg hcap]
    exact hperm
  have hlength : (rankUnits seed (offerBlocks seed blocks cap 0)).length ≤ cap := by
    rw [rankUnits, List.length_insertionSort, hheap.length_eq]
    exact List.length_take_le _ _
  have hretained : retained.Perm ((ranked (unitPriority seed) blocks).take cap) := by
    simp only [prioritySlice, ne_eq, not_true_eq_false, false_and, if_false, hcap] at h
    rw [← Option.some.inj h, slice, List.drop_zero, List.take_of_length_le hlength]
    exact (List.perm_insertionSort _ _).trans hheap
  have hsub := List.take_sublist cap (ranked (unitPriority seed) blocks)
  have hranked := ((List.perm_ranked (unitPriority seed) blocks).map (unitPriority seed)).nodup_iff.mpr
    hnodup
  exact HasFirst.of_perm _ ⟨fun _ ha => (List.mem_ranked _).mp (hsub.subset ha),
    hranked.sublist (hsub.map _), fun a ha hrank => (List.mem_take_ranked _ hnodup).mpr ⟨ha, hrank⟩⟩
    hretained

omit [Coercions F] in
theorem filter_label_normal (h : ∀ unit ∈ blocks, unit.label = 0) :
    (blocks.filter fun unit => unit.label = 0) = blocks ∧
      (blocks.filter fun unit => unit.label = 1) = [] := by
  constructor
  · exact List.filter_eq_self.mpr fun unit hunit => by simp [h unit hunit]
  · exact List.filter_eq_nil_iff.mpr fun unit hunit => by simp [h unit hunit]

omit [Coercions F] in
theorem retainLabel_nil {label : Fin 2} (hnone : (blocks.filter fun unit => unit.label = label) = [])
    (h : retainLabel seed blocks label cap 0 = some retained) : retained = [] := by
  have hheap : offerBlocks seed ([] : List (AcademicUnit F)) cap 0 = [] := rfl
  simp only [retainLabel, hnone, hheap, true_and] at h
  by_cases hcap : cap = 0
  · rw [if_pos hcap] at h
    exact (Option.some.inj h).symm
  · rw [if_neg hcap] at h
    refine List.eq_nil_iff_forall_not_mem.mpr fun unit hunit => ?_
    simpa using mem_of_prioritySlice h hunit

omit [Coercions F] in
theorem offerBlocks_subset (hnodup : (blocks.map (unitPriority seed)).Nodup) (cap rankStart : Nat) :
    offerBlocks seed blocks cap rankStart ⊆ blocks := by
  intro unit hunit
  have hmem := (perm_foldl_priorityReservoirAdd _ hnodup).subset hunit
  generalize (if cap = 0 then 0 else cap + rankStart) = room at hmem
  split_ifs at hmem
  · exact hmem
  · exact (List.mem_ranked _).mp (List.mem_of_mem_take hmem)

omit [Coercions F] in
theorem subset_of_retainLabel {label : Fin 2} {rankStart : Nat}
    (hnodup : (blocks.map (unitPriority seed)).Nodup)
    (h : retainLabel seed blocks label cap rankStart = some retained) : retained ⊆ blocks := by
  have hsub : (blocks.filter fun unit => unit.label = label).Sublist blocks := List.filter_sublist
  intro unit hunit
  unfold retainLabel at h
  simp only at h
  split_ifs at h
  · rw [← Option.some.inj h] at hunit
    cases hunit
  · exact hsub.subset (offerBlocks_subset (hnodup.sublist (hsub.map _)) cap rankStart
      (mem_of_prioritySlice h hunit))

omit [Coercions F] in
theorem subset_of_selectHaiBlocks {normalCap attackCap rankStart : Nat} {totalCap : Option Nat}
    (hnodup : (blocks.map (unitPriority seed)).Nodup)
    (h : selectHaiBlocks seed blocks normalCap attackCap totalCap rankStart = some retained) :
    retained ⊆ blocks := by
  simp only [selectHaiBlocks, Option.bind_eq_bind, Option.bind_eq_some_iff, Option.some.injEq] at h
  obtain ⟨_, -, kept, hkept, rfl⟩ := h
  intro unit hunit
  have hunit := (List.mem_ranked _).mp hunit
  cases totalCap with
  | some total => exact offerBlocks_subset hnodup total rankStart (mem_of_prioritySlice hkept hunit)
  | none =>
    simp only [retainBlocks, Option.bind_eq_bind, Option.bind_eq_some_iff, Option.some.injEq] at hkept
    obtain ⟨normal, hnormal, attack, hattack, rfl⟩ := hkept
    rcases List.mem_append.mp hunit with hunit | hunit
    · exact subset_of_retainLabel hnodup hnormal hunit
    · exact subset_of_retainLabel hnodup hattack hunit

omit [Coercions F] in
/-- A file whose cap is for all its blocks, or for its normal ones where it has no others, retains the
first blocks. -/
theorem hasFirst_selectHaiBlocks {normalCap attackCap : Nat} {totalCap : Option Nat}
    (hnodup : (blocks.map (unitPriority seed)).Nodup) (hcap : cap ≠ 0)
    (hcaps : totalCap = some cap ∨
      totalCap = none ∧ normalCap = cap ∧ ∀ unit ∈ blocks, unit.label = 0)
    (h : selectHaiBlocks seed blocks normalCap attackCap totalCap 0 = some retained) :
    HasFirst (unitPriority seed) cap retained blocks := by
  simp only [selectHaiBlocks, Option.bind_eq_bind, Option.bind_eq_some_iff, Option.some.injEq] at h
  obtain ⟨_, -, kept, hkept, rfl⟩ := h
  refine HasFirst.of_perm _ ?_ (List.perm_ranked AcademicUnit.order kept)
  rcases hcaps with rfl | ⟨rfl, rfl, hnormal⟩
  · exact hasFirst_offerBlocks hnodup hcap hkept
  · simp only [retainBlocks, Option.bind_eq_bind, Option.bind_eq_some_iff, Option.some.injEq] at hkept
    obtain ⟨normal, hnormalKept, attack, hattackKept, rfl⟩ := hkept
    obtain ⟨hall, hnone⟩ := filter_label_normal hnormal
    rw [retainLabel, hall] at hnormalKept
    simp only [hcap, and_false, if_false] at hnormalKept
    rw [retainLabel_nil hnone hattackKept, List.append_nil]
    exact hasFirst_offerBlocks hnodup hcap hnormalKept

end Retained

/-! ## The blocks of a corpus -/

section Corpus

/-- The files of a corpus with their blocks -/
abbrev HaiFiles (F : Type) := List (HaiSource × List (AcademicUnit F) × List Text)

/-- The blocks of the files of a partition -/
def HaiFiles.ofPartition (files : HaiFiles F) (partition : Partition) : List (AcademicUnit F) :=
  inPartition partition (files.map fun file => (file.1, file.2.1))

structure Scanned (blockRows : Nat) (files : HaiFiles F) : Prop where
  sources : files.map Prod.fst = haiSources
  blocks : ∀ file ∈ files, BlocksOf file.1 blockRows file.2.1

variable {calendar : Calendar T} {corpus : HaiCorpus} {hashes : Text → Text} {blockRows : Nat}
  {files : HaiFiles F} {partition : Partition} {unit : AcademicUnit F}

theorem scanned_of_haiCorpusBlocks
    (h : haiCorpusBlocks calendar corpus hashes blockRows = some files) : Scanned blockRows files where
  sources := by
    have hmap : files.map Prod.fst = haiSources.map id :=
      List.map_eq_of_mapM (fun source _ file hfile => ?_) h
    · rwa [List.map_id] at hmap
    · simp only [Option.bind_eq_bind, Option.bind_eq_some_iff, Option.some.injEq] at hfile
      obtain ⟨blocks, -, rfl⟩ := hfile
      rfl
  blocks file hmem := by
    obtain ⟨source, -, hfile⟩ := List.exists_of_mem_mapM h hmem
    simp only [Option.bind_eq_bind, Option.bind_eq_some_iff, Option.some.injEq] at hfile
    obtain ⟨blocks, hblocks, rfl⟩ := hfile
    exact blocksOf_haiBlocks hblocks

omit [Coercions F] in
theorem mem_ofPartition : unit ∈ files.ofPartition partition ↔
    ∃ file ∈ files, file.1.assignedPartition = partition ∧ unit ∈ file.2.1 := by
  simp only [HaiFiles.ofPartition, inPartition, List.mem_flatMap, List.mem_filter, List.mem_map,
    decide_eq_true_eq]
  constructor
  · rintro ⟨_, ⟨⟨file, hfile, rfl⟩, hpartition⟩, hunit⟩
    exact ⟨file, hfile, hpartition, hunit⟩
  · rintro ⟨file, hfile, hpartition, hunit⟩
    exact ⟨_, ⟨⟨file, hfile, rfl⟩, hpartition⟩, hunit⟩

namespace Scanned

omit [Coercions F] in
theorem source_mem (h : Scanned blockRows files) {file} (hfile : file ∈ files) :
    file.1 ∈ haiSources := h.sources ▸ List.mem_map_of_mem hfile

omit [Coercions F] in
theorem exists_id (h : Scanned blockRows files) {file} (hfile : file ∈ files)
    (hunit : unit ∈ file.2.1) :
    ∃ start, unit.unitId = haiUnitId file.1.observations start blockRows := by
  have hid : unit.unitId ∈ file.2.1.map AcademicUnit.unitId := List.mem_map_of_mem hunit
  rw [(h.blocks file hfile).ids] at hid
  obtain ⟨i, -, heq⟩ := List.mem_map.mp hid
  exact ⟨_, heq.symm⟩

omit [Coercions F] in
/-- A block is of one file. -/
theorem file_eq (h : Scanned blockRows files) {other : AcademicUnit F} {file file'}
    (hfile : file ∈ files) (hfile' : file' ∈ files) (hunit : unit ∈ file.2.1)
    (hother : other ∈ file'.2.1) (hid : unit.unitId = other.unitId) : file.1 = file'.1 := by
  obtain ⟨start, hstart⟩ := h.exists_id hfile hunit
  obtain ⟨start', hstart'⟩ := h.exists_id hfile' hother
  rw [hstart, hstart'] at hid
  have hobservations := (haiUnitId_inj (observations_free _ (h.source_mem hfile))
    (observations_free _ (h.source_mem hfile')) hid).1
  exact List.inj_on_of_nodup_map nodup_observations (h.source_mem hfile) (h.source_mem hfile')
    hobservations

omit [Coercions F] in
theorem partition_eq (h : Scanned blockRows files) {other : AcademicUnit F} {partition' : Partition}
    (hunit : unit ∈ files.ofPartition partition) (hother : other ∈ files.ofPartition partition')
    (hid : unit.unitId = other.unitId) : partition = partition' := by
  obtain ⟨file, hfile, rfl, hmem⟩ := mem_ofPartition.mp hunit
  obtain ⟨file', hfile', rfl, hmem'⟩ := mem_ofPartition.mp hother
  rw [h.file_eq hfile hfile' hmem hmem' hid]

omit [Coercions F] in
theorem nodup_unitIds (h : Scanned blockRows files) (hrows : 0 < blockRows) (partition : Partition) :
    ((files.ofPartition partition).map AcademicUnit.unitId).Nodup := by
  have hsources : (files.map fun file => file.1.observations).Nodup := by
    have hmap := congrArg (List.map HaiSource.observations) h.sources
    rw [List.map_map] at hmap
    exact hmap ▸ nodup_observations
  have hflat : (files.ofPartition partition).map AcademicUnit.unitId =
      (files.filter fun file => file.1.assignedPartition = partition).flatMap fun file =>
        file.2.1.map AcademicUnit.unitId := by
    simp [HaiFiles.ofPartition, inPartition, List.filter_map, List.flatMap_map, List.map_flatMap,
      Function.comp_def]
  rw [hflat, List.nodup_flatMap]
  constructor
  · intro file hfile
    have hfile := List.mem_of_mem_filter hfile
    exact (h.blocks file hfile).nodup (h.source_mem hfile) hrows
  · refine List.Pairwise.imp_of_mem ?_ ((List.pairwise_map.mp hsources).filter _)
    intro file file' hfile hfile' hne id hid hid'
    obtain ⟨unit, hunit, rfl⟩ := List.mem_map.mp hid
    obtain ⟨other, hother, heq⟩ := List.mem_map.mp hid'
    exact hne (congrArg HaiSource.observations (h.file_eq (List.mem_of_mem_filter hfile)
      (List.mem_of_mem_filter hfile') hunit hother heq.symm))

end Scanned

/-- The priority tells the blocks of a corpus apart. -/
def PrioritiesApart (calendar : Calendar T) (corpus : HaiCorpus) (config : Members F) : Prop :=
  ∀ settings files, haiSettings corpus config = some settings →
    haiCorpusBlocks (F := F) calendar corpus settings.hashes settings.blockRows = some files →
    ∀ file ∈ files, ∀ unit ∈ file.2.1, ∀ file' ∈ files, ∀ other ∈ file'.2.1,
      unitPriority settings.seed unit = unitPriority settings.seed other → unit.unitId = other.unitId

end Corpus

/-! ## Caps -/

section Caps

variable {caps members : Members F} {role : Text} {start count : Phase → Nat} {c n a total : Nat}

theorem natural_eq_some {i : Int} : natural i = some n ↔ i = n := by
  unfold natural
  split_ifs with hi
  · rw [Option.some.injEq]
    omega
  · simp only [false_iff]
    omega

/-- The audit counts what the loader takes of a partition. -/
theorem Allocated.hai_caps (h : Allocated config role start count)
    (hkind : kindOf config = text "hai-23.05") (phase : Phase) :
    ∃ caps members : Members F, phaseCaps config phase = some caps ∧ partitionCaps caps role = some members ∧
      partitionCount members = some (count phase : Int) := by
  obtain ⟨expected, hexpected, hmem⟩ := h.expected phase
  have hadfa : text "hai-23.05" ≠ text "adfa-ld" := by decide
  have hlid : text "hai-23.05" ≠ text "lid-ds-2021" := by decide
  simp only [expectedAllocationCounts, hkind, hadfa, hlid, if_false, if_true, Option.bind_eq_bind,
    Option.bind_eq_some_iff, mapping_eq_some, exists_eq_right] at hexpected
  obtain ⟨raw, hraw, caps, hcaps, hexpected⟩ := hexpected
  obtain ⟨partition, -, hpartition⟩ := List.exists_of_mem_mapM hexpected hmem
  simp only [Option.bind_eq_some_iff, mapping_eq_some, exists_eq_right, Option.some.injEq,
    Prod.mk.injEq] at hpartition
  obtain ⟨members, hmembers, counted, hcounted, rfl, rfl⟩ := hpartition
  exact ⟨caps, members, phaseCaps_of_lookup hraw hcaps, by simp [partitionCaps, hmembers, mapping],
    hcounted⟩

theorem total_eq (hcaps : partitionCaps caps role = some members)
    (hcount : partitionCount members = some (c : Int))
    (htotal : haiTotalCap caps role = some (some total)) : total = c := by
  simp only [haiTotalCap, hcaps, Option.bind_some] at htotal
  simp only [partitionCount, Option.bind_eq_bind, Option.bind_eq_some_iff] at hcount
  obtain ⟨_, -, _, -, hcount⟩ := hcount
  cases hlookup : members.lookup (text "total") with
  | none => simp [hlookup] at htotal
  | some raw =>
    simp only [hlookup, Option.map_eq_some_iff, Option.bind_eq_some_iff, Option.some.injEq,
      exists_eq_right] at htotal hcount
    obtain ⟨i, hi, hnatural⟩ := htotal
    obtain rfl := Option.some.inj (hi.symm.trans hcount)
    exact_mod_cast (natural_eq_some.mp hnatural).symm

theorem sum_eq (hcaps : partitionCaps caps role = some members)
    (hcount : partitionCount members = some (c : Int)) (htotal : haiTotalCap caps role = some none)
    (hnormal : haiCap caps role (text "normal") = some n)
    (hattack : haiCap caps role (text "attack") = some a) : n + a = c := by
  simp only [haiTotalCap, hcaps, Option.bind_some] at htotal
  simp only [haiCap, hcaps, Option.bind_some, cap, Option.bind_eq_some_iff] at hnormal hattack
  obtain ⟨i, hi, hin⟩ := hnormal
  obtain ⟨j, hj, hja⟩ := hattack
  simp only [partitionCount, hi, hj, Option.bind_eq_bind, Option.bind_some] at hcount
  cases hlookup : members.lookup (text "total") with
  | some raw =>
    rw [hlookup] at htotal
    obtain ⟨_, -, hnone⟩ := Option.map_eq_some_iff.mp htotal
    cases hnone
  | none =>
    simp only [hlookup, Option.some.injEq] at hcount
    rw [natural_eq_some.mp hin, natural_eq_some.mp hja] at hcount
    exact_mod_cast hcount

end Caps

/-! ## The slices of the phases -/

section Slices

variable {caps : Members F} {phase : Phase} {seed : Int} {partition : Partition} {offset c : Nat}

omit [Coercions F] in
theorem stableUnitSlice_of_sliceLabel {label : Fin 2} {candidates selected : List (AcademicUnit F)} {cap : Nat}
    (hlabel : ∀ unit ∈ candidates, unit.label = label) (hcap : cap ≠ 0)
    (h : sliceLabel seed candidates label cap offset = some selected) :
    stableUnitSlice seed candidates cap offset true = some selected := by
  have hall : (candidates.filter fun unit => unit.label = label) = candidates :=
    List.filter_eq_self.mpr fun unit hunit => by simp [hlabel unit hunit]
  rw [sliceLabel, hall] at h
  simpa [hcap] using h

omit [Coercions F] in
theorem sliceLabel_nil {label : Fin 2} {candidates selected : List (AcademicUnit F)} {cap : Nat}
    (hnone : (candidates.filter fun unit => unit.label = label) = [])
    (h : sliceLabel seed candidates label cap offset = some selected) :
    cap = 0 ∧ selected = [] := by
  simp only [sliceLabel, hnone, true_and] at h
  by_cases hcap : cap = 0
  · rw [if_pos hcap] at h
    exact ⟨hcap, (Option.some.inj h).symm⟩
  · have hempty : (rankUnits seed ([] : List (AcademicUnit F))).slice offset cap = [] := by
      simp [rankUnits, slice]
    simp only [hcap, if_false, stableUnitSlice, hempty, List.length_nil, and_false] at h
    simp [Ne.symm hcap] at h

/-- The caps of a partition as a whole, or of its normal blocks where it has no others -/
structure HaiCaps (caps : Members F) (partition : Partition) (c : Nat)
    (blocks : List (AcademicUnit F)) : Prop where
  pos : 0 < c
  members : ∃ members, partitionCaps caps partition.label = some members ∧
    partitionCount members = some (c : Int)
  normal : haiTotalCap caps partition.label = some none → ∀ unit ∈ blocks, unit.label = 0

theorem HaiCaps.slice_eq {blocks candidates selected : List (AcademicUnit F)}
    (h : HaiCaps caps partition c blocks) (hcandidates : ∀ unit ∈ candidates, unit ∈ blocks)
    (hoffset : phaseRankStart config phase partition.label (some partition.label) = some offset)
    (hselected : slicePartition config caps phase seed partition candidates = some selected) :
    selected = (rankUnits seed candidates).slice offset c ∧
      (haiTotalCap caps partition.label = some none →
        haiCap caps partition.label (text "normal") = some c) := by
  obtain ⟨members, hmembers, hcount⟩ := h.members
  simp only [slicePartition, hoffset, Option.bind_eq_bind, Option.bind_some,
    Option.bind_eq_some_iff] at hselected
  obtain ⟨total, htotal, hselected⟩ := hselected
  cases total with
  | some total =>
    obtain rfl := total_eq hmembers hcount htotal
    exact ⟨stableUnitSlice_eq_slice h.pos.ne' hselected, fun hnone => by simp [htotal] at hnone⟩
  | none =>
    simp only [Option.bind_eq_some_iff, Option.some.injEq] at hselected
    obtain ⟨n, hn, a, ha, normal, hnormal, attack, hattack, rfl⟩ := hselected
    have hlabel : ∀ unit ∈ candidates, unit.label = 0 := fun unit hunit =>
      h.normal htotal unit (hcandidates unit hunit)
    obtain ⟨rfl, rfl⟩ := sliceLabel_nil (filter_label_normal hlabel).2 hattack
    obtain rfl : n = c := sum_eq hmembers hcount htotal hn ha
    rw [List.append_nil]
    exact ⟨stableUnitSlice_eq_slice h.pos.ne' (stableUnitSlice_of_sliceLabel hlabel h.pos.ne' hnormal),
      fun _ => hn⟩

theorem HaiCaps.mono {blocks blocks' : List (AcademicUnit F)} (h : HaiCaps caps partition c blocks)
    (hsub : blocks' ⊆ blocks) : HaiCaps caps partition c blocks' where
  pos := h.pos
  members := h.members
  normal htotal unit hunit := h.normal htotal unit (hsub hunit)

/-- A file of the partition retains its first blocks. -/
theorem HaiCaps.hasFirst_file {blocks retained : List (AcademicUnit F)}
    (h : HaiCaps caps partition c blocks)
    (hoffset : phaseRankStart config phase partition.label (some partition.label) = some offset)
    (hnormalCap : haiTotalCap caps partition.label = some none →
      haiCap caps partition.label (text "normal") = some c)
    (hnodup : (blocks.map (unitPriority seed)).Nodup)
    (hretained : selectHaiFile config caps phase seed true partition blocks = some retained) :
    HasFirst (unitPriority seed) (offset + c) retained blocks := by
  obtain ⟨members, hmembers, hcount⟩ := h.members
  have hcap : c + offset ≠ 0 := (Nat.add_pos_left h.pos _).ne'
  have hroom : capWithOffset true c offset = c + offset := by simp [capWithOffset, h.pos.ne']
  simp only [selectHaiFile, hoffset, Option.bind_eq_bind, Option.bind_some,
    Option.bind_eq_some_iff] at hretained
  obtain ⟨n, hn, a, -, total, htotal, hretained⟩ := hretained
  rw [Nat.add_comm]
  cases total with
  | some total =>
    obtain rfl := total_eq hmembers hcount htotal
    exact hasFirst_selectHaiBlocks hnodup hcap (.inl (by rw [Option.map_some, hroom])) hretained
  | none =>
    obtain rfl := Option.some.inj (hn.symm.trans (hnormalCap htotal))
    exact hasFirst_selectHaiBlocks hnodup hcap (.inr ⟨rfl, hroom, h.normal htotal⟩) hretained

/-- What the phase retains of the files -/
def Retains (config caps : Members F) (phase : Phase) (seed : Int) (files : HaiFiles F)
    (retained : List (HaiSource × List (AcademicUnit F))) : Prop :=
  List.Forall₂ (fun file kept => kept.1 = file.1 ∧
    selectHaiFile config caps phase seed true file.1.assignedPartition file.2.1 = some kept.2)
    files retained

theorem Retains.subset {files : HaiFiles F} {retained : List (HaiSource × List (AcademicUnit F))}
    (h : Retains config caps phase seed files retained)
    (hnodup : ((files.ofPartition partition).map (unitPriority seed)).Nodup) :
    inPartition partition retained ⊆ files.ofPartition partition := by
  intro unit hunit
  obtain ⟨kept, hkept, hmem⟩ := List.mem_flatMap.mp hunit
  obtain ⟨hkept, hpartition⟩ := List.mem_filter.mp hkept
  obtain ⟨i, hi, rfl⟩ := List.mem_iff_getElem.mp hkept
  have hlength : i < files.length := h.length_eq ▸ hi
  obtain ⟨hsource, hselect⟩ := h.get hlength hi
  simp only [List.get_eq_getElem] at hsource hselect
  have hfile : files[i].1.assignedPartition = partition := by
    rw [← hsource]
    simpa using hpartition
  have hblocks : files[i].2.1.Sublist (files.ofPartition partition) := by
    rw [HaiFiles.ofPartition, inPartition, List.flatMap_def]
    refine List.sublist_flatten_of_mem (List.mem_map.mpr ⟨(files[i].1, files[i].2.1), ?_, rfl⟩)
    exact List.mem_filter.mpr ⟨List.mem_map.mpr ⟨_, List.getElem_mem hlength, rfl⟩, by simp [hfile]⟩
  simp only [selectHaiFile, Option.bind_eq_bind, Option.bind_eq_some_iff] at hselect
  obtain ⟨_, -, _, -, _, -, _, -, hselect⟩ := hselect
  exact hblocks.subset (subset_of_selectHaiBlocks (hnodup.sublist (hblocks.map _)) hselect hmem)

/-- What the files of the partition retain has its first blocks. -/
theorem HaiCaps.hasFirst {files : HaiFiles F} {retained : List (HaiSource × List (AcademicUnit F))}
    (h : HaiCaps caps partition c (files.ofPartition partition))
    (hoffset : phaseRankStart config phase partition.label (some partition.label) = some offset)
    (hnormalCap : haiTotalCap caps partition.label = some none →
      haiCap caps partition.label (text "normal") = some c)
    (hnodup : ((files.ofPartition partition).map (unitPriority seed)).Nodup)
    (hretained : Retains config caps phase seed files retained) :
    HasFirst (unitPriority seed) (offset + c) (inPartition partition retained)
      (files.ofPartition partition) := by
  induction hretained with
  | nil => exact HasFirst.nil _
  | @cons file kept files retained hkept _ ih =>
    obtain ⟨hsource, hkept⟩ := hkept
    by_cases hpartition : file.1.assignedPartition = partition
    · have hblocks : HaiFiles.ofPartition (file :: files) partition =
          file.2.1 ++ HaiFiles.ofPartition files partition := by
        simp [HaiFiles.ofPartition, inPartition, hpartition]
      have hcandidates : inPartition partition (kept :: retained) =
          kept.2 ++ inPartition partition retained := by
        simp [inPartition, hsource, hpartition]
      rw [hblocks] at h hnodup ⊢
      rw [hcandidates]
      rw [hpartition] at hkept
      have hfile := List.subset_append_left file.2.1 (HaiFiles.ofPartition files partition)
      have hrest := List.subset_append_right file.2.1 (HaiFiles.ofPartition files partition)
      have hnodups : (file.2.1.map (unitPriority seed)).Nodup ∧
          ((HaiFiles.ofPartition files partition).map (unitPriority seed)).Nodup := by
        rw [List.map_append] at hnodup
        exact ⟨hnodup.of_append_left, hnodup.of_append_right⟩
      exact ((h.mono hfile).hasFirst_file hoffset hnormalCap hnodups.1 hkept).append _
        (ih (h.mono hrest) hnodups.2) hnodup
    · have hblocks : HaiFiles.ofPartition (file :: files) partition =
          HaiFiles.ofPartition files partition := by
        simp [HaiFiles.ofPartition, inPartition, hpartition]
      have hcandidates : inPartition partition (kept :: retained) = inPartition partition retained := by
        simp [inPartition, hsource, hpartition]
      rw [hblocks] at h hnodup ⊢
      rw [hcandidates]
      exact ih h hnodup

/-! ## The runs of the phases -/

variable {calendar : Calendar T} {corpus : HaiCorpus} {dataset : AcademicDataset F}

/-- What a loaded dataset is made of, where the phases have allocations -/
structure HaiLoaded (calendar : Calendar T) (corpus : HaiCorpus) (config : Members F) (phase : Phase)
    (dataset : AcademicDataset F) where
  settings : HaiSettings
  caps : Members F
  files : HaiFiles F
  retained : List (HaiSource × List (AcademicUnit F))
  selected : List (List (AcademicUnit F))
  hasSettings : haiSettings corpus config = some settings
  hasCaps : phaseCaps config phase = some caps
  hasFiles : haiCorpusBlocks calendar corpus settings.hashes settings.blockRows = some files
  retains : Retains config caps phase settings.seed files retained
  selects : [Partition.train, .validation, .test].mapM (fun partition =>
    slicePartition config caps phase settings.seed partition (inPartition partition retained)) =
      some selected
  units : dataset.units = sortUnits selected.flatten

theorem exists_haiLoaded (hstrict : (present config (text "phase_allocation")).isSome)
    (h : loadHai2305 calendar corpus config phase = some dataset) :
    Nonempty (HaiLoaded calendar corpus config phase dataset) := by
  simp only [loadHai2305, hstrict, if_true, Option.bind_eq_bind, Option.bind_eq_some_iff] at h
  obtain ⟨settings, hsettings, caps, hcaps, files, hfiles, _, -, retained, hretained, selected,
    hselected, _, -, hdataset⟩ := h
  refine ⟨⟨settings, caps, files, retained, selected, hsettings, hcaps, hfiles, ?_, hselected,
    units_of_officialDataset hdataset⟩⟩
  refine (List.mapM_eq_some_iff.mp hretained).imp fun file kept hkept => ?_
  obtain ⟨units, hunits, heq⟩ := Option.bind_eq_some_iff.mp hkept
  cases heq
  exact ⟨rfl, hunits⟩

/-- A dataset of HAI whose test blocks have a total cap in every phase -/
structure HaiAllocated (config : Members F) (start count : Text → Phase → Nat) : Prop where
  slices : Slices config start count
  kind : kindOf config = text "hai-23.05"
  testTotal : ∀ phase caps, phaseCaps config phase = some caps →
    haiTotalCap caps (text "test") ≠ some none

namespace HaiAllocated

variable {start count : Text → Phase → Nat}

theorem role_mem (h : HaiAllocated config start count) (partition : Partition) :
    partition.label ∈ rolesOfKind (kindOf config) := by
  rw [h.kind]
  cases partition <;> decide

theorem rankStart (h : HaiAllocated config start count) (phase : Phase) (partition : Partition) :
    phaseRankStart config phase partition.label (some partition.label) =
      some (start partition.label phase) :=
  (h.slices.allocated _ (h.role_mem partition)).rankStart phase _ (.inr rfl)

/-- Only the test files have labels. -/
theorem labels_eq_none : ∀ source ∈ haiSources, source.assignedPartition ≠ .test →
    source.labels = none := by
  simp [haiSources]

theorem haiCaps (h : HaiAllocated config start count)
    (loaded : HaiLoaded calendar corpus config phase dataset) (partition : Partition) :
    HaiCaps loaded.caps partition (count partition.label phase)
      (loaded.files.ofPartition partition) := by
  have hallocated := h.slices.allocated _ (h.role_mem partition)
  obtain ⟨caps, members, hcaps, hmembers, hcount⟩ := hallocated.hai_caps h.kind phase
  obtain rfl := Option.some.inj (loaded.hasCaps.symm.trans hcaps)
  refine ⟨hallocated.pos phase, ⟨members, hmembers, hcount⟩, fun htotal unit hunit => ?_⟩
  have hscanned := scanned_of_haiCorpusBlocks loaded.hasFiles
  obtain ⟨file, hfile, hpartition, hmem⟩ := mem_ofPartition.mp hunit
  refine (hscanned.blocks file hfile).normal (labels_eq_none _ (hscanned.source_mem hfile) ?_) unit hmem
  intro htest
  rw [← hpartition, htest] at htotal
  exact h.testTotal phase loaded.caps loaded.hasCaps htotal

end HaiAllocated

theorem blockRows_pos {settings : HaiSettings} (h : haiSettings corpus config = some settings) :
    0 < settings.blockRows := by
  simp only [haiSettings, Option.bind_eq_bind, Option.bind_eq_some_iff, Option.guard_eq_some',
    Option.some.injEq] at h
  obtain ⟨_, -, blockRows, -, _, hpos, _, -, rfl⟩ := h
  exact Int.lt_toNat.mpr hpos

theorem HaiLoaded.nodup_priorities (loaded : HaiLoaded calendar corpus config phase dataset)
    (hpriorities : PrioritiesApart calendar corpus config) (partition : Partition) :
    ((loaded.files.ofPartition partition).map (unitPriority loaded.settings.seed)).Nodup := by
  have hscanned := scanned_of_haiCorpusBlocks loaded.hasFiles
  have hids := hscanned.nodup_unitIds (blockRows_pos loaded.hasSettings) partition
  refine List.Nodup.map_on (fun unit hunit other hother heq => ?_) (hids.of_map _)
  obtain ⟨file, hfile, -, hmem⟩ := mem_ofPartition.mp hunit
  obtain ⟨file', hfile', -, hmem'⟩ := mem_ofPartition.mp hother
  exact List.inj_on_of_nodup_map hids hunit hother
    (hpriorities _ _ loaded.hasSettings loaded.hasFiles file hfile unit hmem file' hfile' other hmem' heq)

/-- The rank of a unit among the blocks of its partition lies in the interval of the phase. -/
theorem HaiAllocated.rank_of_mem {start count : Text → Phase → Nat}
    (h : HaiAllocated config start count) (loaded : HaiLoaded calendar corpus config phase dataset)
    (hpriorities : PrioritiesApart calendar corpus config) {unit : AcademicUnit F}
    (hunit : unit ∈ dataset.units) :
    ∃ partition : Partition, unit ∈ loaded.files.ofPartition partition ∧
      start partition.label phase ≤
        rankIn (unitPriority loaded.settings.seed) (loaded.files.ofPartition partition) unit ∧
      rankIn (unitPriority loaded.settings.seed) (loaded.files.ofPartition partition) unit <
        start partition.label phase + count partition.label phase := by
  rw [loaded.units] at hunit
  obtain ⟨selected, hselected, hmem⟩ := List.mem_flatten.mp ((perm_sortUnits _).subset hunit)
  obtain ⟨partition, -, hslice⟩ := List.exists_of_mem_mapM loaded.selects hselected
  have hcaps := h.haiCaps loaded partition
  have hoffset := h.rankStart phase partition
  have hnodup := loaded.nodup_priorities hpriorities partition
  have hsubset := loaded.retains.subset hnodup
  obtain ⟨hselectedEq, hnormalCap⟩ := hcaps.slice_eq (fun _ hunit => hsubset hunit) hoffset hslice
  have hfirst := hcaps.hasFirst hoffset hnormalCap hnodup loaded.retains
  rw [hselectedEq, rankUnits_eq_ranked hfirst.nodup] at hmem
  exact ⟨partition, List.mem_slice_of_first _ hfirst hnodup hmem⟩

variable {pilot confirmatory : AcademicDataset F}

/-- The phases cut the same files into the same blocks. -/
theorem HaiLoaded.files_eq (loaded : HaiLoaded calendar corpus config .pilot pilot)
    (loaded' : HaiLoaded calendar corpus config .confirmatory confirmatory) :
    loaded'.settings = loaded.settings ∧ loaded'.files = loaded.files := by
  have hsettings := Option.some.inj (loaded'.hasSettings.symm.trans loaded.hasSettings)
  have hfiles := loaded'.hasFiles
  rw [hsettings] at hfiles
  exact ⟨hsettings, Option.some.inj (hfiles.symm.trans loaded.hasFiles)⟩

/-- No block is selected in both phases. -/
theorem HaiAllocated.unitId_ne {start count : Text → Phase → Nat}
    (h : HaiAllocated config start count) (hpriorities : PrioritiesApart calendar corpus config)
    (loaded : HaiLoaded calendar corpus config .pilot pilot)
    (loaded' : HaiLoaded calendar corpus config .confirmatory confirmatory) {unit other : AcademicUnit F}
    (hunit : unit ∈ pilot.units) (hother : other ∈ confirmatory.units) :
    other.unitId ≠ unit.unitId := by
  intro hid
  obtain ⟨partition, hmem, hlow, hhigh⟩ := h.rank_of_mem loaded hpriorities hunit
  obtain ⟨partition', hmem', hlow', hhigh'⟩ := h.rank_of_mem loaded' hpriorities hother
  obtain ⟨hsettings, hfiles⟩ := loaded.files_eq loaded'
  rw [hfiles] at hmem'
  rw [hsettings, hfiles] at hlow' hhigh'
  obtain rfl := (scanned_of_haiCorpusBlocks loaded.hasFiles).partition_eq hmem' hmem hid
  -- One identifier has one priority, so the blocks have one rank.
  have hpriority : unitPriority loaded.settings.seed other = unitPriority loaded.settings.seed unit := by
    rw [unitPriority, unitPriority, hid]
  have hrank : rankIn (unitPriority loaded.settings.seed) (loaded.files.ofPartition partition') other =
      rankIn (unitPriority loaded.settings.seed) (loaded.files.ofPartition partition') unit := by
    rw [rankIn, rankIn, hpriority]
  have hapart := (h.slices.allocated _ (h.role_mem partition')).apart
  omega

end Slices

end TruthFingerprint.OfflineTraining
