import Mathlib
import TruthFingerprint.Lib.Grouping
import TruthFingerprint.Lib.PrioritySlices
import TruthFingerprint.OfflineTraining.AcademicDataset

/-!
# Selection of source units

Files and units are ranked by a priority that a digest of their name gives, and slices of the
ranking are selected. Units with the same content are represented by one of them, unless they mean
different things. What comes out has each content once (`nodup_groupIds`), so none is in two
partitions (`groupLeakage_passed`).
-/

namespace TruthFingerprint.OfflineTraining

open List (OneMeaning groupOf groups ranked representatives)

/-! ## Priorities -/

/-- `_stable_priority`, the first eight bytes of a digest -/
def stablePriority (seed : Int) (identity : Text) : Nat :=
  let digest := Sha256.hash ((Python.intText seed ++ ':'.codePoint :: identity).utf8.map UInt8.toNat)
  digest.a * 2 ^ 32 + digest.b

section Paths

variable {α : Type} (path : α → Text) (seed : Int)

def rankPaths (items : List α) : List α := ranked (fun item => stablePriority seed (path item)) items

/-- `_stable_cap` -/
def stableCap (items : List α) (cap offset : Nat) (requireExact : Bool) : Option (List α) :=
  if offset ≠ 0 ∧ cap = 0 then none
  else if cap = 0 then some (rankPaths path seed items)
  else if requireExact ∧ ((rankPaths path seed items).slice offset cap).length ≠ cap then none
  else some ((rankPaths path seed items).slice offset cap)

variable {path seed} {items selected : List α} {cap offset : Nat} {requireExact : Bool}

theorem stableCap_eq_slice (hcap : cap ≠ 0)
    (h : stableCap path seed items cap offset requireExact = some selected) :
    selected = (rankPaths path seed items).slice offset cap := by
  have hstart : ¬(offset ≠ 0 ∧ cap = 0) := fun h => hcap h.2
  rw [stableCap, if_neg hstart, if_neg hcap] at h
  split_ifs at h
  exact (Option.some.inj h).symm

theorem sublist_of_stableCap (h : stableCap path seed items cap offset requireExact = some selected) :
    selected.Sublist (rankPaths path seed items) := by
  unfold stableCap at h
  split_ifs at h
  · exact Option.some.inj h ▸ List.Sublist.refl _
  · exact Option.some.inj h ▸ List.slice_sublist _ _ _

theorem mem_of_stableCap (h : stableCap path seed items cap offset requireExact = some selected)
    {item : α} (hitem : item ∈ selected) : item ∈ items :=
  (List.mem_ranked _).mp ((sublist_of_stableCap h).subset hitem)

theorem nodup_of_stableCap (h : stableCap path seed items cap offset requireExact = some selected)
    (hitems : items.Nodup) : selected.Nodup :=
  (List.nodup_ranked _ hitems).sublist (sublist_of_stableCap h)

/-- Without a cap every item is selected. -/
theorem perm_of_stableCap_zero (h : stableCap path seed items 0 offset requireExact = some selected) :
    selected.Perm items := by
  simp only [stableCap, and_true, ↓reduceIte] at h
  split_ifs at h
  exact Option.some.inj h ▸ List.perm_ranked _ _

end Paths

section Units

variable {F : Type} (seed : Int)

def unitPriority (unit : AcademicUnit F) : Nat := stablePriority seed unit.unitId

/-- Sorted by the priority and the identifier -/
def rankUnits (units : List (AcademicUnit F)) : List (AcademicUnit F) :=
  units.insertionSort fun u v =>
    toLex (unitPriority seed u, u.unitId) ≤ toLex (unitPriority seed v, v.unitId)

/-- `_stable_unit_slice` -/
def stableUnitSlice (units : List (AcademicUnit F)) (cap offset : Nat) (requireExact : Bool) :
    Option (List (AcademicUnit F)) :=
  if offset ≠ 0 ∧ cap = 0 then none
  else if cap = 0 then some (rankUnits seed units)
  else if requireExact ∧ ((rankUnits seed units).slice offset cap).length ≠ cap then none
  else some ((rankUnits seed units).slice offset cap)

/-- `_priority_slice` -/
def prioritySlice (units : List (AcademicUnit F)) (cap rankStart : Nat) :
    Option (List (AcademicUnit F)) :=
  if rankStart ≠ 0 ∧ cap = 0 then none
  else if cap = 0 then some (rankUnits seed units)
  else if rankStart ≠ 0 ∧ ((rankUnits seed units).slice rankStart cap).length ≠ cap then none
  else some ((rankUnits seed units).slice rankStart cap)

/-- The order of the items of the heap, `(-priority, unit_id)` -/
def HeapBefore (u v : AcademicUnit F) : Prop :=
  toLex (-(unitPriority seed u : Int), u.unitId) ≤ toLex (-(unitPriority seed v : Int), v.unitId)

instance : DecidableRel (HeapBefore (F := F) seed) := fun _ _ => inferInstanceAs (Decidable (_ ≤ _))

/-- `_priority_reservoir_add`, where the heap is kept sorted -/
def priorityReservoirAdd (cap : Nat) (heap : List (AcademicUnit F)) (unit : AcademicUnit F) :
    List (AcademicUnit F) :=
  if cap = 0 then heap ++ [unit]
  else if heap.length < cap then heap.orderedInsert (HeapBefore seed) unit
  else match heap with
    | [] => []
    | greatest :: rest =>
      if unitPriority seed unit < unitPriority seed greatest then
        rest.orderedInsert (HeapBefore seed) unit
      else greatest :: rest

variable {seed} {units selected : List (AcademicUnit F)} {cap offset : Nat} {requireExact : Bool}

theorem stableUnitSlice_eq_slice (hcap : cap ≠ 0)
    (h : stableUnitSlice seed units cap offset requireExact = some selected) :
    selected = (rankUnits seed units).slice offset cap := by
  have hstart : ¬(offset ≠ 0 ∧ cap = 0) := fun h => hcap h.2
  rw [stableUnitSlice, if_neg hstart, if_neg hcap] at h
  split_ifs at h
  exact (Option.some.inj h).symm

theorem mem_rankUnits {unit : AcademicUnit F} : unit ∈ rankUnits seed units ↔ unit ∈ units :=
  List.mem_insertionSort _

theorem mem_of_stableUnitSlice (h : stableUnitSlice seed units cap offset requireExact = some selected)
    {unit : AcademicUnit F} (hunit : unit ∈ selected) : unit ∈ units := by
  unfold stableUnitSlice at h
  split_ifs at h
  · exact mem_rankUnits.mp (Option.some.inj h ▸ hunit)
  · exact mem_rankUnits.mp (List.mem_of_mem_slice (Option.some.inj h ▸ hunit))

theorem mem_of_prioritySlice {rankStart : Nat}
    (h : prioritySlice seed units cap rankStart = some selected) {unit : AcademicUnit F}
    (hunit : unit ∈ selected) : unit ∈ units := by
  unfold prioritySlice at h
  split_ifs at h
  · exact mem_rankUnits.mp (Option.some.inj h ▸ hunit)
  · exact mem_rankUnits.mp (List.mem_of_mem_slice (Option.some.inj h ▸ hunit))

/-- Where the priority tells the units apart, it ranks them alone. -/
theorem rankUnits_eq_ranked (h : (units.map (unitPriority seed)).Nodup) :
    rankUnits seed units = ranked (unitPriority seed) units := by
  refine List.insertionSort_eq_of_key (unitPriority seed) fun u hu v hv => ?_
  rw [Prod.Lex.toLex_le_toLex]
  constructor
  · rintro (hlt | ⟨heq, -⟩)
    · exact hlt.le
    · exact heq.le
  · intro hle
    rcases hle.lt_or_eq with hlt | heq
    · exact .inl hlt
    · exact .inr ⟨heq, (List.inj_on_of_nodup_map h hu hv heq) ▸ le_rfl⟩

theorem heapBefore_iff (h : (units.map (unitPriority seed)).Nodup) {u v : AcademicUnit F}
    (hu : u ∈ units) (hv : v ∈ units) :
    HeapBefore seed u v ↔ unitPriority seed v ≤ unitPriority seed u := by
  rw [HeapBefore, Prod.Lex.toLex_le_toLex]
  constructor
  · rintro (hlt | ⟨heq, -⟩)
    · simp only [neg_lt_neg_iff, Nat.cast_lt] at hlt
      exact hlt.le
    · simp only [neg_inj, Nat.cast_inj] at heq
      exact heq.ge
  · intro hle
    rcases hle.lt_or_eq with hlt | heq
    · exact .inl (by simpa using hlt)
    · exact .inr ⟨by simp [heq], (List.inj_on_of_nodup_map h hu hv heq.symm) ▸ le_rfl⟩

/-- Without a cap the heap keeps the units as they come. -/
theorem foldl_priorityReservoirAdd_zero (heap units : List (AcademicUnit F)) :
    units.foldl (priorityReservoirAdd seed 0) heap = heap ++ units := by
  induction units generalizing heap with
  | nil => rw [List.foldl_nil, List.append_nil]
  | cons unit units ih =>
    have hadd : priorityReservoirAdd seed 0 heap unit = heap ++ [unit] := if_pos rfl
    rw [List.foldl_cons, hadd, ih, List.append_assoc, List.singleton_append]

/-- The heap after all units is the first of their ranking, or all units without a cap. -/
theorem perm_foldl_priorityReservoirAdd (cap : Nat) (h : (units.map (unitPriority seed)).Nodup) :
    (units.foldl (priorityReservoirAdd seed cap) []).Perm
      (if cap = 0 then units else (ranked (unitPriority seed) units).take cap) := by
  by_cases hcap : cap = 0
  · rw [if_pos hcap, hcap, foldl_priorityReservoirAdd_zero, List.nil_append]
  · rw [if_neg hcap]
    have hadd : priorityReservoirAdd (F := F) seed cap =
        List.reservoirAdd (unitPriority seed) (HeapBefore seed) cap := by
      funext heap unit
      unfold priorityReservoirAdd List.reservoirAdd
      rw [if_neg hcap]
      split_ifs
      · rfl
      · cases heap <;> rfl
    rw [hadd, List.foldl_reservoirAdd (unitPriority seed) (HeapBefore seed) cap h fun u hu v hv =>
      heapBefore_iff h hu hv]
    exact List.reverse_perm _

end Units

/-! ## Contents -/

section Contents

variable {F : Type}

def Partition.preference : Partition → Nat
  | .train => 0
  | .validation => 1
  | .test => 2

def AcademicUnit.semantics (unit : AcademicUnit F) : Fin 2 × Text := (unit.label, unit.className)

/-- `(unit.assigned_partition, unit.order, unit.unit_id)` -/
def AcademicUnit.sortKey (unit : AcademicUnit F) : Text ×ₗ Int ×ₗ Text :=
  toLex (unit.assignedPartition.label, toLex (unit.order, unit.unitId))

def sortUnits (units : List (AcademicUnit F)) : List (AcademicUnit F) :=
  ranked AcademicUnit.sortKey units

/-- `_deduplicate_content_units` -/
def deduplicateContentUnits (units : List (AcademicUnit F)) : List (AcademicUnit F) :=
  sortUnits (representatives AcademicUnit.groupId AcademicUnit.semantics
    (fun unit => toLex (unit.assignedPartition.preference, unit.unitId)) units)

variable {units : List (AcademicUnit F)} {unit : AcademicUnit F}

theorem perm_sortUnits (units : List (AcademicUnit F)) : (sortUnits units).Perm units :=
  List.perm_ranked _ _

theorem mem_of_mem_deduplicate (h : unit ∈ deduplicateContentUnits units) : unit ∈ units :=
  List.mem_of_mem_representatives _ _ _ ((perm_sortUnits _).subset h)

theorem nodup_groupIds (units : List (AcademicUnit F)) :
    ((deduplicateContentUnits units).map AcademicUnit.groupId).Nodup :=
  ((perm_sortUnits _).map _).nodup_iff.mpr (List.nodup_map_representatives _ _ _)

/-- The units of the group of a unit that is kept mean the same. -/
theorem semantics_eq_of_mem_deduplicate (h : unit ∈ deduplicateContentUnits units)
    {other : AcademicUnit F} (hother : other ∈ units) (hgroup : other.groupId = unit.groupId) :
    other.semantics = unit.semantics :=
  List.meaning_eq_of_mem_representatives _ _ _ ((perm_sortUnits _).subset h) hother hgroup

theorem exists_mem_deduplicate (h : unit ∈ units)
    (hone : OneMeaning AcademicUnit.semantics (groupOf AcademicUnit.groupId units unit.groupId)) :
    ∃ kept ∈ deduplicateContentUnits units, kept.groupId = unit.groupId := by
  obtain ⟨kept, hkept, hgroup⟩ := List.exists_representative AcademicUnit.groupId
    AcademicUnit.semantics (fun unit => toLex (unit.assignedPartition.preference, unit.unitId)) h hone
  exact ⟨kept, (perm_sortUnits _).symm.subset hkept, hgroup⟩

/-- Units without a repeated content are all kept. -/
theorem perm_deduplicate (h : (units.map AcademicUnit.groupId).Nodup) :
    (deduplicateContentUnits units).Perm units :=
  (perm_sortUnits _).trans (List.representatives_perm _ _ _ h)

/-! ## Datasets -/

/-- The dataset of official units, unless the constructor raises -/
def officialDataset (name modality protocol : Text) (units : List (AcademicUnit F))
    (featureNames : List Text) (phase : Text) : Option (AcademicDataset F) :=
  if h : (∀ unit ∈ units, unit.evidenceOrigin = .officialNative) ∧
      (units.map AcademicUnit.unitId).Nodup then
    some
      { name, modality, protocol, units, featureNames, phase
        evidenceOrigin := .officialNative
        official := fun _ => rfl
        origins := h.1
        unitIds := h.2 }
  else none

theorem units_of_officialDataset {name modality protocol phase : Text} {featureNames : List Text}
    {dataset : AcademicDataset F}
    (h : officialDataset name modality protocol units featureNames phase = some dataset) :
    dataset.units = units := by
  unfold officialDataset at h
  split_ifs at h
  exact (Option.some.inj h) ▸ rfl

/-! ## Leakage -/

/-- The partitions that the units of each key are in -/
def memberships (key : AcademicUnit F → Text) (units : List (AcademicUnit F)) :
    List (Text × List Partition) :=
  (groups key units).map fun group =>
    (group.1, List.firstOccurrences (group.2.map AcademicUnit.assignedPartition))

/-- The keys whose units are not in one partition -/
def violations (key : AcademicUnit F → Text) (units : List (AcademicUnit F)) :
    List (Text × List Partition) :=
  (memberships key units).filter fun membership => membership.2.length ≠ 1

structure GroupLeakageAudit where
  groupCount : Nat
  unitCount : Nat
  groupViolations : List (Text × List Partition)
  unitViolations : List (Text × List Partition)

/-- `audit_group_leakage` -/
def auditGroupLeakage (dataset : AcademicDataset F) : GroupLeakageAudit where
  groupCount := (memberships AcademicUnit.groupId dataset.units).length
  unitCount := (memberships AcademicUnit.unitId dataset.units).length
  groupViolations := violations AcademicUnit.groupId dataset.units
  unitViolations := violations AcademicUnit.unitId dataset.units

def GroupLeakageAudit.passed (audit : GroupLeakageAudit) : Bool :=
  audit.groupViolations.isEmpty && audit.unitViolations.isEmpty

/-- A key that no two units share has no violation. -/
theorem violations_eq_nil {key : AcademicUnit F → Text} (h : (units.map key).Nodup) :
    violations key units = [] := by
  rw [violations, List.filter_eq_nil_iff]
  intro membership hmembership
  obtain ⟨group, hgroup, rfl⟩ := List.mem_map.mp hmembership
  obtain ⟨k, hk, rfl⟩ := List.mem_map.mp hgroup
  obtain ⟨unit, hunit, rfl⟩ := List.mem_map.mp (List.mem_firstOccurrences.mp hk)
  have hall : ∀ other ∈ groupOf key units (key unit), other = unit := fun other hother =>
    List.inj_on_of_nodup_map h ((List.mem_groupOf key).mp hother).1 hunit
      ((List.mem_groupOf key).mp hother).2
  have hmem : ∀ other, other ∈ groupOf key units (key unit) ↔ other ∈ [unit] := fun other => by
    refine ⟨fun h => List.mem_singleton.mpr (hall other h), fun h => ?_⟩
    rw [List.mem_singleton.mp h]
    exact (List.mem_groupOf key).mpr ⟨hunit, rfl⟩
  have hsingle : groupOf key units (key unit) = [unit] :=
    List.perm_singleton.mp ((List.perm_ext_iff_of_nodup ((h.of_map key).filter _)
      (List.nodup_singleton unit)).mpr hmem)
  simp [hsingle, List.firstOccurrences]

/-- A dataset that has each content once passes the audit. -/
theorem groupLeakage_passed {dataset : AcademicDataset F}
    (h : (dataset.units.map AcademicUnit.groupId).Nodup) : (auditGroupLeakage dataset).passed := by
  simp [GroupLeakageAudit.passed, auditGroupLeakage, violations_eq_nil h,
    violations_eq_nil dataset.unitIds]

end Contents

end TruthFingerprint.OfflineTraining
