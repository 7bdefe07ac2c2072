import Mathlib
import TruthFingerprint.Lib.Loops
import TruthFingerprint.OfflineTraining.NumericSchema

/-!
# Allocation of source units to the phases

A dataset declares for each phase the ranks at which the selection of a stratum starts and how many
units it takes. The runner audits the declarations: the intervals of the two phases must not meet,
and the counts must be the caps. The loaders read where a slice starts and how long it is. In a
dataset that passes the audit both are known for each stratum (`Allocated`).
-/

namespace TruthFingerprint.OfflineTraining

open Python (Coercions Members Value mapping)

inductive Phase where
  | pilot
  | confirmatory
deriving DecidableEq

def Phase.label : Phase → Text
  | .pilot => text "pilot"
  | .confirmatory => text "confirmatory"

/-- `DISJOINT_PRIORITY_SLICES_V1` -/
def disjointPrioritySlicesV1 : Text := text "disjoint-priority-slices-v1"

/-- `DISJOINT_CONTENT_PRIORITY_SLICES_V2` -/
def disjointContentPrioritySlicesV2 : Text := text "disjoint-content-priority-slices-v2"

def phaseAllocationMethods : List Text := [disjointPrioritySlicesV1, disjointContentPrioritySlicesV2]

/-! ## What the loaders read -/

section Loaders

variable {F : Type}

/-- The value is the string. -/
def isText (value : Option (Value F)) (t : Text) : Bool :=
  match value with
  | some (.str s) => s = t
  | _ => false

/-- The method of an allocation is one of those. -/
def hasMethod (allocation : Members F) (methods : List Text) : Bool :=
  methods.any fun method => isText (allocation.lookup (text "method")) method

/-- A non-negative integer that is no Boolean -/
def rank : Value F → Option Nat
  | .num (.int i) => if 0 ≤ i then some i.toNat else none
  | _ => none

/-- `config.get(name)`, which `None` stands for where it is missing -/
def present (members : Members F) (name : Text) : Option (Value F) :=
  match members.lookup name with
  | some .null => none
  | value => value

def phaseOffsets (allocation : Members F) (phase : Phase) : Option (Members F) := do
  guard (hasMethod allocation phaseAllocationMethods)
  let phaseRecord ← (allocation.lookup phase.label).bind mapping
  (phaseRecord.lookup (text "offsets")).bind mapping

/-- `_phase_rank_start` -/
def phaseRankStart (config : Members F) (phase : Phase) (stratum : Text) (fallback : Option Text) :
    Option Nat :=
  match present config (text "phase_allocation") with
  | none => some 0
  | some allocation => do
    let allocation ← mapping allocation
    let offsets ← phaseOffsets allocation phase
    match offsets.lookup stratum with
    | some raw => rank raw
    | none => (fallback.bind fun name => offsets.lookup name).bind rank

/-- `_phase_allocation_audit` of the loaders, of which only whether it raises is used -/
def Protocol.phaseAllocationAudit (config : Members F) (phase : Phase) : Option Unit :=
  match present config (text "phase_allocation") with
  | none => some ()
  | some allocation => do
    let allocation ← mapping allocation
    let offsets ← phaseOffsets allocation phase
    guard (offsets ≠ [] ∧ offsets.all fun offset => (rank offset.2).isSome)

/-- `_phase_caps` -/
def phaseCaps (config : Members F) (phase : Phase) : Option (Members F) :=
  match config.lookup (text "phase_caps") with
  | none => some []
  | some raw => (mapping raw).bind fun raw =>
    match raw.lookup phase.label with
    | none => some []
    | some selected => mapping selected

variable [Coercions F]

/-- `int(caps.get(name, 0))` -/
def countAt (caps : Members F) (name : Text) : Option Int :=
  match caps.lookup name with
  | none => some 0
  | some value => Python.int value

def natural (i : Int) : Option Nat := if 0 ≤ i then some i.toNat else none

/-- `_cap` -/
def cap (caps : Members F) (name : Text) : Option Nat := (countAt caps name).bind natural

/-- The caps of a partition of HAI -/
def partitionCaps (caps : Members F) (partition : Text) : Option (Members F) :=
  match caps.lookup partition with
  | none => some []
  | some raw => mapping raw

/-- `_hai_cap` -/
def haiCap (caps : Members F) (partition labelName : Text) : Option Nat :=
  (partitionCaps caps partition).bind fun caps => cap caps labelName

/-- `_hai_total_cap` -/
def haiTotalCap (caps : Members F) (partition : Text) : Option (Option Nat) :=
  (partitionCaps caps partition).bind fun caps =>
    match caps.lookup (text "total") with
    | none => some none
    | some raw => ((Python.int raw).bind natural).map some

end Loaders

/-! ## The audit of the runner -/

section Audit

variable {F : Type}

inductive ShapeIssue where
  | allocationNoObject
  | methodNotAllowed
  | phaseNoObject (phase : Phase)
  | offsetsEmpty (phase : Phase)
  | countsUnmatched (phase : Phase)
  | invalidOffset (phase : Phase)
  | invalidCount (phase : Phase)
  | strataDiffer
  | overlap (stratum : Text) (pilot confirmatory : Nat × Nat)
deriving DecidableEq

/-- The offsets and counts of a phase, which have the same strata -/
structure PhaseRecord where
  offsets : List (Text × Nat)
  counts : List (Text × Nat)

def orIssue {ε α : Type} (value : Option α) (issue : ε) : Except ε α :=
  match value with
  | some a => .ok a
  | none => .error issue

theorem orIssue_eq_ok {ε α : Type} {value : Option α} {issue : ε} {a : α} :
    orIssue value issue = .ok a ↔ value = some a := by
  cases value <;> simp [orIssue]

def requires {ε : Type} (p : Prop) [Decidable p] (issue : ε) : Except ε Unit :=
  if p then .ok () else .error issue

theorem requires_eq_ok {ε : Type} {p : Prop} [Decidable p] {issue : ε} {u : Unit} :
    requires p issue = .ok u ↔ p := by
  by_cases h : p <;> simp [requires, h]

/-- The names are those of the other. -/
def SameNames {α β : Type} (xs : List (Text × α)) (ys : List (Text × β)) : Prop :=
  (∀ x ∈ xs, x.1 ∈ ys.map Prod.fst) ∧ ∀ y ∈ ys, y.1 ∈ xs.map Prod.fst

instance {α β : Type} (xs : List (Text × α)) (ys : List (Text × β)) : Decidable (SameNames xs ys) :=
  inferInstanceAs (Decidable ((∀ x ∈ xs, _) ∧ ∀ y ∈ ys, _))

/-- The items of a dictionary with their values read -/
def mapValues {α β : Type} (read : α → Option β) (items : List (Text × α)) :
    Option (List (Text × β)) :=
  items.mapM fun item => (read item.2).map fun value => (item.1, value)

def rankFrom (least : Nat) (value : Value F) : Option Nat :=
  (rank value).filter fun n => least ≤ n

/-- The values as integers of at least `least` -/
def integersFrom (least : Nat) (values : Members F) : Option (List (Text × Nat)) :=
  mapValues (rankFrom least) values

def phaseRecord (allocation : Members F) (phase : Phase) : Except ShapeIssue PhaseRecord := do
  let phaseRecord ← orIssue ((allocation.lookup phase.label).bind mapping) (.phaseNoObject phase)
  let rawOffsets ← orIssue ((phaseRecord.lookup (text "offsets")).bind mapping) (.offsetsEmpty phase)
  requires (rawOffsets ≠ []) (.offsetsEmpty phase)
  let rawCounts ← orIssue ((phaseRecord.lookup (text "counts")).bind mapping)
    (.countsUnmatched phase)
  requires (SameNames rawCounts rawOffsets) (.countsUnmatched phase)
  let offsets ← orIssue (integersFrom 0 rawOffsets) (.invalidOffset phase)
  let counts ← orIssue (integersFrom 1 rawCounts) (.invalidCount phase)
  .ok ⟨offsets, counts⟩

/-- The interval of ranks that a phase takes of a stratum -/
def PhaseRecord.interval (record : PhaseRecord) (stratum : Text) : Nat × Nat :=
  let start := (record.offsets.lookup stratum).getD 0
  (start, start + (record.counts.lookup stratum).getD 0)

def Overlap (pilot confirmatory : Nat × Nat) : Prop :=
  max pilot.1 confirmatory.1 < min pilot.2 confirmatory.2

instance (pilot confirmatory : Nat × Nat) : Decidable (Overlap pilot confirmatory) :=
  inferInstanceAs (Decidable (_ < _))

/-- The first stratum whose intervals overlap -/
def overlapIssue (pilot confirmatory : PhaseRecord) : Option ShapeIssue :=
  (pilot.offsets.find? fun offset =>
      Overlap (pilot.interval offset.1) (confirmatory.interval offset.1)).map fun offset =>
    .overlap offset.1 (pilot.interval offset.1) (confirmatory.interval offset.1)

def allowedMethods (datasetKey : Text) : List Text :=
  if datasetKey = text "lid-ds-2021" then phaseAllocationMethods else [disjointPrioritySlicesV1]

/-- `_validate_phase_allocation_shape` -/
def validatePhaseAllocationShape (datasetKey : Text) (dataset : Members F) :
    Except ShapeIssue Unit := do
  let allocation ← orIssue ((dataset.lookup (text "phase_allocation")).bind mapping)
    .allocationNoObject
  requires (hasMethod allocation (allowedMethods datasetKey)) .methodNotAllowed
  let pilot ← phaseRecord allocation .pilot
  let confirmatory ← phaseRecord allocation .confirmatory
  requires (SameNames pilot.offsets confirmatory.offsets) .strataDiffer
  match overlapIssue pilot confirmatory with
  | some issue => .error issue
  | none => .ok ()

variable [Coercions F]

/-- `str(dataset.get("kind", ""))`, where only strings matter -/
def kindOf (dataset : Members F) : Text :=
  match dataset.lookup (text "kind") with
  | some (.str s) => s
  | _ => []

/-- `partition_cap.get("total", normal + attack)` -/
def partitionCount (caps : Members F) : Option Int := do
  let normal ← countAt caps (text "normal")
  let attack ← countAt caps (text "attack")
  match caps.lookup (text "total") with
  | some total => Python.int total
  | none => some (normal + attack)

/-- The strata of ADFA-LD with the names of their caps -/
def adfaCapNames : List (Text × Text) :=
  [(text "train", text "train"), (text "validation", text "validation"),
    (text "test_normal", text "test_normal"), (text "attack_per_class", text "test_attack_per_class")]

/-- The strata of LID-DS, which have one cap -/
def lidCapNames : List (Text × Text) :=
  lidRoles.map fun role => (role, text "archives_per_scenario_partition")

/-- `_expected_allocation_counts` of a phase -/
def expectedAllocationCounts (dataset : Members F) (phase : Phase) : Option (List (Text × Int)) := do
  let phaseCaps ← (dataset.lookup (text "phase_caps")).bind mapping
  let caps ← (phaseCaps.lookup phase.label).bind mapping
  let kind := kindOf dataset
  if kind = text "adfa-ld" then mapValues (countAt caps) adfaCapNames
  else if kind = text "lid-ds-2021" then mapValues (countAt caps) lidCapNames
  else if kind = text "hai-23.05" then
    haiRoles.mapM fun partition => do
      let partitionCap ← (caps.lookup partition).bind mapping
      let count ← partitionCount partitionCap
      some (partition, count)
  else none

inductive AuditReason where
  | shape (issue : ShapeIssue)
  | counts (phase : Phase) (declared expected : List (Text × Int))
deriving DecidableEq

/-- The dictionaries have the same items. -/
def SameItems (xs ys : List (Text × Int)) : Prop := (∀ x ∈ xs, x ∈ ys) ∧ ∀ y ∈ ys, y ∈ xs

instance (xs ys : List (Text × Int)) : Decidable (SameItems xs ys) :=
  inferInstanceAs (Decidable ((∀ x ∈ xs, _) ∧ ∀ y ∈ ys, _))

/-- What the audit says about a phase: the interval of each stratum, and a reason if the counts are
not the caps -/
def auditPhase (dataset : Members F) (phase : Phase) :
    Option (List (Text × Int × Int) × List AuditReason) := do
  let allocation ← (dataset.lookup (text "phase_allocation")).bind mapping
  let expected ← expectedAllocationCounts dataset phase
  let phaseRecord ← (allocation.lookup phase.label).bind mapping
  let offsets ← (phaseRecord.lookup (text "offsets")).bind mapping
  let counts ← (phaseRecord.lookup (text "counts")).bind mapping
  let intervals ← offsets.mapM fun offset => do
    let start ← Python.int offset.2
    let count ← (counts.lookup offset.1).bind Python.int
    some (offset.1, start, start + count)
  let declared ← mapValues Python.int counts
  some (intervals, if SameItems expected declared then [] else [.counts phase declared expected])

structure DatasetAudit where
  intervals : Phase → List (Text × Int × Int)
  reasons : List AuditReason

def DatasetAudit.passed (audit : DatasetAudit) : Bool := audit.reasons.isEmpty

/-- The audit of one dataset, none where it raises -/
def auditDataset (datasetKey : Text) (dataset : Members F) : Option DatasetAudit := do
  let shape := match validatePhaseAllocationShape datasetKey dataset with
    | .ok () => []
    | .error issue => [AuditReason.shape issue]
  let pilot ← auditPhase dataset .pilot
  let confirmatory ← auditPhase dataset .confirmatory
  some ⟨fun | .pilot => pilot.1 | .confirmatory => confirmatory.1,
    shape ++ pilot.2 ++ confirmatory.2⟩

/-- `CONFIG_SCHEMA_V2` -/
def configSchemaV2 : Text := text "thesis-evaluation-config-v2"

def isV2 (config : Members F) : Bool := isText (config.lookup (text "schema_version")) configSchemaV2

/-- `_dataset_configs` -/
def datasetConfigs (config : Members F) : Option (List (Text × Members F)) := do
  let raw ← (config.lookup (text "datasets")).bind mapping
  mapValues mapping raw

/-- The audits of the datasets by `_phase_allocation_audit`, and whether they pass -/
def phaseAllocationAudit (config : Members F) : Option (List (Text × DatasetAudit) × Bool) :=
  if !isV2 config then some ([], false)
  else do
    let datasets ← datasetConfigs config
    let audits ← datasets.mapM fun dataset =>
      (auditDataset dataset.1 dataset.2).map fun audit => (dataset.1, audit)
    some (audits, audits.all (·.2.passed) && !audits.isEmpty)

end Audit

/-! ## Datasets that pass -/

section MapValues

variable {α β : Type} {read : α → Option β} {items : List (Text × α)} {out : List (Text × β)}
  {name : Text} {a : α}

theorem mapValues_cons (item : Text × α) :
    mapValues read (item :: items) = some out ↔
      ∃ b rest, read item.2 = some b ∧ mapValues read items = some rest ∧
        out = (item.1, b) :: rest := by
  simp only [mapValues, List.mapM_cons, Option.bind_eq_bind, Option.bind_eq_some_iff,
    Option.map_eq_some_iff, Option.pure_def, Option.some.injEq]
  constructor
  · rintro ⟨_, ⟨b, hb, rfl⟩, rest, hrest, rfl⟩
    exact ⟨b, rest, hb, hrest, rfl⟩
  · rintro ⟨b, rest, hb, hrest, rfl⟩
    exact ⟨_, ⟨b, hb, rfl⟩, rest, hrest, rfl⟩

theorem map_fst_of_mapValues (h : mapValues read items = some out) :
    out.map Prod.fst = items.map Prod.fst := by
  induction items generalizing out with
  | nil =>
    cases h
    rfl
  | cons item items ih =>
    obtain ⟨b, rest, -, hrest, rfl⟩ := (mapValues_cons item).mp h
    rw [List.map_cons, List.map_cons, ih hrest]

theorem lookup_of_mapValues (h : mapValues read items = some out) (ha : items.lookup name = some a) :
    ∃ b, read a = some b ∧ out.lookup name = some b := by
  induction items generalizing out with
  | nil => simp at ha
  | cons item items ih =>
    obtain ⟨b, rest, hb, hrest, rfl⟩ := (mapValues_cons item).mp h
    obtain ⟨key, value⟩ := item
    by_cases hname : name = key
    · subst hname
      simp only [List.lookup_cons_self, Option.some.injEq] at ha
      subst ha
      exact ⟨b, hb, List.lookup_cons_self⟩
    · rw [List.lookup_cons, beq_eq_false_iff_ne.mpr hname] at ha ⊢
      exact ih hrest ha

theorem mem_of_mapValues (h : mapValues read items = some out) (hmem : (name, a) ∈ items) :
    ∃ b, read a = some b ∧ (name, b) ∈ out := by
  induction items generalizing out with
  | nil => simp at hmem
  | cons item items ih =>
    obtain ⟨b, rest, hb, hrest, rfl⟩ := (mapValues_cons item).mp h
    rcases List.mem_cons.mp hmem with rfl | hmem
    · exact ⟨b, hb, List.mem_cons_self⟩
    · obtain ⟨b', hb', hmem'⟩ := ih hrest hmem
      exact ⟨b', hb', List.mem_cons_of_mem _ hmem'⟩

theorem exists_lookup {items : List (Text × α)} (h : name ∈ items.map Prod.fst) :
    ∃ a, items.lookup name = some a := by
  induction items with
  | nil => simp at h
  | cons item items ih =>
    obtain ⟨key, value⟩ := item
    by_cases hname : name = key
    · exact ⟨value, by rw [hname, List.lookup_cons_self]⟩
    · rw [List.lookup_cons, beq_eq_false_iff_ne.mpr hname]
      exact ih ((List.mem_cons.mp h).resolve_left hname)

theorem mem_of_lookup {items : List (Text × α)} (h : items.lookup name = some a) :
    (name, a) ∈ items := by
  induction items with
  | nil => simp at h
  | cons item items ih =>
    obtain ⟨key, value⟩ := item
    by_cases hname : name = key
    · subst hname
      simp only [List.lookup_cons_self, Option.some.injEq] at h
      exact h ▸ List.mem_cons_self
    · rw [List.lookup_cons, beq_eq_false_iff_ne.mpr hname] at h
      exact List.mem_cons_of_mem _ (ih h)

theorem lookup_eq_none_of_not_mem {items : List (Text × α)} (h : name ∉ items.map Prod.fst) :
    items.lookup name = none := by
  cases hlookup : items.lookup name with
  | none => rfl
  | some a => exact absurd (List.mem_map.mpr ⟨_, mem_of_lookup hlookup, rfl⟩) h

end MapValues

section Passed

variable {F : Type} {datasetKey : Text} {dataset allocation : Members F} {phase : Phase}

@[simp] theorem mapping_eq_some {value : Value F} {members : Members F} :
    mapping value = some members ↔ value = .obj members := by
  cases value <;> simp [mapping]

theorem bind_mapping_eq_some {value : Option (Value F)} {members : Members F} :
    value.bind mapping = some members ↔ value = some (.obj members) := by
  cases value <;> simp

/-- What a phase declares, as it is written and as it is read -/
structure Declared (allocation : Members F) (phase : Phase) (offsets counts : Members F)
    (record : PhaseRecord) : Prop where
  inPhase : ∃ members, allocation.lookup phase.label = some (.obj members) ∧
    members.lookup (text "offsets") = some (.obj offsets) ∧
    members.lookup (text "counts") = some (.obj counts)
  sameNames : SameNames counts offsets
  offsetsRead : integersFrom 0 offsets = some record.offsets
  countsRead : integersFrom 1 counts = some record.counts

theorem declared_of_phaseRecord {record : PhaseRecord}
    (h : phaseRecord allocation phase = .ok record) :
    ∃ offsets counts, Declared allocation phase offsets counts record := by
  simp only [phaseRecord, Except.bind_eq_ok, orIssue_eq_ok, requires_eq_ok,
    bind_mapping_eq_some] at h
  obtain ⟨members, hmembers, offsets, hoffsets, _, -, counts, hcounts, _, hnames, offsetsRead,
    hoffsetsRead, countsRead, hcountsRead, hrecord⟩ := h
  obtain rfl : _ = record := Except.ok.inj hrecord
  exact ⟨offsets, counts, ⟨members, hmembers, hoffsets, hcounts⟩, hnames, hoffsetsRead, hcountsRead⟩

theorem rankFrom_eq_some {least n : Nat} {value : Value F} :
    rankFrom least value = some n ↔ rank value = some n ∧ least ≤ n := by
  simp [rankFrom, Option.filter_eq_some_iff]

namespace Declared

variable {offsets counts : Members F} {record : PhaseRecord} {role : Text}

theorem offset (h : Declared allocation phase offsets counts record)
    (hrole : role ∈ offsets.map Prod.fst) :
    ∃ raw start, offsets.lookup role = some raw ∧ rank raw = some start ∧
      record.offsets.lookup role = some start := by
  obtain ⟨raw, hraw⟩ := exists_lookup hrole
  obtain ⟨start, hstart, hlookup⟩ := lookup_of_mapValues h.offsetsRead hraw
  exact ⟨raw, start, hraw, (rankFrom_eq_some.mp hstart).1, hlookup⟩

theorem count (h : Declared allocation phase offsets counts record)
    (hrole : role ∈ counts.map Prod.fst) :
    ∃ raw n, counts.lookup role = some raw ∧ rank raw = some n ∧ 0 < n ∧
      record.counts.lookup role = some n := by
  obtain ⟨raw, hraw⟩ := exists_lookup hrole
  obtain ⟨n, hn, hlookup⟩ := lookup_of_mapValues h.countsRead hraw
  obtain ⟨hrank, hpos⟩ := rankFrom_eq_some.mp hn
  exact ⟨raw, n, hraw, hrank, hpos, hlookup⟩

end Declared

variable [Coercions F]

theorem int_of_rank {value : Value F} {n : Nat} (h : rank value = some n) :
    Python.int value = some (n : Int) := by
  unfold rank at h
  split at h
  · split_ifs at h with hi
    have hn : _ = n := Option.some.inj h
    rw [Python.int, ← hn, Int.toNat_of_nonneg hi]
  · simp at h

/-- The strata of a kind of dataset -/
def rolesOfKind (kind : Text) : List Text :=
  if kind = text "adfa-ld" then adfaRoles
  else if kind = text "lid-ds-2021" then lidRoles
  else if kind = text "hai-23.05" then haiRoles
  else []

theorem map_fst_expected {expected : List (Text × Int)}
    (h : expectedAllocationCounts dataset phase = some expected) :
    expected.map Prod.fst = rolesOfKind (kindOf dataset) := by
  simp only [expectedAllocationCounts, Option.bind_eq_bind, Option.bind_eq_some_iff] at h
  obtain ⟨_, -, caps, -, h⟩ := h
  unfold rolesOfKind
  split_ifs at h ⊢
  · exact map_fst_of_mapValues h
  · exact map_fst_of_mapValues h
  · simp only [haiRoles, List.mapM_cons, List.mapM_nil, Option.bind_eq_bind,
      Option.bind_eq_some_iff, Option.some.injEq, Option.pure_def] at h
    obtain ⟨_, ⟨_, -, _, -, rfl⟩, _, ⟨_, ⟨_, -, _, -, rfl⟩, _, ⟨_, ⟨_, -, _, -, rfl⟩, _, rfl, rfl⟩,
      rfl⟩, rfl⟩ := h
    rfl

/-- The ranks at which the slices of a stratum start and how many units they take. -/
structure Allocated (dataset : Members F) (role : Text) (start count : Phase → Nat) : Prop where
  rankStart : ∀ phase stratum, stratum ∉ rolesOfKind (kindOf dataset) ∨ stratum = role →
    phaseRankStart dataset phase stratum (some role) = some (start phase)
  pos : ∀ phase, 0 < count phase
  apart : start .pilot + count .pilot ≤ start .confirmatory ∨
    start .confirmatory + count .confirmatory ≤ start .pilot
  expected : ∀ phase, ∃ expected, expectedAllocationCounts dataset phase = some expected ∧
    (role, (count phase : Int)) ∈ expected

theorem Declared.sameItems {offsets counts : Members F} {record : PhaseRecord}
    {result : List (Text × Int × Int) × List AuditReason}
    (h : Declared allocation phase offsets counts record)
    (hallocation : dataset.lookup (text "phase_allocation") = some (.obj allocation))
    (hresult : auditPhase dataset phase = some result) (hreasons : result.2 = []) :
    ∃ expected declared, expectedAllocationCounts dataset phase = some expected ∧
      mapValues Python.int counts = some declared ∧ SameItems expected declared := by
  obtain ⟨members, hmembers, hoffsets, hcounts⟩ := h.inPhase
  simp only [auditPhase, hallocation, hmembers, hoffsets, hcounts, mapping, Option.bind_eq_bind,
    Option.bind_some, Option.bind_eq_some_iff, Option.some.injEq] at hresult
  obtain ⟨expected, hexpected, intervals, -, declared, hdeclared, rfl⟩ := hresult
  refine ⟨expected, declared, hexpected, hdeclared, ?_⟩
  by_contra hnot
  simp [hnot] at hreasons

omit [Coercions F] in
theorem hasMethod_allowed (h : hasMethod allocation (allowedMethods datasetKey)) :
    hasMethod allocation phaseAllocationMethods := by
  unfold allowedMethods at h
  split_ifs at h
  · exact h
  · simp only [hasMethod, phaseAllocationMethods, List.any_cons, List.any_nil, Bool.or_eq_true] at h ⊢
    simp_all

/-- What the audit found, as the loaders read it -/
structure Passed (datasetKey : Text) (dataset allocation : Members F) : Prop where
  hasAllocation : dataset.lookup (text "phase_allocation") = some (.obj allocation)
  method : hasMethod allocation (allowedMethods datasetKey)
  declared : ∃ (offsets counts : Phase → Members F) (record : Phase → PhaseRecord),
    (∀ phase, Declared allocation phase (offsets phase) (counts phase) (record phase)) ∧
    overlapIssue (record .pilot) (record .confirmatory) = none ∧
    ∀ phase, ∃ expected declared, expectedAllocationCounts dataset phase = some expected ∧
      mapValues Python.int (counts phase) = some declared ∧ SameItems expected declared

theorem passed_of_auditDataset {audit : DatasetAudit}
    (h : auditDataset datasetKey dataset = some audit) (hpassed : audit.passed) :
    ∃ allocation, Passed datasetKey dataset allocation := by
  simp only [auditDataset, Option.bind_eq_bind, Option.bind_eq_some_iff, Option.some.injEq] at h
  obtain ⟨pilot, hpilot, confirmatory, hconfirmatory, rfl⟩ := h
  simp only [DatasetAudit.passed, List.isEmpty_iff, List.append_eq_nil_iff] at hpassed
  obtain ⟨⟨hshape, hpilotReasons⟩, hconfirmatoryReasons⟩ := hpassed
  cases hvalid : validatePhaseAllocationShape datasetKey dataset with
  | error issue => simp [hvalid] at hshape
  | ok u =>
    simp only [validatePhaseAllocationShape, Except.bind_eq_ok, orIssue_eq_ok, requires_eq_ok,
      bind_mapping_eq_some] at hvalid
    obtain ⟨allocation, hallocation, _, hmethod, pilotRecord, hpilotRecord, confirmatoryRecord,
      hconfirmatoryRecord, _, -, hoverlap⟩ := hvalid
    obtain ⟨pilotOffsets, pilotCounts, hpilotDeclared⟩ := declared_of_phaseRecord hpilotRecord
    obtain ⟨confirmatoryOffsets, confirmatoryCounts, hconfirmatoryDeclared⟩ :=
      declared_of_phaseRecord hconfirmatoryRecord
    have hoverlap : overlapIssue pilotRecord confirmatoryRecord = none := by
      cases hissue : overlapIssue pilotRecord confirmatoryRecord with
      | none => rfl
      | some issue => simp [hissue] at hoverlap
    refine ⟨allocation, hallocation, hmethod,
      fun | .pilot => pilotOffsets | .confirmatory => confirmatoryOffsets,
      fun | .pilot => pilotCounts | .confirmatory => confirmatoryCounts,
      fun | .pilot => pilotRecord | .confirmatory => confirmatoryRecord, ?_, hoverlap, ?_⟩
    · intro phase
      cases phase with
      | pilot => exact hpilotDeclared
      | confirmatory => exact hconfirmatoryDeclared
    · intro phase
      cases phase with
      | pilot => exact hpilotDeclared.sameItems hallocation hpilot hpilotReasons
      | confirmatory =>
        exact hconfirmatoryDeclared.sameItems hallocation hconfirmatory hconfirmatoryReasons

theorem Passed.exists_allocated {allocation : Members F}
    (h : Passed datasetKey dataset allocation) {role : Text}
    (hrole : role ∈ rolesOfKind (kindOf dataset)) :
    ∃ start count, Allocated dataset role start count := by
  obtain ⟨offsets, counts, record, hdeclared, hoverlap, hexpected⟩ := h.declared
  -- The strata of both dictionaries are those of the kind.
  have hnames : ∀ phase name, name ∈ (counts phase).map Prod.fst ↔
      name ∈ rolesOfKind (kindOf dataset) := by
    intro phase name
    obtain ⟨expected, declared, hexp, hdecl, hsame⟩ := hexpected phase
    rw [← map_fst_of_mapValues hdecl, ← map_fst_expected hexp]
    exact ⟨fun hmem => List.map_subset _ (fun x hx => hsame.2 x hx) hmem,
      fun hmem => List.map_subset _ (fun x hx => hsame.1 x hx) hmem⟩
  have hoffsets : ∀ phase name, name ∈ (offsets phase).map Prod.fst ↔
      name ∈ rolesOfKind (kindOf dataset) := by
    intro phase name
    have hsame := (hdeclared phase).sameNames
    rw [← hnames phase]
    constructor
    · intro hmem
      obtain ⟨item, hitem, rfl⟩ := List.mem_map.mp hmem
      exact hsame.2 item hitem
    · intro hmem
      obtain ⟨item, hitem, rfl⟩ := List.mem_map.mp hmem
      exact hsame.1 item hitem
  choose rawStart start hrawStart hstart hrecordStart using fun phase =>
    (hdeclared phase).offset ((hoffsets phase role).mpr hrole)
  choose rawCount count hrawCount hcount hpos hrecordCount using fun phase =>
    (hdeclared phase).count ((hnames phase role).mpr hrole)
  refine ⟨start, count, ?_, hpos, ?_, ?_⟩
  · intro phase stratum hstratum
    obtain ⟨members, hmembers, hmemberOffsets, -⟩ := (hdeclared phase).inPhase
    have hphase : phaseOffsets allocation phase = some (offsets phase) := by
      simp only [phaseOffsets, Option.bind_eq_bind, Option.bind_eq_some_iff]
      have hmethod : hasMethod allocation phaseAllocationMethods := hasMethod_allowed h.method
      exact ⟨(), by simp [hmethod], members, by simp [hmembers], by simp [hmemberOffsets]⟩
    rw [phaseRankStart, present, h.hasAllocation]
    simp only [mapping, Option.bind_eq_bind, Option.bind_some, hphase]
    rcases hstratum with hstratum | rfl
    · rw [lookup_eq_none_of_not_mem (mt (hoffsets phase stratum).mp hstratum)]
      simp [hrawStart, hstart]
    · simp [hrawStart, hstart]
  · have hnot : ¬Overlap ((record .pilot).interval role) ((record .confirmatory).interval role) := by
      rw [overlapIssue, Option.map_eq_none_iff, List.find?_eq_none] at hoverlap
      have := hoverlap _ (mem_of_lookup (hrecordStart .pilot))
      simpa using this
    simp only [Overlap, PhaseRecord.interval, hrecordStart, hrecordCount, Option.getD_some] at hnot
    have hpilot := hpos .pilot
    have hconfirmatory := hpos .confirmatory
    omega
  · intro phase
    obtain ⟨expected, declared, hexp, hdecl, hsame⟩ := hexpected phase
    obtain ⟨n, hn, hmem⟩ := mem_of_mapValues hdecl (mem_of_lookup (hrawCount phase))
    obtain rfl : _ = n := Option.some.inj ((int_of_rank (hcount phase)).symm.trans hn)
    exact ⟨expected, hexp, hsame.2 _ hmem⟩

theorem cap_of_countAt {caps : Members F} {name : Text} {n : Nat}
    (h : countAt caps name = some (n : Int)) : cap caps name = some n := by
  rw [cap, h, Option.bind_some, natural, if_pos (Int.natCast_nonneg n), Int.toNat_natCast]

omit [Coercions F] in
theorem phaseCaps_of_lookup {raw caps : Members F}
    (h : dataset.lookup (text "phase_caps") = some (.obj raw))
    (hcaps : raw.lookup phase.label = some (.obj caps)) : phaseCaps dataset phase = some caps := by
  simp [phaseCaps, h, hcaps, mapping]

theorem lookup_of_mem {α : Type} {items : List (Text × α)} {name : Text} {a : α}
    (hnodup : (items.map Prod.fst).Nodup) (h : (name, a) ∈ items) : items.lookup name = some a := by
  obtain ⟨b, hb⟩ := exists_lookup (List.mem_map.mpr ⟨_, h, rfl⟩)
  have heq := List.inj_on_of_nodup_map hnodup (mem_of_lookup hb) h rfl
  rw [hb, (Prod.mk.inj heq).2]

/-- The names of the caps of the strata, where each stratum has one -/
def capNames (kind : Text) : List (Text × Text) :=
  if kind = text "adfa-ld" then adfaCapNames
  else if kind = text "lid-ds-2021" then lidCapNames
  else []

theorem nodup_capNames (kind : Text) : ((capNames kind).map Prod.fst).Nodup := by
  unfold capNames
  split_ifs
  · decide
  · decide
  · exact List.nodup_nil

/-- The loaders take as many units of a stratum as the audit counts. -/
theorem Allocated.cap_eq {role capName : Text} {start count : Phase → Nat}
    (h : Allocated dataset role start count) (hcapName : (role, capName) ∈ capNames (kindOf dataset))
    (phase : Phase) :
    ∃ caps, phaseCaps dataset phase = some caps ∧ cap caps capName = some (count phase) := by
  obtain ⟨expected, hexpected, hmem⟩ := h.expected phase
  simp only [expectedAllocationCounts, Option.bind_eq_bind, Option.bind_eq_some_iff,
    mapping_eq_some, exists_eq_right] at hexpected
  obtain ⟨raw, hraw, caps, hcaps, hexpected⟩ := hexpected
  have hread : mapValues (countAt caps) (capNames (kindOf dataset)) = some expected := by
    unfold capNames at hcapName ⊢
    split_ifs at hexpected hcapName ⊢
    · exact hexpected
    · exact hexpected
    · simp at hcapName
  have hnodup := nodup_capNames (kindOf dataset)
  obtain ⟨n, hn, hlookup⟩ := lookup_of_mapValues hread (lookup_of_mem hnodup hcapName)
  rw [← map_fst_of_mapValues hread] at hnodup
  obtain rfl : _ = n := Option.some.inj ((lookup_of_mem hnodup hmem).symm.trans hlookup)
  exact ⟨caps, phaseCaps_of_lookup hraw hcaps, cap_of_countAt hn⟩

end Passed

end TruthFingerprint.OfflineTraining
