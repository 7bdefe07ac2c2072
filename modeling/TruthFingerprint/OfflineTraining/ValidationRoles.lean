import TruthFingerprint.Lib.Dict
import TruthFingerprint.Lib.Grouping
import TruthFingerprint.Lib.Loops
import TruthFingerprint.Lib.PrefixSplit
import TruthFingerprint.OfflineTraining.FitIsolation
import TruthFingerprint.OfflineTraining.PhaseAllocation

/-!
# Validation roles

The validation windows are for early stopping or for the calibration of the threshold. Whole clusters
are cut in two in the order of their hashes, so that neither part has too few units. No cluster and
no unit is in both roles, the cut is the nearest to the fraction that is configured, and the order of
the windows does not matter (`validationRoles_exact`).
-/

namespace TruthFingerprint.OfflineTraining.ValidationRoles

open DecimalText (natText)
open Evidence (isEncodable)
open Python (Coercions FloatOps Members Value mapping)

inductive RoleError where
  | value (message : Text)
  | runtime (message : Text)
  | type
  | index
  /-- A text without an encoding, or a number that is too long -/
  | hash
deriving DecidableEq

def valueError {α : Type} (message : String) : Except RoleError α := .error (.value (text message))

/-! ## Partitions -/

structure PartitionArrays (X : Type) where
  x : List X
  windowIds : List Text
  unitIds : List Text
  labels : List ℕ
  classNames : List Text
  eventIds : List (List Text)
  clusterIds : List Text
  evidenceOrigins : List Text

/-- `PreparedPartition`, with what `__post_init__` has checked -/
structure PreparedPartition (X : Type) extends PartitionArrays X where
  labels_binary : ∀ label ∈ labels, label ≤ 1
  labels_length : labels.length = windowIds.length

section Partitions

variable {X : Type}

def preparedPartition (arrays : PartitionArrays X) : Except RoleError (PreparedPartition X) :=
  if hbinary : ∀ label ∈ arrays.labels, label ≤ 1 then
    if hlength : arrays.labels.length = arrays.windowIds.length then
      .ok ⟨arrays, hbinary, hlength⟩
    else valueError "PreparedPartition labels and window_ids must align."
  else valueError "PreparedPartition.labels must contain binary labels."

/-- `cluster_ids or unit_ids` -/
def PartitionArrays.clusters (arrays : PartitionArrays X) : List Text :=
  if arrays.clusterIds = [] then arrays.unitIds else arrays.clusterIds

def PartitionArrays.origins (arrays : PartitionArrays X) : List Text :=
  if arrays.evidenceOrigins = [] then arrays.windowIds.map fun _ => text "test_fixture"
  else arrays.evidenceOrigins

/-- `tuple(values[index] for index in indices)` -/
def valuesAt {α : Type} (values : List α) (indices : List ℕ) : Except RoleError (List α) :=
  indices.mapM fun i =>
    match values[i]? with
    | some value => .ok value
    | none => .error .index

/-- `_subset_prepared_partition` -/
def subsetPreparedPartition (arrays : PartitionArrays X) (indices : List ℕ) :
    Except RoleError (PreparedPartition X) :=
  if indices = [] then valueError "prepared partition subset cannot be empty"
  else do
    let x ← valuesAt arrays.x indices
    let windowIds ← valuesAt arrays.windowIds indices
    let unitIds ← valuesAt arrays.unitIds indices
    let labels ← valuesAt arrays.labels indices
    let classNames ← valuesAt arrays.classNames indices
    let eventIds ← valuesAt arrays.eventIds indices
    let clusterIds ← valuesAt arrays.clusters indices
    let evidenceOrigins ← valuesAt arrays.origins indices
    preparedPartition ⟨x, windowIds, unitIds, labels, classNames, eventIds, clusterIds, evidenceOrigins⟩

end Partitions

/-! ## The protocol -/

/-- `UINT32_MAX` -/
def uint32Max : ℕ := 4294967295

section Protocol

variable {F : Type} [Coercions F] [Field F] [LinearOrder F]

structure ValidationProtocol (F : Type) [Coercions F] [Field F] [LinearOrder F] where
  earlyStoppingFraction : F
  splitSeed : ℕ
  minimumUnits : ℕ
  fraction_finite : FloatOps.isFinite earlyStoppingFraction
  fraction_pos : 0 < earlyStoppingFraction
  fraction_lt : earlyStoppingFraction < 1
  seed_le : splitSeed ≤ uint32Max
  minimum_pos : 1 ≤ minimumUnits

/-- An integer that is no boolean -/
def exactInt : Value F → Option ℤ
  | .num (.int i) => some i
  | _ => none

/-- What is read and checked of `validation_protocol` -/
def validationProtocol (config : Members F) : Except RoleError (ValidationProtocol F) :=
  match (config.lookup (text "validation_protocol")).bind mapping with
  | none => valueError "validation_protocol must be an object."
  | some protocol =>
    match (protocol.lookup (text "early_stopping_fraction")).bind Python.float with
    | none => .error .type
    | some fraction =>
      if hfraction : FloatOps.isFinite fraction ∧ 0 < fraction ∧ fraction < 1 then
        match (protocol.lookup (text "split_seed")).bind exactInt with
        | some (.ofNat seed) =>
          if hseed : seed ≤ uint32Max then
            match (protocol.lookup (text "minimum_units_per_role")).bind exactInt with
            | some (.ofNat minimum) =>
              if hminimum : 1 ≤ minimum then
                .ok ⟨fraction, seed, minimum, hfraction.1, hfraction.2.1, hfraction.2.2, hseed, hminimum⟩
              else valueError "minimum_units_per_role must be a positive integer"
            | _ => valueError "minimum_units_per_role must be a positive integer"
          else seedError
        | _ => seedError
      else valueError "early_stopping_fraction must be finite and between zero and one"
where
  seedError := valueError ("validation_protocol.split_seed must be an integer in the uint32 range " ++
    "0..4294967295.")

end Protocol

/-! ## The plan -/

structure RolePlan where
  stoppingClusters : List Text
  calibrationClusters : List Text
  stoppingUnits : ℕ
  calibrationUnits : ℕ
deriving DecidableEq

/-- `unit_cluster.setdefault`, for a unit that may be there in the same cluster -/
def assignUnit (unitCluster : List (Text × Text)) (pair : Text × Text) :
    Except RoleError (List (Text × Text)) :=
  match unitCluster.lookup pair.1 with
  | none => .ok (unitCluster ++ [pair])
  | some prior =>
    if prior = pair.2 then .ok unitCluster
    else .error (.value (text "validation unit '" ++ pair.1 ++
      text "' spans multiple dependence clusters"))

/-- The cluster of each unit, in the order in which the units come -/
def unitClusters (pairs : List (Text × Text)) : Except RoleError (List (Text × Text)) :=
  pairs.foldlM assignUnit []

def clusterKey (seed : ℕ) (cluster : Text) : Text ×ₗ Text :=
  toLex (Sha256.hexDigest (natText seed ++ ':'.codePoint :: cluster).utf8, cluster)

/-- Clusters by their hashes -/
def orderClusters (seed : ℕ) (clusters : List Text) : List Text :=
  clusters.insertionSort fun c d => clusterKey seed c ≤ clusterKey seed d

section Roles

variable {F X : Type} [Coercions F] [Field F] [LinearOrder F]

/-- The clusters of the roles, for units with their clusters -/
def planRoles (protocol : ValidationProtocol F) (pairs : List (Text × Text)) :
    Except RoleError RolePlan := do
  let unitCluster ← unitClusters pairs
  let clusterUnits := List.groups Prod.snd unitCluster
  if clusterUnits.length < 2 then
    valueError "v2 validation-role separation requires at least two independent clusters"
  else if clusterUnits.any fun group => !isEncodable group.1 then .error .hash
  else
    let ordered := orderClusters protocol.splitSeed (clusterUnits.map Prod.fst)
    let counts := ordered.map fun cluster => (List.groupOf Prod.snd unitCluster cluster).length
    match PrefixSplit.best (protocol.earlyStoppingFraction * unitCluster.length)
      protocol.minimumUnits unitCluster.length counts with
    | none => valueError ("v2 validation clusters cannot satisfy minimum_units_per_role without " ++
        "dependence leakage")
    | some (boundary, stopping, calibration) =>
      .ok ⟨ordered.take boundary, ordered.drop boundary, stopping, calibration⟩

/-- The windows of a cluster among some, by their indices -/
def indicesIn (clusters chosen : List Text) : List ℕ :=
  (List.range clusters.length).filter fun i => clusters[i]?.any (· ∈ chosen)

/-! ## `_validation_role_partitions` -/

/-- `sorted(set(ids))` -/
def sortedSet (ids : List Text) : List Text := ids.dedup.insertionSort (· ≤ ·)

def roleDoc (role : String) (units clusters windows : List Text) : Value F :=
  .obj [(text "role", .str (text role)), (text "units", textsDoc units),
    (text "clusters", textsDoc clusters), (text "windows", textsDoc windows)]

def assignmentDoc (protocol : ValidationProtocol F) (stopping calibration : Text) : Value F :=
  .obj [(text "method", .str (text "stable-disjoint-cluster-priority-v1")),
    (text "seed", natDoc protocol.splitSeed),
    (text "fraction", .num (.float protocol.earlyStoppingFraction)),
    (text "minimum_units_per_role", natDoc protocol.minimumUnits),
    (text "early_stopping_identity", .str stopping), (text "calibration_identity", .str calibration)]

/-- `canonical_json_hash`, or its exception -/
def identityOf (document : Value F) : Except RoleError Text :=
  match canonicalJsonHash document with
  | some identity => .ok identity
  | none => .error .hash

structure RoleAudit (F : Type) where
  method : Text
  independentRoles : Bool
  splitSeed : Option ℕ
  configuredFraction : Option F
  minimumUnitsPerRole : Option ℕ
  earlyStoppingUnits : ℕ
  calibrationUnits : ℕ
  earlyStoppingWindows : ℕ
  calibrationWindows : ℕ
  earlyStoppingClusters : Option ℕ
  calibrationClusters : Option ℕ
  sharedUnitCount : ℕ
  sharedClusterCount : ℕ
  /-- The identities of early stopping, of the calibration and of the assignment -/
  identities : Option (Text × Text × Text)

/-- The roles of a version 1 share the windows. -/
def legacyAudit (validation : PreparedPartition X) : RoleAudit F where
  method := text "legacy-shared-validation-v1"
  independentRoles := false
  splitSeed := none
  configuredFraction := none
  minimumUnitsPerRole := none
  earlyStoppingUnits := (sortedSet validation.unitIds).length
  calibrationUnits := (sortedSet validation.unitIds).length
  earlyStoppingWindows := validation.windowIds.length
  calibrationWindows := validation.windowIds.length
  earlyStoppingClusters := none
  calibrationClusters := none
  sharedUnitCount := (sortedSet validation.unitIds).length
  sharedClusterCount := (sortedSet validation.clusters).length
  identities := none

def checkValidation (validation : PreparedPartition X) : Except RoleError Unit :=
  if validation.labels.length ≠ validation.windowIds.length then
    valueError "validation labels and window identities are misaligned"
  else if validation.labels = [] ∨ ∃ label ∈ validation.labels, label ≠ 0 then
    valueError ("v2 early-stopping and threshold-calibration validation must be non-empty and " ++
      "normal-only")
  else if validation.clusters.length ≠ validation.windowIds.length then
    valueError "validation cluster identities and windows are misaligned"
  else if [] ∈ validation.clusters then
    valueError "validation cluster identities must be non-empty"
  else .ok ()

/-- The audit of two roles with their identities -/
def auditRoles (protocol : ValidationProtocol F) (plan : RolePlan)
    (stopping calibration : PreparedPartition X) : Except RoleError (RoleAudit F) := do
  let stoppingIdentity ← identityOf (roleDoc (F := F) "early-stopping" (sortedSet stopping.unitIds)
    (sortedSet plan.stoppingClusters) (stopping.windowIds.insertionSort (· ≤ ·)))
  let calibrationIdentity ← identityOf (roleDoc (F := F) "threshold-calibration"
    (sortedSet calibration.unitIds) (sortedSet plan.calibrationClusters)
    (calibration.windowIds.insertionSort (· ≤ ·)))
  let identity ← identityOf (assignmentDoc protocol stoppingIdentity calibrationIdentity)
  .ok
    { method := text "stable-disjoint-cluster-priority-v1"
      independentRoles := true
      splitSeed := some protocol.splitSeed
      configuredFraction := some protocol.earlyStoppingFraction
      minimumUnitsPerRole := some protocol.minimumUnits
      earlyStoppingUnits := plan.stoppingUnits
      calibrationUnits := plan.calibrationUnits
      earlyStoppingWindows := stopping.windowIds.length
      calibrationWindows := calibration.windowIds.length
      earlyStoppingClusters := some plan.stoppingClusters.length
      calibrationClusters := some plan.calibrationClusters.length
      sharedUnitCount := 0
      sharedClusterCount := 0
      identities := some (stoppingIdentity, calibrationIdentity, identity) }

/-- The roles of a version 2 -/
def splitRoles (protocol : ValidationProtocol F) (validation : PreparedPartition X) :
    Except RoleError (PreparedPartition X × PreparedPartition X × RoleAudit F) := do
  checkValidation validation
  let plan ← planRoles protocol (validation.unitIds.zip validation.clusters)
  let stopping ← subsetPreparedPartition validation.toPartitionArrays
    (indicesIn validation.clusters plan.stoppingClusters)
  let calibration ← subsetPreparedPartition validation.toPartitionArrays
    (indicesIn validation.clusters plan.calibrationClusters)
  if ∃ unit ∈ stopping.unitIds, unit ∈ calibration.unitIds then
    .error (.runtime (text "validation role split leaked a unit across roles"))
  else if ∃ cluster ∈ plan.stoppingClusters, cluster ∈ plan.calibrationClusters then
    .error (.runtime (text "validation role split leaked a dependence cluster across roles"))
  else do
    let audit ← auditRoles protocol plan stopping calibration
    .ok (stopping, calibration, audit)

def validationRolePartitions (validation : PreparedPartition X) (config : Members F) :
    Except RoleError (PreparedPartition X × PreparedPartition X × RoleAudit F) :=
  if !isV2 config then .ok (validation, validation, legacyAudit validation)
  else do
    let protocol ← validationProtocol config
    splitRoles protocol validation

end Roles

/-! ## Units and their clusters -/

section Pairs

variable {pairs pairs' : List (Text × Text)} {clusters : List Text} {seed : ℕ}

/-- No unit is in two clusters. -/
def OneCluster (pairs : List (Text × Text)) : Prop :=
  ∀ pair ∈ pairs, ∀ other ∈ pairs, pair.1 = other.1 → pair.2 = other.2

instance : Decidable (OneCluster pairs) :=
  inferInstanceAs (Decidable (∀ pair ∈ pairs, ∀ other ∈ pairs, pair.1 = other.1 → pair.2 = other.2))

/-- How many units are in some clusters -/
def unitsIn (pairs : List (Text × Text)) (clusters : List Text) : ℕ :=
  ((pairs.filter (·.2 ∈ clusters)).map Prod.fst).dedup.length

/-- How many units there are -/
def unitCount (pairs : List (Text × Text)) : ℕ := (pairs.map Prod.fst).dedup.length

/-- The clusters by their hashes -/
def hashOrdered (seed : ℕ) (pairs : List (Text × Text)) : List Text :=
  orderClusters seed (pairs.map Prod.snd).dedup

theorem OneCluster.perm (h : OneCluster pairs) (hperm : pairs'.Perm pairs) : OneCluster pairs' :=
  fun pair hpair other hother =>
    h pair (hperm.subset hpair) other (hperm.subset hother)

theorem unitsIn_perm (hperm : pairs'.Perm pairs) (clusters : List Text) :
    unitsIn pairs' clusters = unitsIn pairs clusters :=
  (((hperm.filter _).map Prod.fst).dedup).length_eq

theorem unitCount_perm (hperm : pairs'.Perm pairs) : unitCount pairs' = unitCount pairs :=
  ((hperm.map Prod.fst).dedup).length_eq

theorem clusterKey_inj {c d : Text} (h : clusterKey seed c = clusterKey seed d) : c = d :=
  congrArg (fun key => (ofLex key).2) h

theorem orderClusters_perm {clusters' : List Text} (h : clusters'.Perm clusters) :
    orderClusters seed clusters' = orderClusters seed clusters :=
  List.insertionSort_eq_of_perm (clusterKey seed) (fun _ _ _ _ => Iff.rfl)
    (fun _ _ _ _ heq => clusterKey_inj heq) h

theorem hashOrdered_perm (hperm : pairs'.Perm pairs) : hashOrdered seed pairs' = hashOrdered seed pairs :=
  orderClusters_perm (hperm.map Prod.snd).dedup

theorem nodup_hashOrdered (seed : ℕ) (pairs : List (Text × Text)) : (hashOrdered seed pairs).Nodup :=
  (List.perm_insertionSort _ _).nodup_iff.mpr (List.nodup_dedup _)

theorem mem_hashOrdered {cluster : Text} :
    cluster ∈ hashOrdered seed pairs ↔ cluster ∈ pairs.map Prod.snd := by
  rw [hashOrdered, orderClusters, List.mem_insertionSort, List.mem_dedup]

theorem mem_of_lookup {unitCluster : List (Text × Text)} {unit cluster : Text}
    (h : unitCluster.lookup unit = some cluster) : (unit, cluster) ∈ unitCluster := by
  obtain ⟨before, after, rfl, -⟩ := List.lookup_eq_some_iff.mp h
  exact List.mem_append_right _ List.mem_cons_self

/-- A unit more is in one cluster if it is there with that cluster, or not at all. -/
theorem assignUnit_eq_ok_iff {pair : Text × Text} {unitCluster : List (Text × Text)}
    (hone : OneCluster pairs) :
    assignUnit (List.firstOccurrences pairs) pair = .ok unitCluster ↔
      OneCluster (pairs ++ [pair]) ∧ unitCluster = List.firstOccurrences (pairs ++ [pair]) := by
  rw [assignUnit, List.firstOccurrences_append_singleton, List.appendNew]
  cases hlookup : (List.firstOccurrences pairs).lookup pair.1 with
  | none =>
    have hnew : ∀ other ∈ pairs, other.1 ≠ pair.1 := by
      intro other hother heq
      have hsome := Dict.lookup_isSome_iff.mpr
        (List.mem_map_of_mem (f := Prod.fst) (List.mem_firstOccurrences.mpr hother))
      rw [heq, hlookup] at hsome
      exact Bool.false_ne_true hsome
    have hone' : OneCluster (pairs ++ [pair]) := by
      intro p hp q hq heq
      rw [List.mem_append, List.mem_singleton] at hp hq
      rcases hp with hp | rfl
      · rcases hq with hq | rfl
        · exact hone p hp q hq heq
        · exact absurd heq (hnew p hp)
      · rcases hq with hq | rfl
        · exact absurd heq.symm (hnew q hq)
        · rfl
    have hnot : pair ∉ List.firstOccurrences pairs := fun hmem =>
      hnew pair (List.mem_firstOccurrences.mp hmem) rfl
    rw [if_neg hnot]
    exact ⟨fun h => ⟨hone', (Except.ok.inj h).symm⟩, fun h => congrArg Except.ok h.2.symm⟩
  | some prior =>
    have hprior := List.mem_firstOccurrences.mp (mem_of_lookup hlookup)
    by_cases heq : prior = pair.2
    · subst heq
      have hpair : pair ∈ List.firstOccurrences pairs := List.mem_firstOccurrences.mpr hprior
      have hone' : OneCluster (pairs ++ [pair]) := by
        have hsub : ∀ p ∈ pairs ++ [pair], p ∈ pairs := fun p hp =>
          (List.mem_append.mp hp).elim (fun h => h) fun h => List.mem_singleton.mp h ▸ hprior
        exact fun p hp q hq => hone p (hsub p hp) q (hsub q hq)
      rw [if_pos hpair]
      simp only [if_true]
      exact ⟨fun h => ⟨hone', (Except.ok.inj h).symm⟩, fun h => congrArg Except.ok h.2.symm⟩
    · simp only [if_neg heq]
      refine iff_of_false (fun h => by cases h) fun h => heq ?_
      exact h.1 _ (List.mem_append_left _ hprior) _ (List.mem_append_right _ List.mem_cons_self) rfl

/-- The loop over the units finds the cluster of each, unless one is in two. -/
theorem unitClusters_eq_ok_iff {unitCluster : List (Text × Text)} :
    unitClusters pairs = .ok unitCluster ↔
      OneCluster pairs ∧ unitCluster = List.firstOccurrences pairs := by
  induction pairs using List.reverseRecOn generalizing unitCluster with
  | nil =>
    rw [List.firstOccurrences_nil]
    exact ⟨fun h => ⟨fun _ h => absurd h List.not_mem_nil, (Except.ok.inj h).symm⟩,
      fun h => congrArg Except.ok h.2.symm⟩
  | append_singleton pairs pair ih =>
    rw [unitClusters, List.foldlM_append]
    simp only [List.foldlM_cons, List.foldlM_nil, bind_pure]
    constructor
    · intro h
      obtain ⟨before, hbefore, h⟩ := Except.bind_eq_ok.mp h
      obtain ⟨hone, rfl⟩ := ih.mp hbefore
      exact (assignUnit_eq_ok_iff hone).mp h
    · intro h
      have hone : OneCluster pairs := fun p hp q hq =>
        h.1 p (List.mem_append_left _ hp) q (List.mem_append_left _ hq)
      exact Except.bind_eq_ok.mpr ⟨_, ih.mpr ⟨hone, rfl⟩, (assignUnit_eq_ok_iff hone).mpr h⟩

/-- Units of some clusters, counted by their first occurrences -/
theorem countP_firstOccurrences (hone : OneCluster pairs) (clusters : List Text) :
    (List.firstOccurrences pairs).countP (·.2 ∈ clusters) = unitsIn pairs clusters := by
  rw [List.countP_eq_length_filter, unitsIn, ← List.length_map (f := Prod.fst)]
  have hnodup : (((List.firstOccurrences pairs).filter (·.2 ∈ clusters)).map Prod.fst).Nodup := by
    refine List.Nodup.map_on (fun p hp q hq heq => ?_) ((List.nodup_firstOccurrences pairs).filter _)
    have hp := List.mem_firstOccurrences.mp (List.mem_of_mem_filter hp)
    have hq := List.mem_firstOccurrences.mp (List.mem_of_mem_filter hq)
    exact Prod.ext heq (hone p hp q hq heq)
  refine ((List.perm_ext_iff_of_nodup hnodup (List.nodup_dedup _)).mpr fun unit => ?_).length_eq
  rw [List.mem_dedup, List.mem_map, List.mem_map]
  simp only [List.mem_filter, List.mem_firstOccurrences]

theorem length_firstOccurrences (hone : OneCluster pairs) :
    (List.firstOccurrences pairs).length = unitCount pairs := by
  have hall : pairs.filter (·.2 ∈ pairs.map Prod.snd) = pairs :=
    List.filter_eq_self.mpr fun pair hpair => decide_eq_true (List.mem_map_of_mem hpair)
  have hcount := countP_firstOccurrences hone (pairs.map Prod.snd)
  rw [unitsIn, hall] at hcount
  rw [unitCount, ← hcount, eq_comm, List.countP_eq_length]
  intro pair hpair
  exact decide_eq_true (List.mem_map_of_mem (List.mem_firstOccurrences.mp hpair))

theorem countP_mem_cons {units : List (Text × Text)} {cluster : Text} (h : cluster ∉ clusters) :
    units.countP (·.2 ∈ [cluster]) + units.countP (·.2 ∈ clusters) =
      units.countP (·.2 ∈ cluster :: clusters) := by
  induction units with
  | nil => rfl
  | cons unit units ih =>
    simp only [List.countP_cons, List.mem_cons, List.not_mem_nil, or_false, decide_eq_true_eq]
      at ih ⊢
    rw [← ih]
    by_cases heq : unit.2 = cluster
    · have hnot : unit.2 ∉ clusters := heq ▸ h
      simp only [heq, h, true_or, if_true, if_false]
      omega
    · simp only [heq, false_or, if_false]
      omega

/-- Clusters together have the units of each. -/
theorem sum_unitsIn (hone : OneCluster pairs) (hclusters : clusters.Nodup) :
    (clusters.map fun cluster => unitsIn pairs [cluster]).sum = unitsIn pairs clusters := by
  simp only [← countP_firstOccurrences hone]
  induction clusters with
  | nil => simp
  | cons cluster clusters ih =>
    obtain ⟨hnot, hclusters⟩ := List.nodup_cons.mp hclusters
    rw [List.map_cons, List.sum_cons, ih hclusters, countP_mem_cons hnot]

/-- How many units each cluster has -/
def clusterCounts (seed : ℕ) (pairs : List (Text × Text)) : List ℕ :=
  (hashOrdered seed pairs).map fun cluster => unitsIn pairs [cluster]

theorem before_clusterCounts (hone : OneCluster pairs) (seed boundary : ℕ) :
    PrefixSplit.before (clusterCounts seed pairs) boundary =
      unitsIn pairs ((hashOrdered seed pairs).take boundary) := by
  rw [PrefixSplit.before, clusterCounts, ← List.map_take]
  exact sum_unitsIn hone ((nodup_hashOrdered seed pairs).sublist (List.take_sublist _ _))

end Pairs

/-! ## The plan of the roles -/

section Plan

variable {F : Type} [Coercions F] [Field F] [LinearOrder F] {protocol : ValidationProtocol F}
  {pairs pairs' : List (Text × Text)} {plan : RolePlan}

/-- The best cut of the clusters -/
def bestCut (protocol : ValidationProtocol F) (pairs : List (Text × Text)) : Option (ℕ × ℕ × ℕ) :=
  PrefixSplit.best (protocol.earlyStoppingFraction * unitCount pairs) protocol.minimumUnits
    (unitCount pairs) (clusterCounts protocol.splitSeed pairs)

def planOfCut (seed : ℕ) (pairs : List (Text × Text)) (cut : ℕ × ℕ × ℕ) : RolePlan :=
  ⟨(hashOrdered seed pairs).take cut.1, (hashOrdered seed pairs).drop cut.1, cut.2.1, cut.2.2⟩

/-- What the clusters have to be for a plan -/
structure Plannable (pairs : List (Text × Text)) : Prop where
  one : OneCluster pairs
  two : 2 ≤ (pairs.map Prod.snd).dedup.length
  encodable : ∀ pair ∈ pairs, isEncodable pair.2

theorem keys_groups_perm :
    ((List.groups Prod.snd (List.firstOccurrences pairs)).map Prod.fst).Perm
      (pairs.map Prod.snd).dedup := by
  have hkeys : (List.groups Prod.snd (List.firstOccurrences pairs)).map Prod.fst =
      List.firstOccurrences ((List.firstOccurrences pairs).map Prod.snd) := by
    simp [List.groups, Function.comp_def]
  rw [hkeys]
  refine (List.perm_ext_iff_of_nodup (List.nodup_firstOccurrences _) (List.nodup_dedup _)).mpr
    fun cluster => ?_
  rw [List.mem_firstOccurrences, List.mem_dedup, List.mem_map, List.mem_map]
  simp only [List.mem_firstOccurrences]

theorem length_groupOf (hone : OneCluster pairs) (cluster : Text) :
    (List.groupOf Prod.snd (List.firstOccurrences pairs) cluster).length =
      unitsIn pairs [cluster] := by
  rw [← countP_firstOccurrences hone, List.countP_eq_length_filter, List.groupOf]
  simp only [List.mem_singleton]

theorem any_groups :
    (List.groups Prod.snd (List.firstOccurrences pairs)).any (fun group => !isEncodable group.1) =
      true ↔ ∃ pair ∈ pairs, ¬isEncodable pair.2 := by
  rw [List.any_eq_true]
  constructor
  · rintro ⟨group, hgroup, hnot⟩
    have hmem := keys_groups_perm.subset (List.mem_map_of_mem hgroup)
    obtain ⟨pair, hpair, heq⟩ := List.mem_map.mp (List.mem_dedup.mp hmem)
    exact ⟨pair, hpair, by simpa [heq] using hnot⟩
  · rintro ⟨pair, hpair, hnot⟩
    have hmem := keys_groups_perm.mem_iff.mpr
      (List.mem_dedup.mpr (List.mem_map_of_mem (f := Prod.snd) hpair))
    obtain ⟨group, hgroup, heq⟩ := List.mem_map.mp hmem
    exact ⟨group, hgroup, by simpa [heq] using hnot⟩

/-- The plan of units that are in one cluster each -/
theorem planRoles_of_oneCluster (hone : OneCluster pairs) : planRoles protocol pairs =
    if (pairs.map Prod.snd).dedup.length < 2 then
      valueError "v2 validation-role separation requires at least two independent clusters"
    else if ∃ pair ∈ pairs, ¬isEncodable pair.2 then .error .hash
    else
      match bestCut protocol pairs with
      | none => valueError ("v2 validation clusters cannot satisfy minimum_units_per_role without " ++
          "dependence leakage")
      | some cut => .ok (planOfCut protocol.splitSeed pairs cut) := by
  have hordered : orderClusters protocol.splitSeed
      ((List.groups Prod.snd (List.firstOccurrences pairs)).map Prod.fst) =
        hashOrdered protocol.splitSeed pairs := orderClusters_perm keys_groups_perm
  have hlength : (List.groups Prod.snd (List.firstOccurrences pairs)).length =
      (pairs.map Prod.snd).dedup.length := by
    rw [← keys_groups_perm.length_eq, List.length_map]
  have hcut : PrefixSplit.best (protocol.earlyStoppingFraction * unitCount pairs)
      protocol.minimumUnits (unitCount pairs) ((hashOrdered protocol.splitSeed pairs).map
        fun cluster => unitsIn pairs [cluster]) = bestCut protocol pairs := rfl
  rw [planRoles, unitClusters_eq_ok_iff.mpr ⟨hone, rfl⟩]
  simp only [bind, Except.bind, hlength, hordered, length_groupOf hone, length_firstOccurrences hone,
    any_groups, hcut]
  cases bestCut protocol pairs with
  | none => rfl
  | some cut => rfl

theorem planRoles_eq_ok_iff : planRoles protocol pairs = .ok plan ↔
    Plannable pairs ∧ ∃ cut, bestCut protocol pairs = some cut ∧
      plan = planOfCut protocol.splitSeed pairs cut := by
  constructor
  · intro h
    obtain ⟨unitCluster, hunits, -⟩ := Except.bind_eq_ok.mp (by rw [planRoles] at h; exact h)
    have hone := (unitClusters_eq_ok_iff.mp hunits).1
    rw [planRoles_of_oneCluster hone] at h
    split_ifs at h with htwo hencodable
    · cases h
    · push Not at hencodable
      refine ⟨⟨hone, not_lt.mp htwo, hencodable⟩, ?_⟩
      cases hcut : bestCut protocol pairs with
      | none => rw [hcut] at h; cases h
      | some cut =>
        rw [hcut] at h
        exact ⟨cut, rfl, (Except.ok.inj h).symm⟩
  · rintro ⟨h, cut, hcut, rfl⟩
    have hencodable : ¬∃ pair ∈ pairs, ¬isEncodable pair.2 := by
      push Not
      exact h.encodable
    rw [planRoles_of_oneCluster h.one, if_neg (not_lt.mpr h.two), if_neg hencodable, hcut]

theorem Plannable.perm (h : Plannable pairs) (hperm : pairs'.Perm pairs) : Plannable pairs' where
  one := h.one.perm hperm
  two := (hperm.map Prod.snd).dedup.length_eq ▸ h.two
  encodable pair hpair := h.encodable pair (hperm.subset hpair)

theorem bestCut_perm (hperm : pairs'.Perm pairs) : bestCut protocol pairs' = bestCut protocol pairs := by
  have hcounts : clusterCounts protocol.splitSeed pairs' = clusterCounts protocol.splitSeed pairs := by
    rw [clusterCounts, clusterCounts, hashOrdered_perm hperm]
    exact List.map_congr_left fun cluster _ => unitsIn_perm hperm _
  rw [bestCut, bestCut, hcounts, unitCount_perm hperm]

theorem planOfCut_perm (hperm : pairs'.Perm pairs) (seed : ℕ) (cut : ℕ × ℕ × ℕ) :
    planOfCut seed pairs' cut = planOfCut seed pairs cut := by
  rw [planOfCut, planOfCut, hashOrdered_perm hperm]

end Plan

/-! ## Windows as rows -/

/-- What the sequences of a partition have for a window -/
structure WindowRow (X : Type) where
  x : X
  windowId : Text
  unitId : Text
  label : ℕ
  className : Text
  eventIds : List Text
  cluster : Text
  origin : Text

section Rows

variable {X : Type} {arrays : PartitionArrays X} {rows : List (WindowRow X)} {chosen : List Text}

/-- The sequences of a partition are those of its windows. -/
structure HasRows (arrays : PartitionArrays X) (rows : List (WindowRow X)) : Prop where
  x : arrays.x = rows.map (·.x)
  windowIds : arrays.windowIds = rows.map (·.windowId)
  unitIds : arrays.unitIds = rows.map (·.unitId)
  labels : arrays.labels = rows.map (·.label)
  classNames : arrays.classNames = rows.map (·.className)
  eventIds : arrays.eventIds = rows.map (·.eventIds)
  clusters : arrays.clusters = rows.map (·.cluster)
  origins : arrays.origins = rows.map (·.origin)

theorem filterMap_getElem?_range {α : Type} (l : List α) :
    (List.range l.length).filterMap (l[·]?) = l := by
  induction l using List.reverseRecOn with
  | nil => rfl
  | append_singleton l a ih =>
    have hl : (List.range l.length).filterMap ((l ++ [a])[·]?) = l := by
      conv_rhs => rw [← ih]
      refine List.filterMap_congr fun i hi => ?_
      rw [List.getElem?_append_left (List.mem_range.mp hi)]
    rw [List.length_append, List.length_singleton, List.range_succ, List.filterMap_append, hl]
    simp

/-- The values at the indices whose value is wanted -/
theorem filterMap_indices {α : Type} (l : List α) (p : α → Bool) :
    ((List.range l.length).filter fun i => l[i]?.any p).filterMap (l[·]?) = l.filter p := by
  have hfilter : l.filter p = ((List.range l.length).filterMap (l[·]?)).filter p := by
    rw [filterMap_getElem?_range]
  rw [hfilter, List.filter_filterMap, List.filterMap_filter]
  refine List.filterMap_congr fun i _ => ?_
  cases l[i]? with
  | none => simp
  | some a => cases h : p a <;> simp [h, Option.filter]

theorem indicesIn_map (rows : List (WindowRow X)) (chosen : List Text) :
    (indicesIn (rows.map (·.cluster)) chosen).filterMap (rows[·]?) =
      rows.filter (·.cluster ∈ chosen) := by
  rw [← filterMap_indices rows fun row => row.cluster ∈ chosen, indicesIn, List.length_map]
  congr 2
  funext i
  rw [List.getElem?_map]
  cases rows[i]? <;> rfl

theorem lt_of_mem_indicesIn {clusters : List Text} {i : ℕ} (h : i ∈ indicesIn clusters chosen) :
    i < clusters.length := List.mem_range.mp (List.mem_of_mem_filter h)

theorem valuesAt_map {α β : Type} {values : List α} {indices : List ℕ} (f : α → β)
    (h : ∀ i ∈ indices, i < values.length) :
    valuesAt (values.map f) indices = .ok ((indices.filterMap (values[·]?)).map f) := by
  induction indices with
  | nil => rfl
  | cons i indices ih =>
    obtain ⟨hi, hindices⟩ := List.forall_mem_cons.mp h
    have hvalue : values[i]? = some values[i] := List.getElem?_eq_getElem hi
    have htail := ih hindices
    rw [valuesAt] at htail
    rw [valuesAt, List.mapM_cons, List.getElem?_map, hvalue, htail, List.filterMap_cons, hvalue]
    rfl

/-- The sequences of some windows -/
def ofRows (rows : List (WindowRow X)) : PartitionArrays X where
  x := rows.map (·.x)
  windowIds := rows.map (·.windowId)
  unitIds := rows.map (·.unitId)
  labels := rows.map (·.label)
  classNames := rows.map (·.className)
  eventIds := rows.map (·.eventIds)
  clusterIds := rows.map (·.cluster)
  evidenceOrigins := rows.map (·.origin)

theorem hasRows_ofRows (rows : List (WindowRow X)) : HasRows (ofRows rows) rows := by
  cases rows with
  | nil => exact ⟨rfl, rfl, rfl, rfl, rfl, rfl, rfl, rfl⟩
  | cons row rows => exact ⟨rfl, rfl, rfl, rfl, rfl, rfl, rfl, rfl⟩

/-- The windows of the chosen clusters are a part of the partition, with all that they have. -/
theorem HasRows.subset (h : HasRows arrays rows) (hbinary : ∀ label ∈ arrays.labels, label ≤ 1)
    (hchosen : ∃ row ∈ rows, row.cluster ∈ chosen) :
    ∃ part, subsetPreparedPartition arrays (indicesIn arrays.clusters chosen) = .ok part ∧
      part.toPartitionArrays = ofRows (rows.filter (·.cluster ∈ chosen)) := by
  have hindices := indicesIn_map rows chosen
  have hlt : ∀ i ∈ indicesIn (rows.map (·.cluster)) chosen, i < rows.length := fun i hi => by
    simpa using lt_of_mem_indicesIn hi
  have hnonempty : indicesIn (rows.map (·.cluster)) chosen ≠ [] := by
    intro hnil
    rw [hnil] at hindices
    obtain ⟨row, hrow, hmem⟩ := hchosen
    have hrow : row ∈ rows.filter (·.cluster ∈ chosen) :=
      List.mem_filter.mpr ⟨hrow, decide_eq_true hmem⟩
    rw [← hindices] at hrow
    exact List.not_mem_nil hrow
  have hlabels : ∀ label ∈ (ofRows (rows.filter (·.cluster ∈ chosen))).labels, label ≤ 1 := by
    intro label hlabel
    obtain ⟨row, hrow, rfl⟩ := List.mem_map.mp hlabel
    refine hbinary _ ?_
    rw [h.labels]
    exact List.mem_map_of_mem (List.mem_of_mem_filter hrow)
  have hlength : (ofRows (rows.filter (·.cluster ∈ chosen))).labels.length =
      (ofRows (rows.filter (·.cluster ∈ chosen))).windowIds.length :=
    (List.length_map _).trans (List.length_map _).symm
  have hpart : preparedPartition (ofRows (rows.filter (·.cluster ∈ chosen))) =
      .ok ⟨ofRows (rows.filter (·.cluster ∈ chosen)), hlabels, hlength⟩ := by
    rw [preparedPartition, dif_pos hlabels, dif_pos hlength]
  refine ⟨⟨ofRows (rows.filter (·.cluster ∈ chosen)), hlabels, hlength⟩, ?_, rfl⟩
  rw [subsetPreparedPartition, h.clusters, if_neg hnonempty, h.x, h.windowIds, h.unitIds, h.labels,
    h.classNames, h.eventIds, h.origins]
  simp only [valuesAt_map _ hlt, hindices, bind, Except.bind]
  exact hpart

/-- All sequences but those of the clusters and the labels have the length of the windows. -/
structure Aligned (arrays : PartitionArrays X) : Prop where
  x : arrays.x.length = arrays.windowIds.length
  unitIds : arrays.unitIds.length = arrays.windowIds.length
  classNames : arrays.classNames.length = arrays.windowIds.length
  eventIds : arrays.eventIds.length = arrays.windowIds.length
  origins : arrays.origins.length = arrays.windowIds.length

theorem eq_map_ofFn {α β : Type} {values : List α} {n : ℕ} (h : values.length = n) {row : Fin n → β}
    {f : β → α} (hrow : ∀ i, f (row i) = values.get (i.cast h.symm)) :
    values = (List.ofFn row).map f := by
  subst h
  rw [List.map_ofFn]
  refine (List.ofFn_get values).symm.trans (congrArg List.ofFn (funext fun i => ?_))
  exact (hrow i).symm

theorem Aligned.exists_rows (h : Aligned arrays) (hlabels : arrays.labels.length = arrays.windowIds.length)
    (hclusters : arrays.clusters.length = arrays.windowIds.length) : ∃ rows, HasRows arrays rows :=
  ⟨List.ofFn fun i => ⟨arrays.x.get (i.cast h.x.symm), arrays.windowIds.get i,
      arrays.unitIds.get (i.cast h.unitIds.symm), arrays.labels.get (i.cast hlabels.symm),
      arrays.classNames.get (i.cast h.classNames.symm), arrays.eventIds.get (i.cast h.eventIds.symm),
      arrays.clusters.get (i.cast hclusters.symm), arrays.origins.get (i.cast h.origins.symm)⟩,
    eq_map_ofFn h.x fun _ => rfl, eq_map_ofFn rfl fun _ => rfl, eq_map_ofFn h.unitIds fun _ => rfl,
    eq_map_ofFn hlabels fun _ => rfl, eq_map_ofFn h.classNames fun _ => rfl,
    eq_map_ofFn h.eventIds fun _ => rfl, eq_map_ofFn hclusters fun _ => rfl,
    eq_map_ofFn h.origins fun _ => rfl⟩

end Rows

/-! ## Identities -/

section Identities

variable {F : Type}

theorem hashable_roleDoc {role : String} {units clusters windows : List Text} :
    Hashable (roleDoc role units clusters windows : Value F) ↔ (∀ unit ∈ units, isEncodable unit) ∧
      (∀ cluster ∈ clusters, isEncodable cluster) ∧ ∀ window ∈ windows, isEncodable window := by
  simp only [roleDoc, hashable_obj, List.forall_mem_cons, hashable_str, textsDoc, hashable_arr,
    List.forall_mem_map, Evidence.isEncodable_text, true_and, List.not_mem_nil, false_imp_iff,
    implies_true, and_true]

variable [Coercions F]

theorem identityOf_eq_ok {document : Value F} {identity : Text} (h : identityOf document = .ok identity) :
    Hashable document ∧ isEncodable identity := by
  rw [identityOf] at h
  cases hhash : canonicalJsonHash document with
  | none =>
    rw [hhash] at h
    cases h
  | some content =>
    rw [hhash] at h
    cases h
    rw [canonicalJsonHash] at hhash
    split_ifs at hhash with hashable
    cases hhash
    exact ⟨hashable, Evidence.isEncodable_bytesId _⟩

theorem exists_identityOf {document : Value F} (h : Hashable document) :
    ∃ identity, identityOf document = .ok identity := by
  obtain ⟨content, hcontent⟩ := exists_canonicalJsonHash h
  exact ⟨_, by rw [identityOf, hcontent]⟩

end Identities

/-! ## The cut of the windows -/

section Split

variable {F X : Type} [Coercions F] [Field F] [LinearOrder F] {protocol : ValidationProtocol F}
  {pairs : List (Text × Text)} {rows rows' : List (WindowRow X)} {boundary : ℕ}
  {validation stopping calibration : PreparedPartition X} {plan : RolePlan} {audit : RoleAudit F}

/-- The units of the windows, with their clusters -/
def unitPairs (rows : List (WindowRow X)) : List (Text × Text) :=
  rows.map fun row => (row.unitId, row.cluster)

/-- The first clusters leave both roles with enough units. -/
structure AdmissiblePrefix (protocol : ValidationProtocol F) (pairs : List (Text × Text))
    (boundary : ℕ) : Prop where
  pos : 1 ≤ boundary
  lt : boundary < (hashOrdered protocol.splitSeed pairs).length
  stopping : protocol.minimumUnits ≤
    unitsIn pairs ((hashOrdered protocol.splitSeed pairs).take boundary)
  calibration : protocol.minimumUnits ≤
    unitsIn pairs ((hashOrdered protocol.splitSeed pairs).drop boundary)

theorem unitsIn_hashOrdered (seed : ℕ) (pairs : List (Text × Text)) :
    unitsIn pairs (hashOrdered seed pairs) = unitCount pairs := by
  have hall : pairs.filter (·.2 ∈ hashOrdered seed pairs) = pairs :=
    List.filter_eq_self.mpr fun pair hpair =>
      decide_eq_true (mem_hashOrdered.mpr (List.mem_map_of_mem hpair))
  rw [unitsIn, hall, unitCount]

theorem unitsIn_drop (hone : OneCluster pairs) (seed boundary : ℕ) :
    unitsIn pairs ((hashOrdered seed pairs).drop boundary) =
      unitCount pairs - unitsIn pairs ((hashOrdered seed pairs).take boundary) := by
  have hnodup := nodup_hashOrdered seed pairs
  have hsum : unitsIn pairs ((hashOrdered seed pairs).take boundary) +
      unitsIn pairs ((hashOrdered seed pairs).drop boundary) = unitCount pairs := by
    rw [← unitsIn_hashOrdered seed, ← sum_unitsIn hone hnodup,
      ← sum_unitsIn hone (hnodup.sublist (List.take_sublist boundary _)),
      ← sum_unitsIn hone (hnodup.sublist (List.drop_sublist boundary _)),
      ← List.sum_append, ← List.map_append, List.take_append_drop]
  omega

theorem admissiblePrefix_iff (hone : OneCluster pairs) :
    AdmissiblePrefix protocol pairs boundary ↔
      PrefixSplit.Admissible protocol.minimumUnits (unitCount pairs)
        (clusterCounts protocol.splitSeed pairs) boundary := by
  have hlength : (clusterCounts protocol.splitSeed pairs).length =
      (hashOrdered protocol.splitSeed pairs).length := List.length_map _
  have hbefore := before_clusterCounts hone protocol.splitSeed boundary
  have hdrop := unitsIn_drop hone protocol.splitSeed boundary
  constructor
  · intro h
    exact ⟨h.pos, hlength ▸ h.lt, hbefore ▸ h.stopping, by rw [hbefore, ← hdrop]; exact h.calibration⟩
  · intro h
    exact ⟨h.pos, hlength ▸ h.lt, hbefore ▸ h.first, by rw [hdrop, ← hbefore]; exact h.second⟩

/-- What the windows of a partition have to be, but for texts that cannot be hashed -/
structure NormalRows (rows : List (WindowRow X)) : Prop where
  nonempty : rows ≠ []
  normal : ∀ row ∈ rows, row.label = 0
  named : ∀ row ∈ rows, row.cluster ≠ []

theorem NormalRows.perm (h : NormalRows rows) (hperm : rows'.Perm rows) : NormalRows rows' where
  nonempty hnil := h.nonempty (List.nil_perm.mp (hnil ▸ hperm))
  normal row hrow := h.normal row (hperm.subset hrow)
  named row hrow := h.named row (hperm.subset hrow)

theorem checkValidation_eq_ok : checkValidation validation = .ok () ↔
    (validation.labels ≠ [] ∧ ∀ label ∈ validation.labels, label = 0) ∧
      validation.clusters.length = validation.windowIds.length ∧ [] ∉ validation.clusters := by
  rw [checkValidation, if_neg (not_not.mpr validation.labels_length)]
  constructor
  · intro h
    split_ifs at h with hnormal hlength hnamed
    · cases h
    · cases h
    · cases h
    · push Not at hnormal hlength
      exact ⟨hnormal, hlength, hnamed⟩
  · rintro ⟨hnormal, hlength, hnamed⟩
    have hnot : ¬(validation.labels = [] ∨ ∃ label ∈ validation.labels, label ≠ 0) := by
      push Not
      exact hnormal
    rw [if_neg hnot, if_neg (not_not.mpr hlength), if_neg hnamed]

theorem checkValidation_eq_ok_iff (h : HasRows validation.toPartitionArrays rows) :
    checkValidation validation = .ok () ↔ NormalRows rows := by
  rw [checkValidation_eq_ok, h.labels, h.clusters, h.windowIds, Ne, List.map_eq_nil_iff,
    List.forall_mem_map, List.length_map, List.length_map]
  constructor
  · rintro ⟨⟨hnonempty, hnormal⟩, -, hnamed⟩
    exact ⟨hnonempty, hnormal, fun row hrow heq => hnamed (List.mem_map.mpr ⟨row, hrow, heq⟩)⟩
  · intro h
    refine ⟨⟨h.nonempty, h.normal⟩, rfl, fun hmem => ?_⟩
    obtain ⟨row, hrow, heq⟩ := List.mem_map.mp hmem
    exact h.named row hrow heq

theorem exists_aligned_rows (halign : Aligned validation.toPartitionArrays)
    (h : checkValidation validation = .ok ()) : ∃ rows, HasRows validation.toPartitionArrays rows :=
  halign.exists_rows validation.labels_length (checkValidation_eq_ok.mp h).2.1

/-! ### The roles of a plan -/

/-- The windows of the first clusters -/
def stoppingRows (seed : ℕ) (rows : List (WindowRow X)) (boundary : ℕ) : List (WindowRow X) :=
  rows.filter (·.cluster ∈ (hashOrdered seed (unitPairs rows)).take boundary)

/-- The windows of the other clusters -/
def calibrationRows (seed : ℕ) (rows : List (WindowRow X)) (boundary : ℕ) : List (WindowRow X) :=
  rows.filter (·.cluster ∉ (hashOrdered seed (unitPairs rows)).take boundary)

theorem mem_hashOrdered_of_row {seed : ℕ} {row : WindowRow X} (h : row ∈ rows) :
    row.cluster ∈ hashOrdered seed (unitPairs rows) :=
  mem_hashOrdered.mpr (List.mem_map.mpr ⟨_, List.mem_map_of_mem h, rfl⟩)

theorem exists_row {seed : ℕ} {cluster : Text} (h : cluster ∈ hashOrdered seed (unitPairs rows)) :
    ∃ row ∈ rows, row.cluster = cluster := by
  obtain ⟨pair, hpair, rfl⟩ := List.mem_map.mp (mem_hashOrdered.mp h)
  obtain ⟨row, hrow, rfl⟩ := List.mem_map.mp hpair
  exact ⟨row, hrow, rfl⟩

theorem mem_drop_iff {clusters : List Text} (hnodup : clusters.Nodup) {cluster : Text}
    (h : cluster ∈ clusters) (boundary : ℕ) :
    cluster ∈ clusters.drop boundary ↔ cluster ∉ clusters.take boundary := by
  rw [← List.take_append_drop boundary clusters] at h hnodup
  have hdisjoint := (List.nodup_append.mp hnodup).2.2
  constructor
  · exact fun hdrop htake => hdisjoint _ htake _ hdrop rfl
  · exact (List.mem_append.mp h).resolve_left

theorem filter_drop_eq_calibrationRows (seed : ℕ) (rows : List (WindowRow X)) (boundary : ℕ) :
    rows.filter (·.cluster ∈ (hashOrdered seed (unitPairs rows)).drop boundary) =
      calibrationRows seed rows boundary := by
  refine List.filter_congr fun row hrow => decide_eq_decide.mpr ?_
  exact mem_drop_iff (nodup_hashOrdered _ _) (mem_hashOrdered_of_row hrow) boundary

/-- The parts of a cut are not empty. -/
theorem exists_row_take {seed : ℕ} (hpos : 1 ≤ boundary)
    (hlt : boundary < (hashOrdered seed (unitPairs rows)).length) :
    ∃ row ∈ rows, row.cluster ∈ (hashOrdered seed (unitPairs rows)).take boundary := by
  have hmem := List.getElem_mem (l := (hashOrdered seed (unitPairs rows)).take boundary) (n := 0)
    (by rw [List.length_take]; omega)
  obtain ⟨row, hrow, heq⟩ := exists_row (List.mem_of_mem_take hmem)
  exact ⟨row, hrow, heq ▸ hmem⟩

theorem exists_row_drop {seed : ℕ} (hlt : boundary < (hashOrdered seed (unitPairs rows)).length) :
    ∃ row ∈ rows, row.cluster ∈ (hashOrdered seed (unitPairs rows)).drop boundary := by
  have hmem := List.getElem_mem (l := (hashOrdered seed (unitPairs rows)).drop boundary) (n := 0)
    (by rw [List.length_drop]; omega)
  obtain ⟨row, hrow, heq⟩ := exists_row (List.mem_of_mem_drop hmem)
  exact ⟨row, hrow, heq ▸ hmem⟩

/-- With a cut, the roles are the windows of its parts. -/
theorem splitRoles_of_cut (h : HasRows validation.toPartitionArrays rows) (hrows : NormalRows rows)
    (hplannable : Plannable (unitPairs rows)) {cut : ℕ × ℕ × ℕ}
    (hcut : bestCut protocol (unitPairs rows) = some cut) :
    ∃ stopping calibration : PreparedPartition X,
      stopping.toPartitionArrays = ofRows (stoppingRows protocol.splitSeed rows cut.1) ∧
      calibration.toPartitionArrays = ofRows (calibrationRows protocol.splitSeed rows cut.1) ∧
      splitRoles protocol validation =
        (auditRoles protocol (planOfCut protocol.splitSeed (unitPairs rows) cut) stopping
          calibration).map fun audit => (stopping, calibration, audit) := by
  have hadmissible := (admissiblePrefix_iff hplannable.one).mpr (PrefixSplit.best_eq_some hcut).1
  have hpairs : validation.unitIds.zip validation.clusters = unitPairs rows := by
    rw [h.unitIds, h.clusters, List.zip_map', unitPairs]
  obtain ⟨stopping, hstopping, hfirst⟩ := h.subset validation.labels_binary
    (exists_row_take hadmissible.pos hadmissible.lt)
  obtain ⟨calibration, hcalibration, hsecond⟩ := h.subset validation.labels_binary
    (exists_row_drop hadmissible.lt)
  rw [filter_drop_eq_calibrationRows] at hsecond
  refine ⟨stopping, calibration, hfirst, hsecond, ?_⟩
  have hunits : ¬∃ unit ∈ stopping.unitIds, unit ∈ calibration.unitIds := by
    rintro ⟨unit, hstop, hcalibrate⟩
    rw [hfirst] at hstop
    rw [hsecond] at hcalibrate
    obtain ⟨row, hrow, rfl⟩ := List.mem_map.mp hstop
    obtain ⟨other, hother, heq⟩ := List.mem_map.mp hcalibrate
    obtain ⟨hrow, hin⟩ := List.mem_filter.mp hrow
    obtain ⟨hother, hnot⟩ := List.mem_filter.mp hother
    have hcluster : row.cluster = other.cluster :=
      hplannable.one _ (List.mem_map_of_mem hrow) _ (List.mem_map_of_mem hother) heq.symm
    rw [hcluster] at hin
    exact of_decide_eq_true hnot (of_decide_eq_true hin)
  have hclusters :
      ¬∃ cluster ∈ (planOfCut protocol.splitSeed (unitPairs rows) cut).stoppingClusters,
        cluster ∈ (planOfCut protocol.splitSeed (unitPairs rows) cut).calibrationClusters := by
    rintro ⟨cluster, htake, hdrop⟩
    exact (mem_drop_iff (nodup_hashOrdered _ _) (List.mem_of_mem_take htake) _).mp hdrop htake
  rw [splitRoles, (checkValidation_eq_ok_iff h).mpr hrows, hpairs,
    planRoles_eq_ok_iff.mpr ⟨hplannable, cut, hcut, rfl⟩]
  change subsetPreparedPartition _ (indicesIn _
    (planOfCut protocol.splitSeed (unitPairs rows) cut).stoppingClusters) = _ at hstopping
  change subsetPreparedPartition _ (indicesIn _
    (planOfCut protocol.splitSeed (unitPairs rows) cut).calibrationClusters) = _ at hcalibration
  simp only [bind, Except.bind, hstopping, hcalibration]
  rw [if_neg hunits, if_neg hclusters]
  cases auditRoles protocol _ stopping calibration with
  | error e => rfl
  | ok audit => rfl

/-! ### The audit -/

theorem mem_sortedSet {ids : List Text} {id : Text} : id ∈ sortedSet ids ↔ id ∈ ids := by
  rw [sortedSet, List.mem_insertionSort, List.mem_dedup]

theorem sort_perm {ids ids' : List Text} (h : ids'.Perm ids) :
    ids'.insertionSort (· ≤ ·) = ids.insertionSort (· ≤ ·) :=
  List.insertionSort_eq_of_perm id (fun _ _ _ _ => Iff.rfl) (fun _ _ _ _ heq => heq) h

theorem sortedSet_perm {ids ids' : List Text} (h : ids'.Perm ids) : sortedSet ids' = sortedSet ids :=
  sort_perm h.dedup

/-- The assignment can be hashed if the minimum can be written. -/
theorem hashable_assignmentDoc {first second : Text} (hfirst : isEncodable first)
    (hsecond : isEncodable second) : Hashable (assignmentDoc protocol first second) ↔
      protocol.minimumUnits < 10 ^ Python.maxStrDigits := by
  have hseed : Hashable (natDoc protocol.splitSeed : Value F) :=
    hashable_natDoc (lt_of_le_of_lt protocol.seed_le (by decide +kernel))
  have hfraction : Hashable (.num (.float protocol.earlyStoppingFraction) : Value F) := rfl
  have hminimum : Hashable (natDoc protocol.minimumUnits : Value F) ↔
      protocol.minimumUnits < 10 ^ Python.maxStrDigits := by
    refine ⟨fun h => ?_, hashable_natDoc⟩
    change isWritable (.int protocol.minimumUnits : Python.Number F) = true at h
    rw [isWritable, Int.natAbs_natCast] at h
    exact of_decide_eq_true h
  simp only [assignmentDoc, hashable_obj, List.forall_mem_cons, hashable_str,
    Evidence.isEncodable_text, true_and, List.not_mem_nil, false_imp_iff, implies_true, and_true,
    hseed, hfraction, hminimum, hfirst, hsecond]

theorem exists_auditRoles : (∃ audit, auditRoles protocol plan stopping calibration = .ok audit) ↔
    ((∀ id ∈ stopping.unitIds ++ calibration.unitIds, isEncodable id) ∧
      (∀ id ∈ plan.stoppingClusters ++ plan.calibrationClusters, isEncodable id) ∧
      ∀ id ∈ stopping.windowIds ++ calibration.windowIds, isEncodable id) ∧
      protocol.minimumUnits < 10 ^ Python.maxStrDigits := by
  simp only [List.forall_mem_append]
  constructor
  · rintro ⟨audit, h⟩
    obtain ⟨first, hfirst, h⟩ := Except.bind_eq_ok.mp h
    obtain ⟨second, hsecond, h⟩ := Except.bind_eq_ok.mp h
    obtain ⟨identity, hidentity, -⟩ := Except.bind_eq_ok.mp h
    obtain ⟨hfirst, hfirst'⟩ := identityOf_eq_ok hfirst
    obtain ⟨hsecond, hsecond'⟩ := identityOf_eq_ok hsecond
    have hminimum := (hashable_assignmentDoc hfirst' hsecond').mp (identityOf_eq_ok hidentity).1
    rw [hashable_roleDoc] at hfirst hsecond
    simp only [mem_sortedSet, List.mem_insertionSort] at hfirst hsecond
    exact ⟨⟨⟨hfirst.1, hsecond.1⟩, ⟨hfirst.2.1, hsecond.2.1⟩, hfirst.2.2, hsecond.2.2⟩, hminimum⟩
  · rintro ⟨⟨⟨hunits, hunits'⟩, ⟨hclusters, hclusters'⟩, hwindows, hwindows'⟩, hminimum⟩
    have hstopping : Hashable (roleDoc "early-stopping" (sortedSet stopping.unitIds)
        (sortedSet plan.stoppingClusters) (stopping.windowIds.insertionSort (· ≤ ·)) : Value F) := by
      rw [hashable_roleDoc]
      simp only [mem_sortedSet, List.mem_insertionSort]
      exact ⟨hunits, hclusters, hwindows⟩
    have hcalibration : Hashable (roleDoc "threshold-calibration" (sortedSet calibration.unitIds)
        (sortedSet plan.calibrationClusters)
        (calibration.windowIds.insertionSort (· ≤ ·)) : Value F) := by
      rw [hashable_roleDoc]
      simp only [mem_sortedSet, List.mem_insertionSort]
      exact ⟨hunits', hclusters', hwindows'⟩
    obtain ⟨first, hfirst⟩ := exists_identityOf hstopping
    obtain ⟨second, hsecond⟩ := exists_identityOf hcalibration
    obtain ⟨identity, hidentity⟩ := exists_identityOf ((hashable_assignmentDoc
      (identityOf_eq_ok hfirst).2 (identityOf_eq_ok hsecond).2).mpr hminimum)
    exact ⟨_, Except.bind_eq_ok.mpr ⟨first, hfirst, Except.bind_eq_ok.mpr ⟨second, hsecond,
      Except.bind_eq_ok.mpr ⟨identity, hidentity, rfl⟩⟩⟩⟩

/-- The order of the windows of the roles does not matter for the audit. -/
theorem auditRoles_perm {stopping' calibration' : PreparedPartition X}
    (hunits : stopping'.unitIds.Perm stopping.unitIds)
    (hwindows : stopping'.windowIds.Perm stopping.windowIds)
    (hunits' : calibration'.unitIds.Perm calibration.unitIds)
    (hwindows' : calibration'.windowIds.Perm calibration.windowIds) :
    auditRoles protocol plan stopping' calibration' = auditRoles protocol plan stopping calibration := by
  rw [auditRoles, auditRoles, sortedSet_perm hunits, sortedSet_perm hunits', sort_perm hwindows,
    sort_perm hwindows', hwindows.length_eq, hwindows'.length_eq]

/-! ### The roles as a whole -/

/-- What the windows have to be for roles -/
structure Splittable (protocol : ValidationProtocol F) (rows : List (WindowRow X)) : Prop
    extends NormalRows rows where
  one : OneCluster (unitPairs rows)
  two : 2 ≤ ((unitPairs rows).map Prod.snd).dedup.length
  exists_prefix : ∃ boundary, AdmissiblePrefix protocol (unitPairs rows) boundary
  encodable : ∀ row ∈ rows,
    isEncodable row.windowId ∧ isEncodable row.unitId ∧ isEncodable row.cluster
  writable : protocol.minimumUnits < 10 ^ Python.maxStrDigits

/-- The windows of the first clusters are for stopping, and the others for the calibration. -/
structure RoleSplit (protocol : ValidationProtocol F) (rows : List (WindowRow X)) (boundary : ℕ)
    (stopping calibration : PartitionArrays X) : Prop where
  stopping_eq : stopping = ofRows (stoppingRows protocol.splitSeed rows boundary)
  calibration_eq : calibration = ofRows (calibrationRows protocol.splitSeed rows boundary)
  /-- Every window is in one role. -/
  windows : (stoppingRows protocol.splitSeed rows boundary ++
    calibrationRows protocol.splitSeed rows boundary).Perm rows
  clusters : ∀ cluster ∈ stopping.clusterIds, cluster ∉ calibration.clusterIds
  units : ∀ unit ∈ stopping.unitIds, unit ∉ calibration.unitIds
  stoppingUnits : protocol.minimumUnits ≤ stopping.unitIds.dedup.length
  calibrationUnits : protocol.minimumUnits ≤ calibration.unitIds.dedup.length
  admissible : AdmissiblePrefix protocol (unitPairs rows) boundary
  /-- No other prefix is nearer to the fraction of the units. -/
  nearest : ∀ other, AdmissiblePrefix protocol (unitPairs rows) other →
    |(unitsIn (unitPairs rows) ((hashOrdered protocol.splitSeed (unitPairs rows)).take boundary) : F) -
        protocol.earlyStoppingFraction * unitCount (unitPairs rows)| ≤
      |(unitsIn (unitPairs rows) ((hashOrdered protocol.splitSeed (unitPairs rows)).take other) : F) -
        protocol.earlyStoppingFraction * unitCount (unitPairs rows)|

theorem unitPairs_perm (h : rows'.Perm rows) : (unitPairs rows').Perm (unitPairs rows) := h.map _

theorem stoppingRows_perm (h : rows'.Perm rows) (seed boundary : ℕ) :
    (stoppingRows seed rows' boundary).Perm (stoppingRows seed rows boundary) := by
  rw [stoppingRows, stoppingRows, hashOrdered_perm (unitPairs_perm h)]
  exact h.filter _

theorem calibrationRows_perm (h : rows'.Perm rows) (seed boundary : ℕ) :
    (calibrationRows seed rows' boundary).Perm (calibrationRows seed rows boundary) := by
  rw [calibrationRows, calibrationRows, hashOrdered_perm (unitPairs_perm h)]
  exact h.filter _

theorem perm_rows (seed : ℕ) (rows : List (WindowRow X)) (boundary : ℕ) :
    (stoppingRows seed rows boundary ++ calibrationRows seed rows boundary).Perm rows := by
  have hnot : calibrationRows seed rows boundary = rows.filter fun row =>
      !decide (row.cluster ∈ (hashOrdered seed (unitPairs rows)).take boundary) :=
    List.filter_congr fun row _ => decide_not
  rw [hnot, stoppingRows]
  exact List.filter_append_perm _ rows

theorem unitsIn_unitPairs (rows : List (WindowRow X)) (clusters : List Text) :
    unitsIn (unitPairs rows) clusters =
      ((rows.filter (·.cluster ∈ clusters)).map (·.unitId)).dedup.length := by
  rw [unitsIn, unitPairs, List.filter_map, List.map_map]
  rfl

/-- The cut of least distance splits the windows. -/
theorem roleSplit_of_cut {cut : ℕ × ℕ × ℕ} (hone : OneCluster (unitPairs rows))
    (hcut : bestCut protocol (unitPairs rows) = some cut) :
    RoleSplit protocol rows cut.1 (ofRows (stoppingRows protocol.splitSeed rows cut.1))
      (ofRows (calibrationRows protocol.splitSeed rows cut.1)) := by
  obtain ⟨hadmissible, -, hnearest⟩ := PrefixSplit.best_eq_some hcut
  have hprefix : AdmissiblePrefix protocol (unitPairs rows) cut.1 :=
    (admissiblePrefix_iff hone).mpr hadmissible
  have hseparate : ∀ row ∈ stoppingRows protocol.splitSeed rows cut.1,
      ∀ other ∈ calibrationRows protocol.splitSeed rows cut.1, row.cluster ≠ other.cluster := by
    intro row hrow other hother heq
    have hin := of_decide_eq_true (List.mem_filter.mp hrow).2
    exact of_decide_eq_true (List.mem_filter.mp hother).2 (heq ▸ hin)
  refine ⟨rfl, rfl, perm_rows _ _ _, ?_, ?_, ?_, ?_, hprefix, ?_⟩
  · intro cluster hcluster hother
    obtain ⟨row, hrow, rfl⟩ := List.mem_map.mp hcluster
    obtain ⟨other, hother, heq⟩ := List.mem_map.mp hother
    exact hseparate row hrow other hother heq.symm
  · intro unit hunit hother
    obtain ⟨row, hrow, rfl⟩ := List.mem_map.mp hunit
    obtain ⟨other, hother, heq⟩ := List.mem_map.mp hother
    exact hseparate row hrow other hother (hone _
      (List.mem_map_of_mem (List.mem_of_mem_filter hrow)) _
      (List.mem_map_of_mem (List.mem_of_mem_filter hother)) heq.symm)
  · have hstopping := hprefix.stopping
    rw [unitsIn_unitPairs] at hstopping
    exact hstopping
  · have hcalibration := hprefix.calibration
    rw [unitsIn_unitPairs, filter_drop_eq_calibrationRows] at hcalibration
    exact hcalibration
  · intro other hother
    have hle := hnearest other ((admissiblePrefix_iff hone).mp hother)
    rw [PrefixSplit.distance, PrefixSplit.distance, before_clusterCounts hone,
      before_clusterCounts hone] at hle
    exact hle

/-- The only way in which windows are split -/
theorem splitRoles_eq_ok (h : HasRows validation.toPartitionArrays rows)
    (hsplit : splitRoles protocol validation = .ok (stopping, calibration, audit)) :
    NormalRows rows ∧ Plannable (unitPairs rows) ∧ ∃ cut, bestCut protocol (unitPairs rows) = some cut ∧
      stopping.toPartitionArrays = ofRows (stoppingRows protocol.splitSeed rows cut.1) ∧
      calibration.toPartitionArrays = ofRows (calibrationRows protocol.splitSeed rows cut.1) ∧
      auditRoles protocol (planOfCut protocol.splitSeed (unitPairs rows) cut) stopping calibration =
        .ok audit := by
  have hpairs : validation.unitIds.zip validation.clusters = unitPairs rows := by
    rw [h.unitIds, h.clusters, List.zip_map', unitPairs]
  obtain ⟨⟨⟩, hcheck, hplan⟩ := Except.bind_eq_ok.mp hsplit
  obtain ⟨plan, hplan, -⟩ := Except.bind_eq_ok.mp hplan
  have hrows := (checkValidation_eq_ok_iff h).mp hcheck
  rw [hpairs] at hplan
  obtain ⟨hplannable, cut, hcut, rfl⟩ := planRoles_eq_ok_iff.mp hplan
  obtain ⟨stopping', calibration', hstopping, hcalibration, heq⟩ :=
    splitRoles_of_cut h hrows hplannable hcut
  rw [heq] at hsplit
  refine ⟨hrows, hplannable, cut, hcut, ?_⟩
  cases haudit : auditRoles protocol (planOfCut protocol.splitSeed (unitPairs rows) cut) stopping'
    calibration' with
  | error e =>
    rw [haudit] at hsplit
    cases hsplit
  | ok audit' =>
    rw [haudit] at hsplit
    cases hsplit
    exact ⟨hstopping, hcalibration, haudit⟩

/-- The texts of both roles are those of the windows. -/
theorem forall_mem_roles {α : Type} (f : WindowRow X → α) (seed boundary : ℕ) {P : α → Prop} :
    (∀ a ∈ (stoppingRows seed rows boundary).map f ++ (calibrationRows seed rows boundary).map f, P a) ↔
      ∀ row ∈ rows, P (f row) := by
  rw [← List.map_append, List.forall_mem_map]
  exact forall_congr' fun row => imp_congr_left (perm_rows seed rows boundary).mem_iff

theorem exists_auditRoles_of_rows {cut : ℕ × ℕ × ℕ}
    (hstopping : stopping.toPartitionArrays = ofRows (stoppingRows protocol.splitSeed rows cut.1))
    (hcalibration : calibration.toPartitionArrays =
      ofRows (calibrationRows protocol.splitSeed rows cut.1)) :
    (∃ audit, auditRoles protocol (planOfCut protocol.splitSeed (unitPairs rows) cut) stopping
      calibration = .ok audit) ↔
      (∀ row ∈ rows, isEncodable row.windowId ∧ isEncodable row.unitId ∧ isEncodable row.cluster) ∧
        protocol.minimumUnits < 10 ^ Python.maxStrDigits := by
  have hclusters : (∀ id ∈ (hashOrdered protocol.splitSeed (unitPairs rows)).take cut.1 ++
      (hashOrdered protocol.splitSeed (unitPairs rows)).drop cut.1, isEncodable id) ↔
        ∀ row ∈ rows, isEncodable row.cluster := by
    rw [List.take_append_drop]
    constructor
    · exact fun h row hrow => h _ (mem_hashOrdered_of_row hrow)
    · intro h cluster hcluster
      obtain ⟨row, hrow, rfl⟩ := exists_row hcluster
      exact h row hrow
  rw [exists_auditRoles, hstopping, hcalibration, planOfCut, hclusters]
  simp only [ofRows, forall_mem_roles]
  constructor
  · rintro ⟨⟨hunits, hclusters, hwindows⟩, hminimum⟩
    exact ⟨fun row hrow => ⟨hwindows row hrow, hunits row hrow, hclusters row hrow⟩, hminimum⟩
  · rintro ⟨h, hminimum⟩
    exact ⟨⟨fun row hrow => (h row hrow).2.1, fun row hrow => (h row hrow).2.2,
      fun row hrow => (h row hrow).1⟩, hminimum⟩

theorem exists_splitRoles (h : HasRows validation.toPartitionArrays rows) :
    (∃ result, splitRoles protocol validation = .ok result) ↔ Splittable protocol rows := by
  constructor
  · rintro ⟨⟨stopping, calibration, audit⟩, hsplit⟩
    obtain ⟨hrows, hplannable, cut, hcut, hstopping, hcalibration, haudit⟩ := splitRoles_eq_ok h hsplit
    obtain ⟨hencodable, hminimum⟩ :=
      (exists_auditRoles_of_rows hstopping hcalibration).mp ⟨audit, haudit⟩
    exact ⟨hrows, hplannable.one, hplannable.two,
      ⟨cut.1, (admissiblePrefix_iff hplannable.one).mpr (PrefixSplit.best_eq_some hcut).1⟩,
      hencodable, hminimum⟩
  · intro hs
    have hplannable : Plannable (unitPairs rows) := ⟨hs.one, hs.two, fun pair hpair => by
      obtain ⟨row, hrow, rfl⟩ := List.mem_map.mp hpair
      exact (hs.encodable row hrow).2.2⟩
    obtain ⟨boundary, hboundary⟩ := hs.exists_prefix
    cases hcut : bestCut protocol (unitPairs rows) with
    | none =>
      exact absurd ⟨boundary, (admissiblePrefix_iff hs.one).mp hboundary⟩
        (PrefixSplit.best_eq_none_iff.mp hcut)
    | some cut =>
      obtain ⟨stopping, calibration, hstopping, hcalibration, heq⟩ :=
        splitRoles_of_cut h hs.toNormalRows hplannable hcut
      obtain ⟨audit, haudit⟩ := (exists_auditRoles_of_rows hstopping hcalibration).mpr
        ⟨hs.encodable, hs.writable⟩
      rw [heq, haudit]
      exact ⟨_, rfl⟩

/-- Windows in another order are split in the same way. -/
theorem splitRoles_perm {other : PreparedPartition X} (h : HasRows validation.toPartitionArrays rows)
    (h' : HasRows other.toPartitionArrays rows') (hperm : rows'.Perm rows)
    (hsplit : splitRoles protocol validation = .ok (stopping, calibration, audit)) :
    ∃ cut, RoleSplit protocol rows cut stopping.toPartitionArrays calibration.toPartitionArrays ∧
      ∃ stopping' calibration', splitRoles protocol other = .ok (stopping', calibration', audit) ∧
        RoleSplit protocol rows' cut stopping'.toPartitionArrays calibration'.toPartitionArrays ∧
        (stoppingRows protocol.splitSeed rows' cut).Perm (stoppingRows protocol.splitSeed rows cut) ∧
        (calibrationRows protocol.splitSeed rows' cut).Perm
          (calibrationRows protocol.splitSeed rows cut) := by
  obtain ⟨hrows, hplannable, cut, hcut, hstopping, hcalibration, haudit⟩ := splitRoles_eq_ok h hsplit
  have hpairs := unitPairs_perm hperm
  obtain ⟨stopping', calibration', hstopping', hcalibration', heq⟩ := splitRoles_of_cut h'
    (hrows.perm hperm) (hplannable.perm hpairs) ((bestCut_perm hpairs).trans hcut)
  have hfirst := stoppingRows_perm hperm protocol.splitSeed cut.1
  have hsecond := calibrationRows_perm hperm protocol.splitSeed cut.1
  refine ⟨cut.1, ?_, stopping', calibration', ?_, ?_, hfirst, hsecond⟩
  · rw [hstopping, hcalibration]
    exact roleSplit_of_cut hplannable.one hcut
  · rw [heq, planOfCut_perm hpairs, @auditRoles_perm _ _ _ _ _ _ stopping calibration, haudit]
    · rfl
    · rw [hstopping', hstopping]
      exact hfirst.map _
    · rw [hstopping', hstopping]
      exact hfirst.map _
    · rw [hcalibration', hcalibration]
      exact hsecond.map _
    · rw [hcalibration', hcalibration]
      exact hsecond.map _
  · rw [hstopping', hcalibration']
    exact roleSplit_of_cut (hplannable.perm hpairs).one ((bestCut_perm hpairs).trans hcut)

end Split

/-! ## What the roles are -/

section Exact

variable {F X : Type} [Coercions F] [Field F] [LinearOrder F] {config : Members F}
  {validation : PreparedPartition X}

theorem validationRolePartitions_of_isV2 (hv2 : isV2 config) :
    validationRolePartitions validation config =
      (validationProtocol config).bind fun protocol => splitRoles protocol validation := by
  rw [validationRolePartitions, hv2]
  rfl

/-- A version 2 splits the windows of a partition if and only if its clusters can be cut. Then every
window is in one role with all that it has, the cut is the best, and the windows in another order have
the same roles with the same identities. -/
theorem validationRoles_exact (hv2 : isV2 config) (halign : Aligned validation.toPartitionArrays) :
    ((∃ result, validationRolePartitions validation config = .ok result) ↔
      ∃ protocol rows, validationProtocol config = .ok protocol ∧
        HasRows validation.toPartitionArrays rows ∧ Splittable protocol rows) ∧
    ∀ stopping calibration audit,
      validationRolePartitions validation config = .ok (stopping, calibration, audit) →
      ∃ protocol rows, validationProtocol config = .ok protocol ∧
        HasRows validation.toPartitionArrays rows ∧
        ∀ (other : PreparedPartition X) rows', HasRows other.toPartitionArrays rows' → rows'.Perm rows →
          ∃ cut, RoleSplit protocol rows cut stopping.toPartitionArrays
              calibration.toPartitionArrays ∧
            ∃ stopping' calibration',
              validationRolePartitions other config = .ok (stopping', calibration', audit) ∧
              RoleSplit protocol rows' cut stopping'.toPartitionArrays
                calibration'.toPartitionArrays ∧
              (stoppingRows protocol.splitSeed rows' cut).Perm
                (stoppingRows protocol.splitSeed rows cut) ∧
              (calibrationRows protocol.splitSeed rows' cut).Perm
                (calibrationRows protocol.splitSeed rows cut) := by
  have hreturns : ∀ result, validationRolePartitions validation config = .ok result →
      ∃ protocol rows, validationProtocol config = .ok protocol ∧
        HasRows validation.toPartitionArrays rows ∧ splitRoles protocol validation = .ok result := by
    intro result h
    rw [validationRolePartitions_of_isV2 hv2] at h
    obtain ⟨protocol, hprotocol, h⟩ := Except.bind_eq_ok.mp h
    obtain ⟨⟨⟩, hcheck, -⟩ := Except.bind_eq_ok.mp h
    obtain ⟨rows, hrows⟩ := exists_aligned_rows halign hcheck
    exact ⟨protocol, rows, hprotocol, hrows, h⟩
  refine ⟨⟨?_, ?_⟩, ?_⟩
  · rintro ⟨result, h⟩
    obtain ⟨protocol, rows, hprotocol, hrows, h⟩ := hreturns result h
    exact ⟨protocol, rows, hprotocol, hrows, (exists_splitRoles hrows).mp ⟨result, h⟩⟩
  · rintro ⟨protocol, rows, hprotocol, hrows, hs⟩
    obtain ⟨result, h⟩ := (exists_splitRoles hrows).mpr hs
    exact ⟨result, by rw [validationRolePartitions_of_isV2 hv2, hprotocol]; exact h⟩
  · intro stopping calibration audit h
    obtain ⟨protocol, rows, hprotocol, hrows, h⟩ := hreturns _ h
    refine ⟨protocol, rows, hprotocol, hrows, fun other rows' hrows' hperm => ?_⟩
    obtain ⟨cut, hsplit, stopping', calibration', h', hpermuted⟩ := splitRoles_perm hrows hrows' hperm h
    refine ⟨cut, hsplit, stopping', calibration', ?_, hpermuted⟩
    rw [validationRolePartitions_of_isV2 hv2, hprotocol]
    exact h'

end Exact

/-! Two windows, of two clusters -/

section Sample

def sampleProtocolMembers : Members ℚ := [(text "early_stopping_fraction", .num (.float (1 / 2))),
  (text "split_seed", .num (.int 7)), (text "minimum_units_per_role", .num (.int 1))]

def sampleConfig : Members ℚ := [(text "schema_version", .str configSchemaV2),
  (text "validation_protocol", .obj sampleProtocolMembers)]

def sampleProtocol : ValidationProtocol ℚ :=
  ⟨1 / 2, 7, 1, rfl, by norm_num, by norm_num, by decide, le_refl 1⟩

/-- Windows of two units, in a cluster that is given and in another -/
def sampleRows (cluster : Text) : List (WindowRow ℕ) :=
  [⟨0, text "w0", text "u0", 0, text "normal", [], cluster, text "custom"⟩,
    ⟨1, text "w1", text "u1", 0, text "normal", [], text "b", text "custom"⟩]

def sampleValidation (cluster : Text) : PreparedPartition ℕ where
  toPartitionArrays := ofRows (sampleRows cluster)
  labels_binary := by
    intro label hlabel
    obtain ⟨row, hrow, rfl⟩ := List.mem_map.mp hlabel
    simp only [sampleRows, List.mem_cons, List.not_mem_nil, or_false] at hrow
    rcases hrow with rfl | rfl <;> exact Nat.zero_le 1
  labels_length := rfl

theorem aligned_sampleValidation (cluster : Text) :
    Aligned (sampleValidation cluster).toPartitionArrays := ⟨rfl, rfl, rfl, rfl, rfl⟩

theorem validationProtocol_sampleConfig : validationProtocol sampleConfig = .ok sampleProtocol := by
  have hprotocol : (sampleConfig.lookup (text "validation_protocol")).bind mapping =
      some sampleProtocolMembers := rfl
  have hfraction : (sampleProtocolMembers.lookup (text "early_stopping_fraction")).bind Python.float =
      some (1 / 2) := rfl
  have hseed : (sampleProtocolMembers.lookup (text "split_seed")).bind exactInt = some (.ofNat 7) := rfl
  have hminimum : (sampleProtocolMembers.lookup (text "minimum_units_per_role")).bind exactInt =
      some (.ofNat 1) := rfl
  simp only [validationProtocol, hprotocol, hfraction, hseed, hminimum]
  rw [dif_pos ⟨rfl, by norm_num, by norm_num⟩, dif_pos (by decide), dif_pos (le_refl 1)]
  rfl

theorem splittable_sampleRows : Splittable sampleProtocol (sampleRows (text "a")) where
  nonempty := by decide
  normal := by decide
  named := by decide
  one := by decide
  two := by decide
  exists_prefix := ⟨1, by decide, by decide +kernel, by decide +kernel, by decide +kernel⟩
  encodable := by decide
  writable := Nat.one_lt_pow (by decide) (by decide)

theorem validationRoles_sample : ∃ result,
    validationRolePartitions (sampleValidation (text "a")) sampleConfig = .ok result :=
  (validationRoles_exact rfl (aligned_sampleValidation _)).1.mpr
    ⟨sampleProtocol, sampleRows (text "a"), validationProtocol_sampleConfig, hasRows_ofRows _,
      splittable_sampleRows⟩

/-- A cluster without a name is no cluster, also when the others leave enough units. -/
theorem emptyCluster_raises :
    validationProtocol sampleConfig = .ok sampleProtocol ∧
      HasRows (sampleValidation []).toPartitionArrays (sampleRows []) ∧
      (∀ row ∈ sampleRows [], row.label = 0) ∧ OneCluster (unitPairs (sampleRows [])) ∧
      2 ≤ ((unitPairs (sampleRows [])).map Prod.snd).dedup.length ∧
      AdmissiblePrefix sampleProtocol (unitPairs (sampleRows [])) 1 ∧
      validationRolePartitions (sampleValidation []) sampleConfig =
        valueError "validation cluster identities must be non-empty" := by
  refine ⟨validationProtocol_sampleConfig, hasRows_ofRows _, by decide, by decide, by decide,
    ⟨by decide, by decide +kernel, by decide +kernel, by decide +kernel⟩, ?_⟩
  rw [validationRolePartitions_of_isV2 rfl, validationProtocol_sampleConfig]
  rfl

end Sample

end TruthFingerprint.OfflineTraining.ValidationRoles
