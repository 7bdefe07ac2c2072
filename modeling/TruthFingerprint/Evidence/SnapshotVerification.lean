import TruthFingerprint.Lib.Dict
import TruthFingerprint.Evidence.ArtifactManifest

/-!
# Verification of storage snapshots

Before a snapshot is restored, its identity is recomputed and the exported objects are compared with
the declared observations, their keys with the namespaces of their roles. The observations are put
into a dictionary first, so that of several with one key only the last is looked at. The verification
is exact when these agree, and otherwise when something else is wrong
(`validateStorageSnapshot_exact_iff`).
-/

namespace TruthFingerprint.Evidence.Storage

/-! ## Records -/

structure StorageViolation where
  ruleId : Text
  phase : Text
  fieldPath : Text
  expectedValue : Text
  observedValue : Text
  explanation : Text
deriving DecidableEq

structure StorageObjectObservation where
  immutableKey : Text
  /-- The token of the policy -/
  rolePrefixPolicy : Text
  byteSize : Int
  contentSha256 : Text
  backendVersionId : Option Text
  backendEtag : Option Text
  capabilityState : Text
deriving DecidableEq

/-- `__post_init__` sorts the observations by their keys. -/
structure StorageSnapshotManifest where
  snapshotRevisionId : Text
  sourcePlanRevisionId : Text
  objectObservations : List StorageObjectObservation
  sorted : objectObservations.Pairwise (·.immutableKey ≤ ·.immutableKey)

def StorageObjectObservation.toDict (item : StorageObjectObservation) : Document :=
  recordOf [("immutable_key", .str item.immutableKey),
    ("role_prefix_policy", .str item.rolePrefixPolicy), ("byte_size", .num (.int item.byteSize)),
    ("content_sha256", .str item.contentSha256),
    ("backend_version_id", optionalText item.backendVersionId),
    ("backend_etag", optionalText item.backendEtag),
    ("capability_state", .str item.capabilityState)]

def StorageSnapshotManifest.toDict (snapshot : StorageSnapshotManifest) : Document :=
  recordOf [("snapshot_revision_id", .str snapshot.snapshotRevisionId),
    ("source_plan_revision_id", .str snapshot.sourcePlanRevisionId),
    ("object_observations", .arr (snapshot.objectObservations.map StorageObjectObservation.toDict)),
    ("authorization_effect", .str (text "none"))]

def storageSnapshotManifestIdentity (snapshot : StorageSnapshotManifest) : Option Text :=
  (canonicalManifestBytes { snapshot with snapshotRevisionId := [] }.toDict).map bytesId

/-! ## Violations -/

def secretTokens : List Text := [text "secret", text "password", text "access_key", text "token="]

/-- `safe`: it raises for a surrogate. -/
def safe (value : Text) : Option Text :=
  if secretTokens.any fun token => contains token (casefold value) then some (text "[REDACTED]")
  else if isEncodable value then some (bytesId value.utf8)
  else none

/-- What `_violation` makes of a check that does not hold. All are of the phase of the snapshot. -/
def report (check : Check) : Option (List StorageViolation) :=
  if check.ok then some []
  else do
    let expectedValue ← safe check.expected
    let observedValue ← safe check.observed
    some [⟨text check.rule, text "snapshot", text check.field, expectedValue, observedValue,
      text check.explanation⟩]

theorem report_eq_nil {check : Check} : report check = some [] ↔ check.ok := by
  rw [report]
  split_ifs with h
  · simp [h]
  · simp [h, Option.bind_eq_some_iff]

/-! ## Checks -/

/-- The namespaces of the policies -/
def expectedPrefix (token : Text) : Option Text :=
  [(text "detector_facing", text "detector-facing"),
    (text "evaluator_restricted", text "evaluator-restricted"),
    (text "public_reference", text "public-reference")].lookup token

def roleNamespace (name : Text) : Text := text "formal/v1/" ++ name ++ text "/"

def revisionCheck (snapshot : StorageSnapshotManifest) (identity : Text) : Check :=
  ⟨snapshot.snapshotRevisionId = identity, "STORAGE-SNAPSHOT-REVISION-MISMATCH",
    "snapshot_revision_id", identity, snapshot.snapshotRevisionId,
    "Snapshot identity must bind its closed object set."⟩

def extraCheck (key : Text) : Check :=
  ⟨false, "STORAGE-SNAPSHOT-EXTRA", "objects", text "declared closed set", key,
    "Restoration cannot include undeclared objects."⟩

def missingCheck (key : Text) : Check :=
  ⟨false, "STORAGE-SNAPSHOT-MISSING", "objects", key, text "missing",
    "Every declared object must be present before restore."⟩

def hashCheck (item : StorageObjectObservation) (payload : Bytes) : Check :=
  ⟨(payload.length : Int) = item.byteSize && bytesId payload = item.contentSha256,
    "STORAGE-SNAPSHOT-HASH-MISMATCH", "objects",
    Python.intText item.byteSize ++ text "|" ++ item.contentSha256,
    Python.intText payload.length ++ text "|" ++ bytesId payload,
    "Snapshot bytes must exactly match the declared scientific identity."⟩

def roleCheck (key : Text) (item : StorageObjectObservation) : Check :=
  ⟨(expectedPrefix item.rolePrefixPolicy).any fun name => (roleNamespace name).isPrefixOf key,
    "STORAGE-SNAPSHOT-ROLE-MISMATCH", "role_prefix_policy", text "key role prefix", key,
    "Stored keys cannot cross role namespaces."⟩

def objectChecks (observed : List (Text × Bytes)) (key : Text) (item : StorageObjectObservation) :
    List Check :=
  match observed.lookup key with
  | none => [missingCheck key]
  | some payload => [hashCheck item payload, roleCheck key item]

/-! ## `validate_storage_snapshot` -/

/-- `{item.immutable_key: item for item in snapshot.object_observations}` -/
def declared (snapshot : StorageSnapshotManifest) : List (Text × StorageObjectObservation) :=
  Dict.ofItems (snapshot.objectObservations.map fun item => (item.immutableKey, item))

/-- `sorted(set(observed) - set(declared))` -/
def extraKeys (snapshot : StorageSnapshotManifest) (observed : List (Text × Bytes)) : List Text :=
  ((observed.map Prod.fst).dedup.filter (· ∉ (declared snapshot).map Prod.fst)).insertionSort (· ≤ ·)

def snapshotChecks (snapshot : StorageSnapshotManifest) (observed : List (Text × Bytes))
    (identity : Text) : List Check :=
  revisionCheck snapshot identity :: (extraKeys snapshot observed).map extraCheck ++
    (declared snapshot).flatMap fun entry => objectChecks observed entry.1 entry.2

/-- The violations of a snapshot and of the exported objects under their keys; none when an identity
or a violation raises -/
def validateStorageSnapshot (snapshot : StorageSnapshotManifest)
    (observed : List (Text × Bytes)) : Option (List StorageViolation) := do
  let identity ← storageSnapshotManifestIdentity snapshot
  let violations ← collect report (snapshotChecks snapshot observed identity)
  some (violations.insertionSort fun v w =>
    toLex (v.ruleId, toLex (v.fieldPath, v.observedValue)) ≤
      toLex (w.ruleId, toLex (w.fieldPath, w.observedValue)))

/-! ## What is verified -/

/-- The object under the key of an observation has its size and its digest, and the key is inside
the namespace of its role. -/
def Verified (observed : List (Text × Bytes)) (item : StorageObjectObservation) : Prop :=
  (∃ payload, observed.lookup item.immutableKey = some payload ∧
    (payload.length : Int) = item.byteSize ∧ bytesId payload = item.contentSha256) ∧
  ∃ name, expectedPrefix item.rolePrefixPolicy = some name ∧
    roleNamespace name <+: item.immutableKey

/-- The identity recomputes, and the observed keys are the declared ones. -/
structure Closed (snapshot : StorageSnapshotManifest) (observed : List (Text × Bytes)) : Prop where
  identity : storageSnapshotManifestIdentity snapshot = some snapshot.snapshotRevisionId
  keys : ∀ key, key ∈ observed.map Prod.fst ↔
    key ∈ snapshot.objectObservations.map (·.immutableKey)

/-- An observation that no later one of its key follows -/
def LastOfKey (snapshot : StorageSnapshotManifest) (item : StorageObjectObservation) : Prop :=
  ∃ before after, snapshot.objectObservations = before ++ item :: after ∧
    item.immutableKey ∉ after.map (·.immutableKey)

/-- The observations of one key declare the same size, digest and role. -/
def Consistent (snapshot : StorageSnapshotManifest) : Prop :=
  ∀ item ∈ snapshot.objectObservations, ∀ other ∈ snapshot.objectObservations,
    item.immutableKey = other.immutableKey → item.byteSize = other.byteSize ∧
      item.contentSha256 = other.contentSha256 ∧ item.rolePrefixPolicy = other.rolePrefixPolicy

variable {snapshot : StorageSnapshotManifest} {observed : List (Text × Bytes)}

theorem keys_declared (key : Text) :
    key ∈ (declared snapshot).map Prod.fst ↔
      key ∈ snapshot.objectObservations.map (·.immutableKey) := by
  rw [declared, Dict.mem_keys_ofItems, List.map_map]
  rfl

/-- What stays in the dictionary is the last observation of each key. -/
theorem mem_declared_iff {key : Text} {item : StorageObjectObservation} :
    (key, item) ∈ declared snapshot ↔ LastOfKey snapshot item ∧ key = item.immutableKey := by
  rw [declared, Dict.mem_ofItems_iff]
  constructor
  · rintro ⟨before, after, heq, hafter⟩
    obtain ⟨before', rest, hitems, rfl, hrest⟩ := List.map_eq_append_iff.mp heq
    obtain ⟨item', after', rfl, hitem, rfl⟩ := List.map_eq_cons_iff.mp hrest
    obtain ⟨rfl, rfl⟩ := Prod.mk.inj hitem
    rw [List.map_map] at hafter
    exact ⟨⟨before', after', hitems, hafter⟩, rfl⟩
  · rintro ⟨⟨before, after, hitems, hafter⟩, rfl⟩
    refine ⟨_, _, by rw [hitems, List.map_append, List.map_cons], ?_⟩
    rw [List.map_map]
    exact hafter

theorem LastOfKey.mem {item : StorageObjectObservation} (h : LastOfKey snapshot item) :
    item ∈ snapshot.objectObservations := by
  obtain ⟨before, after, hitems, -⟩ := h
  rw [hitems]
  exact List.mem_append_right _ List.mem_cons_self

/-- Every declared key has a last observation. -/
theorem exists_lastOfKey {item : StorageObjectObservation}
    (h : item ∈ snapshot.objectObservations) :
    ∃ last, LastOfKey snapshot last ∧ last.immutableKey = item.immutableKey := by
  have hkey : item.immutableKey ∈ (declared snapshot).map Prod.fst :=
    (keys_declared _).mpr (List.mem_map_of_mem h)
  obtain ⟨⟨key, last⟩, hmem, rfl⟩ := List.mem_map.mp hkey
  obtain ⟨hlast, heq⟩ := mem_declared_iff.mp hmem
  exact ⟨last, hlast, heq.symm⟩

theorem extraKeys_eq_nil : extraKeys snapshot observed = [] ↔
    ∀ key ∈ observed.map Prod.fst, key ∈ snapshot.objectObservations.map (·.immutableKey) := by
  rw [extraKeys, insertionSort_eq_nil, List.filter_eq_nil_iff]
  refine forall_congr' fun key => ?_
  rw [List.mem_dedup, decide_eq_true_eq, not_not, keys_declared]

/-- The checks of one object hold when it is verified. -/
theorem objectChecks_ok {item : StorageObjectObservation} :
    (∀ check ∈ objectChecks observed item.immutableKey item, check.ok) ↔ Verified observed item := by
  rw [objectChecks, Verified]
  cases hlookup : observed.lookup item.immutableKey with
  | none => simp [missingCheck]
  | some payload =>
    simp only [List.forall_mem_cons, List.not_mem_nil, false_imp_iff, forall_true_iff, and_true,
      hashCheck, roleCheck, Bool.and_eq_true, decide_eq_true_eq, Option.any_eq_true,
      List.isPrefixOf_iff_prefix, Option.some.injEq, exists_eq_left']

/-- A snapshot is accepted when it is closed and the last observations of its keys are verified. -/
theorem validateStorageSnapshot_eq_nil : validateStorageSnapshot snapshot observed = some [] ↔
    Closed snapshot observed ∧ ∀ item, LastOfKey snapshot item → Verified observed item := by
  have hchecks (identity : Text) :
      (∀ check ∈ snapshotChecks snapshot observed identity, check.ok) ↔
        snapshot.snapshotRevisionId = identity ∧
          (∀ key ∈ observed.map Prod.fst,
            key ∈ snapshot.objectObservations.map (·.immutableKey)) ∧
          ∀ item, LastOfKey snapshot item → Verified observed item := by
    rw [snapshotChecks, List.cons_append, List.forall_mem_cons, List.forall_mem_append,
      List.forall_mem_map, List.forall_mem_flatMap, ← extraKeys_eq_nil]
    refine and_congr ?_ (and_congr ?_ ?_)
    · rw [revisionCheck, decide_eq_true_eq]
    · simp [extraCheck, List.eq_nil_iff_forall_not_mem]
    · constructor
      · intro h item hitem
        exact objectChecks_ok.mp (h (item.immutableKey, item) (mem_declared_iff.mpr ⟨hitem, rfl⟩))
      · rintro h ⟨key, item⟩ hmem
        obtain ⟨hitem, rfl⟩ := mem_declared_iff.mp hmem
        exact objectChecks_ok.mpr (h item hitem)
  simp only [validateStorageSnapshot, Option.bind_eq_bind, Option.bind_eq_some_iff,
    Option.some.injEq, insertionSort_eq_nil]
  constructor
  · rintro ⟨identity, hidentity, _, hcollect, rfl⟩
    have hok := (hchecks identity).mp fun check hcheck =>
      report_eq_nil.mp (collect_eq_nil.mp hcollect check hcheck)
    obtain ⟨rfl, hextra, hlast⟩ := hok
    refine ⟨⟨hidentity, fun key => ⟨hextra key, fun hkey => ?_⟩⟩, hlast⟩
    obtain ⟨item, hitem, rfl⟩ := List.mem_map.mp hkey
    obtain ⟨last, hof, heq⟩ := exists_lastOfKey hitem
    obtain ⟨payload, hpayload, -⟩ := (hlast last hof).1
    rw [← heq, ← Dict.lookup_isSome_iff, hpayload]
    rfl
  · rintro ⟨hclosed, hlast⟩
    refine ⟨_, hclosed.identity, [], collect_eq_nil.mpr fun check hcheck => ?_, rfl⟩
    refine report_eq_nil.mpr ((hchecks _).mpr ⟨rfl, fun key hkey => ?_, hlast⟩ check hcheck)
    exact (hclosed.keys key).mp hkey

/-- A key is inside one namespace only. -/
theorem expectedPrefix_inj {key token token' name name' : Text}
    (h : expectedPrefix token = some name) (h' : expectedPrefix token' = some name')
    (hkey : roleNamespace name <+: key) (hkey' : roleNamespace name' <+: key) : token = token' := by
  have hmem {t n : Text} (ht : expectedPrefix t = some n) :
      (t, n) ∈ [(text "detector_facing", text "detector-facing"),
        (text "evaluator_restricted", text "evaluator-restricted"),
        (text "public_reference", text "public-reference")] :=
    (Dict.lookup_eq_some_iff (by decide)).mp ht
  have hcomparable := List.prefix_or_prefix_of_prefix hkey hkey'
  have hnames : ∀ p ∈ [(text "detector_facing", text "detector-facing"),
      (text "evaluator_restricted", text "evaluator-restricted"),
      (text "public_reference", text "public-reference")],
      ∀ q ∈ [(text "detector_facing", text "detector-facing"),
        (text "evaluator_restricted", text "evaluator-restricted"),
        (text "public_reference", text "public-reference")],
      (roleNamespace p.2 <+: roleNamespace q.2 ∨ roleNamespace q.2 <+: roleNamespace p.2) →
        p.1 = q.1 := by decide +kernel
  exact hnames _ (hmem h) _ (hmem h') hcomparable

/-- Observations of one key that are verified declare the same. -/
theorem Verified.consistent {item other : StorageObjectObservation}
    (h : Verified observed item) (h' : Verified observed other)
    (hkey : item.immutableKey = other.immutableKey) : item.byteSize = other.byteSize ∧
      item.contentSha256 = other.contentSha256 ∧
      item.rolePrefixPolicy = other.rolePrefixPolicy := by
  obtain ⟨⟨payload, hpayload, hsize, hdigest⟩, name, hname, hprefix⟩ := h
  obtain ⟨⟨payload', hpayload', hsize', hdigest'⟩, name', hname', hprefix'⟩ := h'
  rw [hkey] at hpayload hprefix
  obtain rfl := Option.some.inj (hpayload.symm.trans hpayload')
  exact ⟨hsize.symm.trans hsize', hdigest.symm.trans hdigest',
    expectedPrefix_inj hname hname' hprefix hprefix'⟩

theorem Verified.congr {item other : StorageObjectObservation} (h : Verified observed item)
    (hkey : item.immutableKey = other.immutableKey) (hsize : item.byteSize = other.byteSize)
    (hdigest : item.contentSha256 = other.contentSha256)
    (hrole : item.rolePrefixPolicy = other.rolePrefixPolicy) : Verified observed other := by
  rw [Verified, ← hkey, ← hsize, ← hdigest, ← hrole]
  exact h

/-- When the last observations are verified, all are if and only if those of one key agree. -/
theorem forall_verified_iff (hlast : ∀ item, LastOfKey snapshot item → Verified observed item) :
    (∀ item ∈ snapshot.objectObservations, Verified observed item) ↔ Consistent snapshot := by
  constructor
  · intro h item hitem other hother hkey
    exact (h item hitem).consistent (h other hother) hkey
  · intro h item hitem
    obtain ⟨last, hof, hkey⟩ := exists_lastOfKey hitem
    obtain ⟨hsize, hdigest, hrole⟩ := h last hof.mem item hitem hkey
    exact (hlast last hof).congr hkey hsize hdigest hrole

/-- The verification of a snapshot is exact if and only if its observations of one key agree, or it
has another defect: it is not closed, or the last observation of a key is not verified. -/
theorem validateStorageSnapshot_exact_iff (snapshot : StorageSnapshotManifest)
    (observed : List (Text × Bytes)) :
    (validateStorageSnapshot snapshot observed = some [] ↔
      Closed snapshot observed ∧ ∀ item ∈ snapshot.objectObservations, Verified observed item) ↔
    Consistent snapshot ∨ ¬Closed snapshot observed ∨
      ∃ item, LastOfKey snapshot item ∧ ¬Verified observed item := by
  rw [validateStorageSnapshot_eq_nil]
  by_cases hclosed : Closed snapshot observed
  · by_cases hlast : ∀ item, LastOfKey snapshot item → Verified observed item
    · have hnone : ¬∃ item, LastOfKey snapshot item ∧ ¬Verified observed item :=
        fun ⟨item, hof, hnot⟩ => hnot (hlast item hof)
      rw [forall_verified_iff hlast]
      simp only [hclosed, hnone, true_and, not_true_eq_false, or_false]
      exact ⟨fun h => h.mp hlast, fun h => iff_of_true hlast h⟩
    · have hall : ¬∀ item ∈ snapshot.objectObservations, Verified observed item :=
        fun h => hlast fun item hof => h item hof.mem
      have hsome := not_forall.mp hlast
      simp only [Classical.not_imp] at hsome
      simp only [hlast, hall, hsome, and_false, or_true]
  · simp only [hclosed, false_and, not_false_eq_true, true_or, or_true]

/-! ## A contradiction -/

/-- An observation of the empty object with a size -/
def sampleObject (byteSize : Int) : StorageObjectObservation :=
  ⟨text "formal/v1/public-reference/a", text "public_reference", byteSize, bytesId [], none, none,
    text "proven"⟩

/-- A snapshot without its identity that declares two sizes for one key -/
def unsignedSnapshot : StorageSnapshotManifest where
  snapshotRevisionId := []
  sourcePlanRevisionId := (sampleId 1).val
  objectObservations := [sampleObject 1, sampleObject 0]
  sorted := by simp [sampleObject]

def contradictorySnapshot : StorageSnapshotManifest :=
  { unsignedSnapshot with
    snapshotRevisionId := bytesId (canonicalManifestText unsignedSnapshot.toDict).utf8 }

theorem encodable_unsignedSnapshot : Encodable unsignedSnapshot.toDict := by
  have hitem (byteSize : Int) (h : Encodable (.num (.int byteSize) : Document)) :
      Encodable (sampleObject byteSize).toDict := by
    simp [sampleObject, StorageObjectObservation.toDict, optionalText, isEncodable_text,
      isEncodable_bytesId, Encodable.null, h]
  have hitems : Encodable (.arr (unsignedSnapshot.objectObservations.map
      StorageObjectObservation.toDict) : Document) := by
    refine Doc.all_arr.mpr fun document hdocument => ?_
    obtain ⟨item, hmem, rfl⟩ := List.mem_map.mp hdocument
    rcases List.mem_pair.mp hmem with rfl | rfl
    · exact hitem 1 (by decide +kernel)
    · exact hitem 0 (by decide +kernel)
  have hempty : isEncodable [] := rfl
  rw [StorageSnapshotManifest.toDict, encodable_recordOf]
  simp only [List.forall_mem_cons, List.not_mem_nil, false_imp_iff, forall_true_iff, hitems]
  simp [unsignedSnapshot, isEncodable_text, isEncodable_sampleId, hempty]

theorem lastOfKey_contradictorySnapshot {item : StorageObjectObservation}
    (h : LastOfKey contradictorySnapshot item) : item = sampleObject 0 := by
  obtain ⟨before, after, hitems, hafter⟩ := h
  change [sampleObject 1, sampleObject 0] = before ++ item :: after at hitems
  cases before with
  | nil =>
    obtain ⟨rfl, rfl⟩ := List.cons.inj hitems
    exact absurd (List.mem_singleton_self _) hafter
  | cons first before =>
    obtain ⟨-, hrest⟩ := List.cons.inj hitems
    cases before with
    | nil => exact (List.cons.inj hrest).1.symm
    | cons second before => simp at hrest

/-- The observation of a wrong size is not noticed. -/
theorem contradictorySnapshot_accepted :
    ¬(validateStorageSnapshot contradictorySnapshot [((sampleObject 0).immutableKey, [])] =
        some [] ↔
      Closed contradictorySnapshot [((sampleObject 0).immutableKey, [])] ∧
        ∀ item ∈ contradictorySnapshot.objectObservations,
          Verified [((sampleObject 0).immutableKey, [])] item) := by
  have hidentity : storageSnapshotManifestIdentity contradictorySnapshot =
      some contradictorySnapshot.snapshotRevisionId :=
    congrArg (Option.map bytesId) (if_pos encodable_unsignedSnapshot)
  have hkeys (key : Text) : key ∈ [(sampleObject 0).immutableKey] ↔
      key ∈ [(sampleObject 1).immutableKey, (sampleObject 0).immutableKey] := by
    simp [sampleObject]
  have hverified : Verified [((sampleObject 0).immutableKey, [])] (sampleObject 0) :=
    ⟨⟨[], List.lookup_cons_self, rfl, rfl⟩, text "public-reference", by decide +kernel,
      by decide +kernel⟩
  have haccepted : validateStorageSnapshot contradictorySnapshot
      [((sampleObject 0).immutableKey, [])] = some [] :=
    validateStorageSnapshot_eq_nil.mpr ⟨⟨hidentity, hkeys⟩, fun item hof =>
      lastOfKey_contradictorySnapshot hof ▸ hverified⟩
  intro h
  obtain ⟨⟨payload, hpayload, hsize, -⟩, -⟩ :=
    (h.mp haccepted).2 (sampleObject 1) List.mem_cons_self
  change List.lookup (sampleObject 0).immutableKey _ = _ at hpayload
  rw [List.lookup_cons_self, Option.some.injEq] at hpayload
  rw [← hpayload] at hsize
  exact absurd hsize (by decide)

end TruthFingerprint.Evidence.Storage
