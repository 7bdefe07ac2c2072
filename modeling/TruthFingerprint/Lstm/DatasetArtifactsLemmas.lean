import Mathlib
import TruthFingerprint.Lstm.DatasetArtifacts

/-!
# Frames of the artifact store

What is saved under one key is read under no other. Persisting a dataset touches the two keys of
its identifier and no valid artifact, and what it has persisted can be loaded.
-/

namespace TruthFingerprint.Lstm

variable {F A : Type}

/-! ## Keys -/

theorem manifestKey_inj {start id id' : Text} (h : manifestKey start id = manifestKey start id') :
    id = id' := by
  rw [manifestKey, manifestKey, List.append_assoc, List.append_assoc] at h
  exact List.append_cancel_right (List.append_cancel_left h)

theorem windowsKey_inj {start id id' : Text} (h : windowsKey start id = windowsKey start id') :
    id = id' := by
  rw [windowsKey, windowsKey, List.append_assoc, List.append_assoc] at h
  exact List.append_cancel_right (List.append_cancel_left h)

theorem getLast?_manifestKey (start id : Text) :
    (manifestKey start id).getLast? = some 'n'.codePoint := by
  rw [manifestKey, List.getLast?_append]
  rfl

theorem getLast?_windowsKey (start id : Text) :
    (windowsKey start id).getLast? = some 'z'.codePoint := by
  rw [windowsKey, List.getLast?_append]
  rfl

theorem manifestKey_ne_windowsKey (start id start' id' : Text) :
    manifestKey start id ≠ windowsKey start' id' := by
  intro h
  have hlast := congrArg List.getLast? h
  rw [getLast?_manifestKey, getLast?_windowsKey] at hlast
  exact absurd (Option.some.inj hlast) (by decide)

/-! ## Reading a store after a save -/

namespace ArtifactStore

variable {store : ArtifactStore F A} {key other start : Text} {object : StoredObject F A}
  {artifacts : List (StoredArtifact F)} {stored : StoredArtifact F}

theorem load_save : (store.save key object).load key = some object :=
  AList.lookup_insert _

theorem load_save_of_ne (h : other ≠ key) : (store.save key object).load other = store.load other :=
  AList.lookup_insert_ne h

theorem listJsonObjects_save_of_not (h : ¬isJsonKey start key) :
    (store.save key object).listJsonObjects start = store.listJsonObjects start :=
  Bucket.listing_insert_of_not h

theorem mem_listJsonObjects :
    key ∈ store.listJsonObjects start ↔ (store.load key).isSome ∧ isJsonKey start key := by
  rw [listJsonObjects, Bucket.mem_listing, load, AList.lookup_isSome]

/-- The first key of a listing -/
theorem listJsonObjects_save_of_nil (hnil : store.listJsonObjects start = [])
    (h : isJsonKey start key) : (store.save key object).listJsonObjects start = [key] := by
  have hlisting : Bucket.listing store.objects (isJsonKey start) = [] := hnil
  have hnew : key ∉ store.objects := fun hmem => Bucket.listing_eq_nil.mp hlisting key hmem h
  rw [listJsonObjects, save, Bucket.listing_insert_of_new hnew h, hlisting, List.orderedInsert_nil]

theorem loadArtifact_eq_some :
    store.loadArtifact key = some stored ↔
      stored.1 = key ∧ store.load key = some (.artifact stored.2) := by
  rw [loadArtifact]
  constructor
  · intro h
    split at h
    next artifact hload =>
      cases h
      exact ⟨rfl, hload⟩
    next => cases h
  · rintro ⟨rfl, hload⟩
    rw [hload]

/-- The keys of a store load, and the valid artifacts are what they load. -/
theorem validArtifacts_eq_some :
    store.validArtifacts = some artifacts ↔
      (∀ key ∈ store.listJsonObjects validArtifactPrefix, (store.loadArtifact key).isSome) ∧
        (store.listJsonObjects validArtifactPrefix).filterMap store.loadArtifact = artifacts := by
  rw [validArtifacts]
  induction store.listJsonObjects validArtifactPrefix generalizing artifacts with
  | nil =>
    rw [List.mapM_nil, List.filterMap_nil]
    constructor
    · intro h
      exact ⟨fun _ hkey => absurd hkey List.not_mem_nil, Option.some.inj h⟩
    · intro h
      exact congrArg some h.2
  | cons key keys ih =>
    rw [List.mapM_cons, List.forall_mem_cons]
    cases hload : store.loadArtifact key with
    | none => simp
    | some stored =>
      rw [List.filterMap_cons_some hload, Option.bind_eq_bind, Option.bind_some]
      constructor
      · intro h
        obtain ⟨rest, hrest, htail⟩ := Option.bind_eq_some_iff.mp h
        obtain ⟨hloads, rfl⟩ := ih.mp hrest
        cases htail
        exact ⟨⟨rfl, hloads⟩, rfl⟩
      · rintro ⟨⟨-, hloads⟩, rfl⟩
        rw [ih.mpr ⟨hloads, rfl⟩]
        rfl

theorem mem_validArtifacts (h : store.validArtifacts = some artifacts) :
    stored ∈ artifacts ↔ isJsonKey validArtifactPrefix stored.1 ∧
      store.load stored.1 = some (.artifact stored.2) := by
  obtain ⟨-, rfl⟩ := validArtifacts_eq_some.mp h
  simp only [List.mem_filterMap, mem_listJsonObjects, loadArtifact_eq_some]
  constructor
  · rintro ⟨key, ⟨-, hjson⟩, rfl, hload⟩
    exact ⟨hjson, hload⟩
  · rintro ⟨hjson, hload⟩
    exact ⟨stored.1, ⟨by rw [hload]; rfl, hjson⟩, rfl, hload⟩

theorem nodup_validArtifacts (h : store.validArtifacts = some artifacts) : artifacts.Nodup := by
  obtain ⟨-, rfl⟩ := validArtifacts_eq_some.mp h
  refine (Bucket.nodup_listing _ _).filterMap fun key key' stored hkey hkey' => ?_
  rw [← (loadArtifact_eq_some.mp hkey).1, (loadArtifact_eq_some.mp hkey').1]

/-- What is saved elsewhere is no valid artifact. -/
theorem validArtifacts_save_of_not (h : ¬isJsonKey validArtifactPrefix key) :
    (store.save key object).validArtifacts = store.validArtifacts := by
  have hload {other : Text} (hother : other ∈ store.listJsonObjects validArtifactPrefix) :
      (store.save key object).loadArtifact other = store.loadArtifact other := by
    have hne : other ≠ key := by
      rintro rfl
      exact h (mem_listJsonObjects.mp hother).2
    rw [loadArtifact, loadArtifact, load_save_of_ne hne]
  refine Option.ext fun artifacts => ?_
  rw [validArtifacts_eq_some, validArtifacts_eq_some, listJsonObjects_save_of_not h,
    List.filterMap_congr fun _ => hload]
  exact and_congr_left fun _ => forall₂_congr fun _ hother => by rw [hload hother]

/-- A valid artifact with a new key is among the others. -/
theorem validArtifacts_save_of_new (h : store.validArtifacts = some artifacts)
    (hnew : store.load stored.1 = none) :
    ∃ artifacts', (store.save stored.1 (.artifact stored.2)).validArtifacts = some artifacts' ∧
      artifacts.Sublist artifacts' := by
  obtain ⟨hloads, rfl⟩ := validArtifacts_eq_some.mp h
  have hold {key : Text} (hkey : key ∈ store.listJsonObjects validArtifactPrefix) :
      (store.save stored.1 (.artifact stored.2)).loadArtifact key = store.loadArtifact key := by
    have hne : key ≠ stored.1 := by
      rintro rfl
      exact absurd (mem_listJsonObjects.mp hkey).1 (by rw [hnew]; exact Bool.false_ne_true)
    rw [loadArtifact, loadArtifact, load_save_of_ne hne]
  refine ⟨_, validArtifacts_eq_some.mpr ⟨fun key hkey => ?_, rfl⟩, ?_⟩
  · by_cases heq : key = stored.1
    · rw [loadArtifact_eq_some.mpr ⟨heq.symm, heq ▸ load_save⟩]
      rfl
    · obtain ⟨hload, hjson⟩ := mem_listJsonObjects.mp hkey
      rw [load_save_of_ne heq] at hload
      have hkey := mem_listJsonObjects.mpr ⟨hload, hjson⟩
      rw [hold hkey]
      exact hloads key hkey
  · rw [← List.filterMap_congr fun key hkey => hold hkey]
    exact Bucket.listing_sublist_insert.filterMap _

end ArtifactStore

/-! ## Persisting a dataset -/

section Persist

variable {numerics : Numerics F A} {store store' : ArtifactStore F A}
  {dataset : List (TrainingWindow F) × TrainingDatasetManifest} {now start key : Text}
  {result : Option PersistedTrainingDatasetArtifact}

/-- What persisting does: it saves the manifest and, if it can be written, the archive. -/
theorem persist_cases
    (h : persistTrainingDatasetArtifacts numerics store dataset now start = (store', result)) :
    let persisted := persistedArtifact dataset.1 dataset.2 now start
    let store₁ := store.save (manifestKey start dataset.2.datasetId) (.dataset persisted)
    (result = none ∧ store' = store₁) ∨
      ∃ archive, serializeTrainingWindows numerics dataset.1 dataset.2.sequenceLength
          dataset.2.featureSchema.length = some archive ∧ result = some persisted ∧
        store' = store₁.save (windowsKey start dataset.2.datasetId) (.archive archive) := by
  intro persisted store₁
  rw [persistTrainingDatasetArtifacts] at h
  split at h
  · cases h
    exact .inl ⟨rfl, rfl⟩
  next archive harchive =>
    cases h
    exact .inr ⟨archive, harchive, rfl, rfl⟩

/-- What is under other keys stays. -/
theorem load_persist
    (h : persistTrainingDatasetArtifacts numerics store dataset now start = (store', result))
    (hmanifest : key ≠ manifestKey start dataset.2.datasetId)
    (hwindows : key ≠ windowsKey start dataset.2.datasetId) :
    store'.load key = store.load key := by
  rcases persist_cases h with ⟨-, rfl⟩ | ⟨archive, -, -, rfl⟩
  · exact ArtifactStore.load_save_of_ne hmanifest
  · rw [ArtifactStore.load_save_of_ne hwindows, ArtifactStore.load_save_of_ne hmanifest]

/-- Other listings stay. -/
theorem listJsonObjects_persist
    (h : persistTrainingDatasetArtifacts numerics store dataset now start = (store', result))
    {other : Text}
    (hmanifest : ¬ArtifactStore.isJsonKey other (manifestKey start dataset.2.datasetId))
    (hwindows : ¬ArtifactStore.isJsonKey other (windowsKey start dataset.2.datasetId)) :
    store'.listJsonObjects other = store.listJsonObjects other := by
  rcases persist_cases h with ⟨-, rfl⟩ | ⟨archive, -, -, rfl⟩
  · exact ArtifactStore.listJsonObjects_save_of_not hmanifest
  · rw [ArtifactStore.listJsonObjects_save_of_not hwindows,
      ArtifactStore.listJsonObjects_save_of_not hmanifest]

theorem validArtifacts_persist
    (h : persistTrainingDatasetArtifacts numerics store dataset now start = (store', result))
    (hmanifest : ¬ArtifactStore.isJsonKey validArtifactPrefix
      (manifestKey start dataset.2.datasetId))
    (hwindows : ¬ArtifactStore.isJsonKey validArtifactPrefix
      (windowsKey start dataset.2.datasetId)) :
    store'.validArtifacts = store.validArtifacts := by
  rcases persist_cases h with ⟨-, rfl⟩ | ⟨archive, -, -, rfl⟩
  · exact ArtifactStore.validArtifacts_save_of_not hmanifest
  · rw [ArtifactStore.validArtifacts_save_of_not hwindows,
      ArtifactStore.validArtifacts_save_of_not hmanifest]

/-- The manifest is under its key, also where the archive cannot be written. -/
theorem load_manifest_persist
    (h : persistTrainingDatasetArtifacts numerics store dataset now start = (store', result)) :
    store'.load (manifestKey start dataset.2.datasetId) =
      some (.dataset (persistedArtifact dataset.1 dataset.2 now start)) := by
  rcases persist_cases h with ⟨-, rfl⟩ | ⟨archive, -, -, rfl⟩
  · exact ArtifactStore.load_save
  · rw [ArtifactStore.load_save_of_ne (manifestKey_ne_windowsKey _ _ _ _), ArtifactStore.load_save]

/-- The archive is under its key when it can be written. -/
theorem load_windows_persist {archive : A}
    (h : persistTrainingDatasetArtifacts numerics store dataset now start = (store', result))
    (harchive : serializeTrainingWindows numerics dataset.1 dataset.2.sequenceLength
      dataset.2.featureSchema.length = some archive) :
    store'.load (windowsKey start dataset.2.datasetId) = some (.archive archive) := by
  rw [persistTrainingDatasetArtifacts, harchive] at h
  cases h
  exact ArtifactStore.load_save

end Persist

end TruthFingerprint.Lstm
