import Mathlib
import TruthFingerprint.Lstm.DatasetArtifactsLemmas
import TruthFingerprint.Lstm.Lifecycle

/-!
# What a call of the lifecycle saves and loads

Datasets, models and valid artifacts have keys of their own, so that persisting a dataset changes no
metadata and no valid artifact, and training no dataset.
-/

namespace TruthFingerprint.Lstm

variable {F A : Type}

/-! ## Keys -/

theorem not_isJsonKey_append {start other rest : Text} (h : ¬start <+: other)
    (h' : ¬other <+: start) : ¬ArtifactStore.isJsonKey start (other ++ rest) := by
  intro hkey
  have hstart : start <+: other ++ rest :=
    List.isPrefixOf_iff_prefix.mp (Bool.and_eq_true_iff.mp hkey).1
  rcases List.prefix_or_prefix_of_prefix hstart (List.prefix_append other rest) with h₁ | h₁
  · exact h h₁
  · exact h' h₁

/-- A key of a dataset, for training or for evaluation -/
def IsDatasetKey (key : Text) : Prop := ∃ rest, key = datasetPrefix ++ rest

theorem isDatasetKey_manifestKey (rest datasetId : Text) :
    IsDatasetKey (manifestKey (datasetPrefix ++ rest) datasetId) :=
  ⟨rest ++ datasetId ++ text ".manifest.json", by simp only [manifestKey, List.append_assoc]⟩

theorem isDatasetKey_windowsKey (rest datasetId : Text) :
    IsDatasetKey (windowsKey (datasetPrefix ++ rest) datasetId) :=
  ⟨rest ++ datasetId ++ text ".windows.npz", by simp only [windowsKey, List.append_assoc]⟩

theorem IsDatasetKey.not_valid {key : Text} (h : IsDatasetKey key) :
    ¬ArtifactStore.isJsonKey validArtifactPrefix key := by
  obtain ⟨rest, rfl⟩ := h
  exact not_isJsonKey_append (by decide) (by decide)

theorem IsDatasetKey.not_model {key : Text} (h : IsDatasetKey key) :
    ¬ArtifactStore.isJsonKey modelPrefix key := by
  obtain ⟨rest, rfl⟩ := h
  exact not_isJsonKey_append (by decide) (by decide)

theorem IsDatasetKey.ne_weightsKey {key : Text} (h : IsDatasetKey key) (modelId : Text) :
    key ≠ weightsKey modelId := by
  obtain ⟨rest, rfl⟩ := h
  intro heq
  rw [weightsKey, List.append_assoc] at heq
  rcases List.prefix_or_prefix_of_prefix (List.prefix_append datasetPrefix rest)
    (heq ▸ List.prefix_append modelPrefix _) with hprefix | hprefix
  · exact absurd hprefix (by decide)
  · exact absurd hprefix (by decide)

theorem not_model_of_valid {key : Text} (h : ArtifactStore.isJsonKey validArtifactPrefix key) :
    ¬ArtifactStore.isJsonKey modelPrefix key := by
  obtain ⟨rest, rfl⟩ := List.isPrefixOf_iff_prefix.mp (Bool.and_eq_true_iff.mp h).1
  exact not_isJsonKey_append (by decide) (by decide)

theorem not_valid_metadataKey (modelId : Text) :
    ¬ArtifactStore.isJsonKey validArtifactPrefix (metadataKey modelId) := by
  rw [metadataKey, List.append_assoc]
  exact not_isJsonKey_append (by decide) (by decide)

theorem not_valid_weightsKey (modelId : Text) :
    ¬ArtifactStore.isJsonKey validArtifactPrefix (weightsKey modelId) := by
  rw [weightsKey, List.append_assoc]
  exact not_isJsonKey_append (by decide) (by decide)

theorem not_model_weightsKey (modelId : Text) :
    ¬ArtifactStore.isJsonKey modelPrefix (weightsKey modelId) := by
  intro h
  obtain ⟨rest, hrest⟩ := List.isSuffixOf_iff_suffix.mp (Bool.and_eq_true_iff.mp h).2
  have hlast := congrArg List.getLast? hrest
  rw [weightsKey, List.getLast?_append, List.getLast?_append] at hlast
  exact absurd (Option.some.inj hlast) (by decide)

theorem isJsonKey_metadataKey (modelId : Text) :
    ArtifactStore.isJsonKey modelPrefix (metadataKey modelId) := by
  refine Bool.and_eq_true_iff.mpr ⟨List.isPrefixOf_iff_prefix.mpr ?_,
    List.isSuffixOf_iff_suffix.mpr (List.suffix_append _ _)⟩
  rw [metadataKey, List.append_assoc]
  exact List.prefix_append _ _

/-! ## Loading and training -/

section Training

variable {numerics : Numerics F A} {store store' : ArtifactStore F A} {key now : Text}
  {windows : List (TrainingWindow F)} {manifest : TrainingDatasetManifest}
  {metadata : FingerprintModelArtifact}

theorem loadDataset_eq_some
    (h : loadPersistedTrainingDatasetArtifacts numerics store key = some (windows, manifest)) :
    ∃ persisted archive, store.load key = some (.dataset persisted) ∧
      store.load persisted.windowsObjectKey = some (.archive archive) ∧
      numerics.loadArchive archive persisted.featureSchema = some windows ∧
      manifest.datasetId = persisted.datasetId := by
  rw [loadPersistedTrainingDatasetArtifacts] at h
  split at h
  next persisted hpersisted =>
    split at h
    next archive harchive =>
      obtain ⟨loaded, hloaded, heq⟩ := Option.map_eq_some_iff.mp h
      cases heq
      exact ⟨persisted, archive, hpersisted, harchive, hloaded, rfl⟩
    next => cases h
  next => cases h

theorem loadDataset_of_load {persisted : PersistedTrainingDatasetArtifact} {archive : A}
    (hpersisted : store.load key = some (.dataset persisted))
    (harchive : store.load persisted.windowsObjectKey = some (.archive archive))
    (hwindows : numerics.loadArchive archive persisted.featureSchema = some windows) :
    ∃ manifest, loadPersistedTrainingDatasetArtifacts numerics store key =
      some (windows, manifest) := by
  rw [loadPersistedTrainingDatasetArtifacts, hpersisted]
  dsimp only
  rw [harchive]
  dsimp only
  rw [hwindows]
  exact ⟨_, rfl⟩

/-- A training that is not completed saves nothing. -/
theorem train_eq_none
    (h : trainAndSaveFromPersistedDataset numerics store key now = (store', none)) :
    store' = store := by
  rw [trainAndSaveFromPersistedDataset] at h
  split at h
  · cases h; rfl
  · cases h; rfl
  · split_ifs at h
    · cases h; rfl
    · split at h
      · cases h; rfl
      · cases h

/-- A training saves the weights and the metadata, which name the dataset. -/
theorem train_eq_some
    (h : trainAndSaveFromPersistedDataset numerics store key now =
      (store', some (metadata, windows))) :
    ∃ manifest weights modelId,
      loadPersistedTrainingDatasetArtifacts numerics store key = some (windows, manifest) ∧
      metadata.sourceDatasetId = manifest.datasetId ∧
      metadata.metadataObjectKey = metadataKey modelId ∧
      store' = (store.save (weightsKey modelId) (.weights weights)).save (metadataKey modelId)
        (.metadata metadata) := by
  rw [trainAndSaveFromPersistedDataset] at h
  split at h
  · cases h
  · cases h
  next first rest manifest hload =>
    split_ifs at h
    · cases h
    · split at h
      · cases h
      next weights hfit =>
        cases h
        exact ⟨manifest, weights, _, hload, rfl, rfl, rfl⟩

end Training

end TruthFingerprint.Lstm
