import Mathlib
import TruthFingerprint.Lib.Utf8
import TruthFingerprint.OfflineTraining.PhaseAllocation
import TruthFingerprint.OfflineTraining.Selection

/-!
# The loader of ADFA-LD

Each trace file is described by its place and by a digest of the system calls that it lists. Files
with the same calls are represented by one of them, unless they are of different classes. What is
left is split into strata, and a slice of the ranking of each stratum is selected. A selected unit is
the representative of its content (`mem_canonical_of_mem_units`).
-/

namespace TruthFingerprint.OfflineTraining

open Evidence (bytesId)
open List (groups ranked representatives slice)
open Python (Coercions FloatOps Members Value)

/-! ## Files -/

inductive AdfaDirectory where
  | training
  | validation
  | attack
deriving DecidableEq

def AdfaDirectory.name : AdfaDirectory → Text
  | .training => text "Training_Data_Master"
  | .validation => text "Validation_Data_Master"
  | .attack => text "Attack_Data_Master"

/-- `native_preference` -/
def AdfaDirectory.preference : AdfaDirectory → Nat
  | .training => 0
  | .validation => 1
  | .attack => 2

/-- The names of the trace files, in the order in which the directories list them, and the contents
of the file at a path -/
structure AdfaCorpus where
  hasDirectory : AdfaDirectory → Bool
  training : List Text
  validation : List Text
  attack : List (Text × List Text)
  contents : Text → Bytes

def join (parent name : Text) : Text := parent ++ '/'.codePoint :: name

/-- The parts of a path, by which paths are sorted -/
def pathParts (path : Text) : List Text := path.splitOnP (· = '/'.codePoint)

def sortNames (names : List Text) : List Text := names.insertionSort (· ≤ ·)

/-- The families of attacks by class, with the prefixes of their directories -/
def attackFamilies : List (Text × List Text) :=
  [(text "Adduser", [text "Adduser", text "adduser"]),
    (text "Hydra-FTP", [text "Hydra_FTP", text "Hydra-FTP", text "hydra_ftp"]),
    (text "Hydra-SSH", [text "Hydra_SSH", text "Hydra-SSH", text "hydra_ssh"]),
    (text "Java-Meterpreter", [text "Java_Meterpreter", text "Java-Meterpreter",
      text "java_meterpreter", text "Meterpreter", text "meterpreter"]),
    (text "Web-Shell", [text "Web_Shell", text "Web-Shell", text "webshell"])]

def isOfFamily (prefixes : List Text) (directory : Text) : Bool :=
  prefixes.any fun start => directory = start || (start ++ text "_").isPrefixOf directory ||
    (start ++ text "-").isPrefixOf directory

namespace AdfaCorpus

variable (corpus : AdfaCorpus)

def trainingPaths : List Text := (sortNames corpus.training).map (join AdfaDirectory.training.name)

def validationPaths : List Text :=
  (sortNames corpus.validation).map (join AdfaDirectory.validation.name)

/-- The attack files with their families -/
def attackPaths : List (Text × Text) :=
  attackFamilies.flatMap fun family =>
    ((corpus.attack.insertionSort fun d e => d.1 ≤ e.1).filter fun directory =>
        isOfFamily family.2 directory.1).flatMap fun directory =>
      (sortNames directory.2).map fun name =>
        (join (join AdfaDirectory.attack.name directory.1) name, family.1)

end AdfaCorpus

/-! ## Traces -/

/-- The text of bytes that are UTF-8 -/
def decodeUtf8 (bytes : Bytes) : Option Text :=
  (Utf8.scan (fun c => !c.isSurrogate) 0 bytes).mapM id

/-- `_parse_adfa_trace` -/
def parseAdfaTrace (contents : Bytes) : Option (List Text) := do
  let text ← decodeUtf8 contents
  let integers ← (Python.split text).mapM fun token => (Python.intOfText token).map Python.intText
  guard (integers ≠ [])
  some integers

section Loader

variable {F : Type} [Coercions F]

/-- The document that `_adfa_detector_identity` hashes -/
def adfaDetectorDoc (integers : List Text) : Value F :=
  .obj [(text "projection", .str (text "adfa-parsed-syscall-id-sequence-v2")),
    (text "syscall_ids", textsDoc integers)]

variable (F) in
/-- `_adfa_detector_identity` -/
def adfaDetectorIdentity (integers : List Text) : Option Text :=
  canonicalJsonHash (F := F) (adfaDetectorDoc integers)

structure AdfaDescriptor where
  path : Text
  directory : AdfaDirectory
  className : Text
  label : Fin 2
  contentSha256 : Text
  identity : Text
deriving DecidableEq

def AdfaDescriptor.semantics (descriptor : AdfaDescriptor) : Text × Fin 2 :=
  (descriptor.className, descriptor.label)

variable (F) in
def describe (corpus : AdfaCorpus) (directory : AdfaDirectory) (className : Text) (label : Fin 2)
    (path : Text) : Option AdfaDescriptor := do
  let integers ← parseAdfaTrace (corpus.contents path)
  let identity ← adfaDetectorIdentity F integers
  some ⟨path, directory, className, label, bytesId (corpus.contents path), identity⟩

variable (F) in
/-- The descriptors of all trace files -/
def adfaDescriptors (corpus : AdfaCorpus) : Option (List AdfaDescriptor) := do
  let training ← corpus.trainingPaths.mapM (describe F corpus .training (text "Normal") 0)
  let validation ← corpus.validationPaths.mapM (describe F corpus .validation (text "Normal") 0)
  let attack ← corpus.attackPaths.mapM fun file => describe F corpus .attack file.2 1 file.1
  some (training ++ validation ++ attack)

/-- One descriptor for each content that has one class, by preference of the directory -/
def canonicalDescriptors (descriptors : List AdfaDescriptor) : List AdfaDescriptor :=
  representatives AdfaDescriptor.identity AdfaDescriptor.semantics
    (fun descriptor => toLex (descriptor.directory.preference, descriptor.path)) descriptors

/-! ## Strata -/

def inDirectory (directory : AdfaDirectory) (descriptors : List AdfaDescriptor) :
    List AdfaDescriptor :=
  ranked (fun descriptor => pathParts descriptor.path)
    (descriptors.filter fun descriptor => descriptor.directory = directory)

/-- `min(max(round(n * fraction), 1), max(n - 1, 1))` -/
def validationCount (fraction : F) (n : Nat) : Nat :=
  (min (max (Coercions.roundTimes n fraction) 1) (max ((n : Int) - 1) 1)).toNat

/-- The strata of the canonical descriptors: train, validation, normal test and the attacks of each
family -/
structure AdfaStrata where
  training : List AdfaDescriptor
  validation : List AdfaDescriptor
  testNormal : List AdfaDescriptor
  attacks : List (Text × List AdfaDescriptor)

def adfaStrata (seed : Int) (fraction : F) (descriptors : List AdfaDescriptor) : AdfaStrata :=
  let ranked := rankPaths AdfaDescriptor.path seed (inDirectory .validation descriptors)
  let count := validationCount fraction ranked.length
  { training := inDirectory .training descriptors
    validation := ranked.take count
    testNormal := ranked.drop count
    attacks := (groups AdfaDescriptor.className (inDirectory .attack descriptors)).insertionSort
      fun g h => g.1 ≤ h.1 }

/-! ## Selection -/

/-- The settings that the loader reads of the configuration -/
structure AdfaSettings (F : Type) where
  seed : Int
  fraction : F

def adfaSettings (config : Members F) : Option (AdfaSettings F) := do
  let seed ← Python.int ((config.lookup (text "partition_seed")).getD (.num (.int 1729)))
  let fraction ← Python.float ((config.lookup (text "normal_validation_fraction")).getD
    (.num (.float (FloatOps.ofLiteral (text "0.5")))))
  guard (Coercions.isFraction fraction)
  some ⟨seed, fraction⟩

/-- The slice of a stratum that a phase selects -/
def adfaSlice (config caps : Members F) (phase : Phase) (seed : Int) (capName stratum : Text)
    (fallback : Option Text) (files : List AdfaDescriptor) : Option (List AdfaDescriptor) := do
  let count ← cap caps capName
  let offset ← phaseRankStart config phase stratum fallback
  stableCap AdfaDescriptor.path seed files count offset
    (present config (text "phase_allocation")).isSome

structure AdfaSelection where
  training : List AdfaDescriptor
  validation : List AdfaDescriptor
  testNormal : List AdfaDescriptor
  attacks : List AdfaDescriptor

def adfaSelection (config : Members F) (phase : Phase) (seed : Int) (strata : AdfaStrata) :
    Option AdfaSelection := do
  let caps ← phaseCaps config phase
  let training ← adfaSlice config caps phase seed (text "train") (text "train") none strata.training
  let validation ← adfaSlice config caps phase (seed + 1) (text "validation") (text "validation")
    none strata.validation
  let testNormal ← adfaSlice config caps phase (seed + 2) (text "test_normal") (text "test_normal")
    none strata.testNormal
  let attacks ← strata.attacks.mapM fun family =>
    adfaSlice config caps phase (seed + 3) (text "test_attack_per_class")
      (text "attack_per_class:" ++ family.1) (some (text "attack_per_class")) family.2
  some ⟨training, validation, testNormal, attacks.flatten⟩

/-- `_adfa_unit` -/
def adfaUnit (corpus : AdfaCorpus) (assigned : Partition) (descriptor : AdfaDescriptor)
    (order : Nat) : Option (AcademicUnit F) := do
  let integers ← parseAdfaTrace (corpus.contents descriptor.path)
  let unitId := text "adfa-ld:" ++ descriptor.path
  if h : descriptor.identity ≠ [] then
    some
      { unitId
        groupId := descriptor.identity
        nativePartition := descriptor.directory.name
        assignedPartition := assigned
        label := descriptor.label
        className := descriptor.className
        values := integers.map fun token => [.name token]
        sourcePath := descriptor.path
        sourceSha256 := descriptor.contentSha256
        order
        eventIds := if descriptor.label = 1 then [unitId] else []
        sampledSequences := []
        evidenceOrigin := .officialNative
        resamplingClusterId := unitId
        unitId_ne := by simp [unitId, text]
        groupId_ne := h }
  else none

/-- The selected descriptors with the partition of each, in the order of the units -/
def AdfaSelection.assigned (selection : AdfaSelection) : List (Partition × AdfaDescriptor) :=
  selection.training.map (Prod.mk .train) ++ selection.validation.map (Prod.mk .validation) ++
    selection.testNormal.map (Prod.mk .test) ++ selection.attacks.map (Prod.mk .test)

def adfaUnits (corpus : AdfaCorpus) (selection : AdfaSelection) : Option (List (AcademicUnit F)) :=
  selection.assigned.zipIdx.mapM fun item => adfaUnit corpus item.1.1 item.1.2 item.2

/-- `_load_adfa_ld` -/
def loadAdfaLd (corpus : AdfaCorpus) (config : Members F) (phase : Phase) :
    Option (AcademicDataset F) := do
  guard ([AdfaDirectory.training, .validation, .attack].all corpus.hasDirectory)
  let settings ← adfaSettings config
  let descriptors ← adfaDescriptors F corpus
  let strata := adfaStrata settings.seed settings.fraction (canonicalDescriptors descriptors)
  let selection ← adfaSelection config phase settings.seed strata
  let units ← adfaUnits corpus selection
  Protocol.phaseAllocationAudit config phase
  officialDataset (text "adfa-ld") (text "categorical-syscall")
    (if (present config (text "phase_allocation")).isSome then text "adfa-ld-native-normal-only-v2"
      else text "adfa-ld-native-normal-only-v1")
    units [text "syscall_id"] phase.label

/-! ## What is selected -/

/-- The descriptors of all strata -/
def AdfaStrata.files (strata : AdfaStrata) : List AdfaDescriptor :=
  strata.training ++ (strata.validation ++ strata.testNormal) ++ strata.attacks.flatMap Prod.snd

def AdfaSelection.files (selection : AdfaSelection) : List AdfaDescriptor :=
  selection.training ++ (selection.validation ++ selection.testNormal) ++ selection.attacks

omit [Coercions F] in
theorem perm_inDirectory (directory : AdfaDirectory) (descriptors : List AdfaDescriptor) :
    (inDirectory directory descriptors).Perm
      (descriptors.filter fun descriptor => descriptor.directory = directory) :=
  List.perm_ranked _ _

omit [Coercions F] in
theorem perm_directories (descriptors : List AdfaDescriptor) :
    (inDirectory .training descriptors ++ inDirectory .validation descriptors ++
      inDirectory .attack descriptors).Perm descriptors := by
  have hgroups : (([.training, .validation, .attack] : List AdfaDirectory).flatMap
      (List.groupOf AdfaDescriptor.directory descriptors)).Perm descriptors :=
    List.perm_flatMap_groupOf AdfaDescriptor.directory (by decide) fun descriptor _ => by
      cases descriptor.directory <;> decide
  simp only [List.flatMap_cons, List.flatMap_nil, List.append_nil, ← List.append_assoc] at hgroups
  exact (((perm_inDirectory _ _).append (perm_inDirectory _ _)).append
    (perm_inDirectory _ _)).trans hgroups

/-- Every descriptor is in one stratum. -/
theorem perm_files_adfaStrata (seed : Int) (fraction : F) (descriptors : List AdfaDescriptor) :
    (adfaStrata seed fraction descriptors).files.Perm descriptors := by
  refine List.Perm.trans ?_ (perm_directories descriptors)
  have hattacks : ((adfaStrata seed fraction descriptors).attacks.flatMap Prod.snd).Perm
      (inDirectory .attack descriptors) :=
    ((List.perm_insertionSort _ _).flatMap_right _).trans (List.perm_flatMap_groups _ _)
  refine List.Perm.append (List.Perm.append_left _ ?_) hattacks
  simp only [adfaStrata, List.take_append_drop]
  exact List.perm_ranked _ _

theorem subperm_of_adfaSlice {config caps : Members F} {phase : Phase} {seed : Int}
    {capName stratum : Text} {fallback : Option Text} {files selected : List AdfaDescriptor}
    (h : adfaSlice config caps phase seed capName stratum fallback files = some selected) :
    selected.Subperm files := by
  simp only [adfaSlice, Option.bind_eq_bind, Option.bind_eq_some_iff] at h
  obtain ⟨_, -, _, -, h⟩ := h
  exact (sublist_of_stableCap h).subperm.trans (List.perm_ranked _ _).subperm

theorem subperm_flatten {α β : Type} {f : α → Option (List β)} {g : α → List β} {xs : List α}
    {ys : List (List β)} (hf : ∀ x ys, f x = some ys → ys.Subperm (g x))
    (h : xs.mapM f = some ys) : ys.flatten.Subperm (xs.flatMap g) := by
  have hrel := List.mapM_eq_some_iff.mp h
  induction hrel with
  | nil => exact List.Subperm.refl _
  | cons hy hrest ih =>
    rw [List.flatten_cons, List.flatMap_cons]
    exact (hf _ _ hy).append (ih (List.mapM_eq_some_iff.mpr hrest))

/-- No descriptor is selected twice, nor one that is in no stratum. -/
theorem subperm_files_adfaSelection {config : Members F} {phase : Phase} {seed : Int}
    {strata : AdfaStrata} {selection : AdfaSelection}
    (h : adfaSelection config phase seed strata = some selection) :
    selection.files.Subperm strata.files := by
  simp only [adfaSelection, Option.bind_eq_bind, Option.bind_eq_some_iff, Option.some.injEq] at h
  obtain ⟨_, -, training, htraining, validation, hvalidation, testNormal, htestNormal, attacks,
    hattacks, rfl⟩ := h
  exact ((subperm_of_adfaSlice htraining).append ((subperm_of_adfaSlice hvalidation).append
    (subperm_of_adfaSlice htestNormal))).append
      (subperm_flatten (fun _ _ => subperm_of_adfaSlice) hattacks)

omit [Coercions F] in
/-- What a unit keeps of its descriptor -/
theorem adfaUnit_eq_some {corpus : AdfaCorpus} {assigned : Partition} {descriptor : AdfaDescriptor}
    {order : Nat} {unit : AcademicUnit F}
    (h : adfaUnit corpus assigned descriptor order = some unit) :
    unit.unitId = text "adfa-ld:" ++ descriptor.path ∧ unit.groupId = descriptor.identity ∧
      unit.assignedPartition = assigned ∧ (unit.className, unit.label) = descriptor.semantics ∧
      ∃ integers, parseAdfaTrace (corpus.contents descriptor.path) = some integers ∧
        unit.values = integers.map fun token => [.name token] := by
  simp only [adfaUnit, Option.bind_eq_bind, Option.bind_eq_some_iff] at h
  obtain ⟨integers, hintegers, h⟩ := h
  by_cases hidentity : descriptor.identity ≠ []
  · rw [dif_pos hidentity] at h
    obtain rfl := Option.some.inj h
    exact ⟨rfl, rfl, rfl, rfl, integers, hintegers, rfl⟩
  · rw [dif_neg hidentity] at h
    cases h

/-- What a loaded dataset is made of -/
structure AdfaLoaded (corpus : AdfaCorpus) (config : Members F) (phase : Phase)
    (dataset : AcademicDataset F) where
  settings : AdfaSettings F
  descriptors : List AdfaDescriptor
  selection : AdfaSelection
  hasSettings : adfaSettings config = some settings
  described : adfaDescriptors F corpus = some descriptors
  selected : adfaSelection config phase settings.seed
    (adfaStrata settings.seed settings.fraction (canonicalDescriptors descriptors)) = some selection
  units : adfaUnits corpus selection = some dataset.units

theorem exists_adfaLoaded {corpus : AdfaCorpus} {config : Members F} {phase : Phase}
    {dataset : AcademicDataset F} (h : loadAdfaLd corpus config phase = some dataset) :
    Nonempty (AdfaLoaded corpus config phase dataset) := by
  simp only [loadAdfaLd, Option.bind_eq_bind, Option.bind_eq_some_iff] at h
  obtain ⟨_, -, settings, hsettings, descriptors, hdescriptors, selection, hselection, units, hunits,
    _, -, hdataset⟩ := h
  exact ⟨⟨settings, descriptors, selection, hsettings, hdescriptors, hselection,
    units_of_officialDataset hdataset ▸ hunits⟩⟩

namespace AdfaLoaded

variable {corpus : AdfaCorpus} {config : Members F} {phase : Phase} {dataset : AcademicDataset F}
  (loaded : AdfaLoaded corpus config phase dataset)

/-- The representatives among which the slices are taken -/
def candidates : List AdfaDescriptor :=
  (adfaStrata loaded.settings.seed loaded.settings.fraction
    (canonicalDescriptors loaded.descriptors)).files

theorem perm_candidates : loaded.candidates.Perm (canonicalDescriptors loaded.descriptors) :=
  perm_files_adfaStrata _ _ _

theorem nodup_identities : (loaded.candidates.map AdfaDescriptor.identity).Nodup :=
  ((loaded.perm_candidates.map _).nodup_iff).mpr (List.nodup_map_representatives _ _ _)

theorem subperm_files : loaded.selection.files.Subperm loaded.candidates :=
  subperm_files_adfaSelection loaded.selected

/-- A unit of a descriptor -/
def IsUnitOf (corpus : AdfaCorpus) (descriptor : AdfaDescriptor) (unit : AcademicUnit F) : Prop :=
  unit.unitId = text "adfa-ld:" ++ descriptor.path ∧ unit.groupId = descriptor.identity ∧
    (unit.className, unit.label) = descriptor.semantics ∧
    ∃ integers, parseAdfaTrace (corpus.contents descriptor.path) = some integers ∧
      unit.values = integers.map fun token => [.name token]

/-- The units are those of the selected descriptors. -/
theorem forall₂_units :
    List.Forall₂ (IsUnitOf corpus) (loaded.selection.assigned.map Prod.snd) dataset.units := by
  have hmap : loaded.selection.assigned.map Prod.snd =
      loaded.selection.assigned.zipIdx.map fun item => item.1.2 := by
    conv_lhs => rw [← List.zipIdx_map_fst 0 loaded.selection.assigned]
    rw [List.map_map]
    rfl
  rw [hmap, List.forall₂_map_left_iff]
  refine (List.mapM_eq_some_iff.mp loaded.units).imp fun item unit h => ?_
  obtain ⟨hid, hgroup, -, hsemantics, hvalues⟩ := adfaUnit_eq_some h
  exact ⟨hid, hgroup, hsemantics, hvalues⟩

theorem map_snd_assigned : loaded.selection.assigned.map Prod.snd = loaded.selection.files := by
  simp [AdfaSelection.assigned, AdfaSelection.files, Function.comp_def]

theorem map_groupId : dataset.units.map AcademicUnit.groupId =
    loaded.selection.files.map AdfaDescriptor.identity := by
  have h := loaded.forall₂_units
  rw [loaded.map_snd_assigned] at h
  generalize loaded.selection.files = files at h
  generalize dataset.units = units at h
  induction h with
  | nil => rfl
  | cons hunit _ ih => rw [List.map_cons, List.map_cons, hunit.2.1, ih]

theorem exists_descriptor {unit : AcademicUnit F} (h : unit ∈ dataset.units) :
    ∃ descriptor ∈ loaded.selection.files, IsUnitOf corpus descriptor unit := by
  have hrel := loaded.forall₂_units
  rw [loaded.map_snd_assigned] at hrel
  obtain ⟨i, hi, rfl⟩ := List.mem_iff_getElem.mp h
  have hlen : i < loaded.selection.files.length := hrel.length_eq ▸ hi
  exact ⟨_, List.getElem_mem hlen, hrel.get hlen hi⟩

theorem mem_canonical {descriptor : AdfaDescriptor} (h : descriptor ∈ loaded.selection.files) :
    descriptor ∈ canonicalDescriptors loaded.descriptors :=
  loaded.perm_candidates.subset (loaded.subperm_files.subset h)

/-- No two units have the same content. -/
theorem nodup_groupIds (loaded : AdfaLoaded corpus config phase dataset) :
    (dataset.units.map AcademicUnit.groupId).Nodup := by
  rw [loaded.map_groupId]
  obtain ⟨files, hperm, hsub⟩ := loaded.subperm_files
  exact ((hperm.map _).nodup_iff).mp ((hsub.map _).nodup loaded.nodup_identities)

/-- All files with the content of a unit are of its class. -/
theorem semantics_eq {unit : AcademicUnit F} (h : unit ∈ dataset.units)
    {descriptor : AdfaDescriptor} (hdescriptor : descriptor ∈ loaded.descriptors)
    (hidentity : descriptor.identity = unit.groupId) :
    descriptor.semantics = (unit.className, unit.label) := by
  obtain ⟨own, hown, -, hgroup, hsemantics, -⟩ := loaded.exists_descriptor h
  rw [hsemantics]
  exact List.meaning_eq_of_mem_representatives _ _ _ (loaded.mem_canonical hown) hdescriptor
    (hidentity.trans hgroup)

/-- A content of one class has one candidate. -/
theorem existsUnique_candidate {descriptor : AdfaDescriptor}
    (hdescriptor : descriptor ∈ loaded.descriptors)
    (hone : ∀ other ∈ loaded.descriptors, other.identity = descriptor.identity →
      other.semantics = descriptor.semantics) :
    ∃! candidate, candidate ∈ loaded.candidates ∧ candidate.identity = descriptor.identity := by
  have hgroup : List.OneMeaning AdfaDescriptor.semantics
      (List.groupOf AdfaDescriptor.identity loaded.descriptors descriptor.identity) := by
    intro a ha b hb
    obtain ⟨ha, hakey⟩ := (List.mem_groupOf _).mp ha
    obtain ⟨hb, hbkey⟩ := (List.mem_groupOf _).mp hb
    exact (hone a ha hakey).trans (hone b hb hbkey).symm
  obtain ⟨candidate, hcandidate, hidentity⟩ := List.exists_representative AdfaDescriptor.identity
    AdfaDescriptor.semantics
    (fun descriptor => toLex (descriptor.directory.preference, descriptor.path)) hdescriptor hgroup
  refine ⟨candidate, ⟨loaded.perm_candidates.symm.subset hcandidate, hidentity⟩, ?_⟩
  rintro other ⟨hother, hotherIdentity⟩
  exact List.inj_on_of_nodup_map loaded.nodup_identities hother
    (loaded.perm_candidates.symm.subset hcandidate) (hotherIdentity.trans hidentity.symm)

/-- A content has a unit if a slice has its candidate. -/
theorem exists_unit_iff {content : Text} : (∃ unit ∈ dataset.units, unit.groupId = content) ↔
    ∃ candidate ∈ loaded.selection.files, candidate.identity = content := by
  have h : content ∈ dataset.units.map AcademicUnit.groupId ↔
      content ∈ loaded.selection.files.map AdfaDescriptor.identity := by rw [loaded.map_groupId]
  simpa only [List.mem_map] using h

end AdfaLoaded

end Loader

end TruthFingerprint.OfflineTraining
