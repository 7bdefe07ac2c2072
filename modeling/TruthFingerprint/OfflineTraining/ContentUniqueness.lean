import Mathlib
import TruthFingerprint.OfflineTraining.AdfaLd
import TruthFingerprint.OfflineTraining.ContentReservation

/-!
# One unit for each content

Both loaders represent a content by one unit. ADFA-LD reads every trace before it selects: a content
with two meanings anywhere in the corpus is left out, and of every other one the slices see a single
candidate. LID-DS deduplicates what it has selected, so that the archives past the cap of their role
have no say in what a content means (`sample_unread_meaning`).
-/

namespace TruthFingerprint.OfflineTraining

open List (OneMeaning groupOf)
open Python (Coercions Members Value)

variable {F : Type} [Coercions F]

/-- What holds of a dataset of ADFA-LD -/
structure AdfaContents (corpus : AdfaCorpus) (config : Members F) (phase : Phase)
    (dataset : AcademicDataset F) (loaded : AdfaLoaded corpus config phase dataset) : Prop where
  oneMeaning : ∀ unit ∈ dataset.units, ∀ descriptor ∈ loaded.descriptors,
    descriptor.identity = unit.groupId → descriptor.semantics = (unit.className, unit.label)
  oneCandidate : ∀ descriptor ∈ loaded.descriptors,
    (∀ other ∈ loaded.descriptors, other.identity = descriptor.identity →
      other.semantics = descriptor.semantics) →
    ∃! candidate, candidate ∈ loaded.candidates ∧ candidate.identity = descriptor.identity
  selected : loaded.selection.files.Subperm loaded.candidates
  units : ∀ content, (∃ unit ∈ dataset.units, unit.groupId = content) ↔
    ∃ candidate ∈ loaded.selection.files, candidate.identity = content

/-- What holds of a dataset of LID-DS -/
structure LidContents (corpus : LidCorpus F) (config : Members F) (phase : Phase)
    (dataset : AcademicDataset F) (loaded : LidLoaded corpus config phase dataset) : Prop where
  oneMeaning : ∀ unit ∈ dataset.units, ∀ other ∈ loaded.selection.units,
    other.groupId = unit.groupId → other.semantics = unit.semantics
  oneUnit : ∀ unit ∈ loaded.selection.units,
    (∀ other ∈ loaded.selection.units, other.groupId = unit.groupId →
      other.semantics = unit.semantics) →
    ∃! kept, kept ∈ dataset.units ∧ kept.groupId = unit.groupId

theorem AdfaLoaded.contents {corpus : AdfaCorpus} {config : Members F} {phase : Phase}
    {dataset : AcademicDataset F} (loaded : AdfaLoaded corpus config phase dataset) :
    AdfaContents corpus config phase dataset loaded where
  oneMeaning _ hunit _ hdescriptor hidentity := loaded.semantics_eq hunit hdescriptor hidentity
  oneCandidate _ hdescriptor hone := loaded.existsUnique_candidate hdescriptor hone
  selected := loaded.subperm_files
  units _ := loaded.exists_unit_iff

theorem LidLoaded.nodup_groupIds {corpus : LidCorpus F} {config : Members F} {phase : Phase}
    {dataset : AcademicDataset F} (loaded : LidLoaded corpus config phase dataset) :
    (dataset.units.map AcademicUnit.groupId).Nodup := by
  rw [loaded.units]
  exact OfflineTraining.nodup_groupIds _

theorem LidLoaded.contents {corpus : LidCorpus F} {config : Members F} {phase : Phase}
    {dataset : AcademicDataset F} (loaded : LidLoaded corpus config phase dataset) :
    LidContents corpus config phase dataset loaded where
  oneMeaning unit hunit other hother hgroup := by
    rw [loaded.units] at hunit
    exact semantics_eq_of_mem_deduplicate hunit hother hgroup
  oneUnit unit hunit hone := by
    have hgroup : OneMeaning AcademicUnit.semantics
        (groupOf AcademicUnit.groupId loaded.selection.units unit.groupId) := by
      intro a ha b hb
      obtain ⟨ha, hakey⟩ := (List.mem_groupOf _).mp ha
      obtain ⟨hb, hbkey⟩ := (List.mem_groupOf _).mp hb
      exact (hone a ha hakey).trans (hone b hb hbkey).symm
    obtain ⟨kept, hkept, hkeptGroup⟩ := exists_mem_deduplicate hunit hgroup
    rw [← loaded.units] at hkept
    refine ⟨kept, ⟨hkept, hkeptGroup⟩, ?_⟩
    rintro other ⟨hother, hotherGroup⟩
    exact List.inj_on_of_nodup_map loaded.nodup_groupIds hother hkept
      (hotherGroup.trans hkeptGroup.symm)

/-- No content is in two units, nor in two partitions. -/
theorem contents_unique :
    (∀ (corpus : AdfaCorpus) (config : Members F) (phase : Phase) (dataset : AcademicDataset F),
      loadAdfaLd corpus config phase = some dataset →
      (dataset.units.map AcademicUnit.groupId).Nodup ∧ (auditGroupLeakage dataset).passed ∧
      ∃ loaded, AdfaContents corpus config phase dataset loaded) ∧
    ∀ (corpus : LidCorpus F) (config : Members F) (phase : Phase) (dataset : AcademicDataset F),
      loadLidDs2021 corpus config phase = some dataset →
      (dataset.units.map AcademicUnit.groupId).Nodup ∧ (auditGroupLeakage dataset).passed ∧
      ∃ loaded, LidContents corpus config phase dataset loaded := by
  constructor
  · intro corpus config phase dataset h
    obtain ⟨loaded⟩ := exists_adfaLoaded h
    exact ⟨loaded.nodup_groupIds, groupLeakage_passed loaded.nodup_groupIds, loaded, loaded.contents⟩
  · intro corpus config phase dataset h
    obtain ⟨loaded⟩ := exists_lidLoaded h
    exact ⟨loaded.nodup_groupIds, groupLeakage_passed loaded.nodup_groupIds, loaded, loaded.contents⟩

/-- The traces of a corpus of examples: `d` lists the calls of `a`, and `f` those of `c` -/
def sampleTraces : List (Text × Text) :=
  [(text "a.txt", text "6 6 63"), (text "b.txt", text "1 2"), (text "c.txt", text "3"),
    (text "d.txt", text "06  6\n63 "), (text "e.txt", text "9"), (text "f.txt", text "3"),
    (text "g.txt", text "7 7"), (text "h.txt", text "8"), (text "i.txt", text "10"),
    (text "j.txt", text "11"), (text "k.txt", text "12")]

def sampleAdfaCorpus : AdfaCorpus where
  hasDirectory := fun _ => true
  training := [text "a.txt", text "b.txt", text "c.txt"]
  validation := [text "d.txt", text "e.txt", text "i.txt", text "j.txt", text "k.txt"]
  attack := [(text "Adduser_1", [text "f.txt", text "g.txt", text "h.txt"])]
  contents := fun path =>
    ((sampleTraces.find? fun trace => trace.1.isSuffixOf path).map fun trace => trace.2.utf8).getD []

theorem sample_contents_unique :
    ∃ traces recordings, loadAdfaLd (F := ℚ) sampleAdfaCorpus [] .pilot = some traces ∧
      loadLidDs2021 sampleLidCorpus sampleLidConfig .pilot = some recordings ∧
      (traces.units.map AcademicUnit.groupId).Nodup ∧
      (recordings.units.map AcademicUnit.groupId).Nodup := by
  have hsomeTraces : (loadAdfaLd (F := ℚ) sampleAdfaCorpus [] .pilot).isSome := by decide +kernel
  have hsomeRecordings : (loadLidDs2021 sampleLidCorpus sampleLidConfig .pilot).isSome := by
    decide +kernel
  obtain ⟨traces, htraces⟩ := Option.isSome_iff_exists.mp hsomeTraces
  obtain ⟨recordings, hrecordings⟩ := Option.isSome_iff_exists.mp hsomeRecordings
  exact ⟨traces, recordings, htraces, hrecordings, (contents_unique.1 _ _ _ _ htraces).1,
    (contents_unique.2 _ _ _ _ hrecordings).1⟩

/-! ## Archives that are not read -/

/-- Two attack archives. The second is a copy of the archive in training. -/
def sampleUnreadCorpus : LidCorpus ℚ where
  hasRoot := true
  directories := [text "CVE"]
  archives := fun _ role =>
    if role = .testNormalAndAttack then [text "p.zip", text "q.zip"] else [text "a.zip"]
  project := fun _ _ _ relative =>
    let content := if (text "q.zip").isSuffixOf relative then text "CVE/training/a.zip" else relative
    some ⟨[(0, [[.name content]])], (text "CVE/test/normal_and").isPrefixOf relative, content, relative⟩
  directories_ok := sampleLidCorpus.directories_ok
  archives_nodup := fun _ role => by cases role <;> decide

def sampleUnreadConfig : Members ℚ :=
  [(text "phase_caps", .obj [(text "pilot",
    .obj [(text "archives_per_scenario_partition", .num (.int 1))])])]

/-- A recording of the corpus has the content of the unit and another meaning. -/
def OtherMeaning (corpus : LidCorpus F) (settings : LidSettings) (unit : AcademicUnit F)
    (scenario name : Text) (role : LidRole) : Prop :=
  name ∈ corpus.archives scenario role ∧
    ∃ projection, corpus.project settings.sequenceLength settings.maxSequences settings.seed
        (archivePath scenario role name) = some projection ∧
      projection.detectorInputSha256 = unit.groupId ∧
      (lidLabel projection.attack, lidClass scenario projection.attack) ≠ unit.semantics

/-- A content with two meanings in the corpus has a unit, as its attack is past the cap. -/
theorem sample_unread_meaning :
    ∃ dataset settings unit, loadLidDs2021 sampleUnreadCorpus sampleUnreadConfig .pilot = some dataset ∧
      lidSettings sampleUnreadCorpus sampleUnreadConfig .pilot = some settings ∧
      unit ∈ dataset.units ∧
      OtherMeaning sampleUnreadCorpus settings unit (text "CVE") (text "q.zip")
        .testNormalAndAttack := by
  have hunit : (loadLidDs2021 sampleUnreadCorpus sampleUnreadConfig .pilot).any (fun dataset =>
      dataset.units.any fun unit => unit.groupId = text "CVE/training/a.zip" ∧
        unit.semantics = (0, text "Normal")) := by decide +kernel
  have hsettings : (lidSettings sampleUnreadCorpus sampleUnreadConfig .pilot).isSome := by
    decide +kernel
  obtain ⟨dataset, hdataset, hunit⟩ := (Option.any_eq_true _ _).mp hunit
  obtain ⟨unit, hmem, hunit⟩ := List.any_eq_true.mp hunit
  obtain ⟨hgroup, hsemantics⟩ := of_decide_eq_true hunit
  obtain ⟨settings, hsettings⟩ := Option.isSome_iff_exists.mp hsettings
  refine ⟨dataset, settings, unit, hdataset, hsettings, hmem, by decide, _, rfl, ?_, ?_⟩
  · rw [hgroup]
    decide
  · rw [hsemantics]
    decide

end TruthFingerprint.OfflineTraining
