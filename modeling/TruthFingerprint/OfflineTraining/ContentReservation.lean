import Mathlib
import TruthFingerprint.OfflineTraining.LidDs2021

/-!
# Contents that the pilot reserves

The confirmatory run simulates the selection of the pilot in a loop of its own. The loops keep the
same books (`Mirrors`), so the contents that are reserved are those of the units of the pilot, and
none of them is selected again.
-/

namespace TruthFingerprint.OfflineTraining

open Python (Coercions Members Value)

variable {F : Type} [Coercions F]

/-! ## What one archive does -/

section Archive

variable {project : Text → Option (LidProjection F)} {reserved : Known} {isolation : Bool}
  {capPerRole pilotCap rankStart : Nat} {scenario archive : Text} {role : LidRole}
  {progress : Progress (LidSelection F)} {next : Progress (LidSelection F) × Bool}

theorem lidUnit_eq_some {projection : LidProjection F} {order : Nat} {unit : AcademicUnit F}
    (h : lidUnit archive scenario role projection order = some unit) :
    unit.unitId = text "lid-ds-2021:" ++ archive ∧ unit.sourcePath = archive ∧
      unit.groupId = projection.detectorInputSha256 ∧
      unit.detectorInputContentIdentity = projectionContentIdentity projection := by
  rw [lidUnit] at h
  by_cases hgroup : projection.detectorInputSha256 ≠ []
  · rw [dif_pos hgroup] at h
    obtain rfl := Option.some.inj h
    exact ⟨rfl, rfl, rfl, rfl⟩
  · rw [dif_neg hgroup] at h
    cases h

/-- An archive is passed over, or a unit of it is retained. -/
inductive Selects (project : Text → Option (LidProjection F)) (reserved : Known) (isolation : Bool)
    (capPerRole : Nat) (progress : Progress (LidSelection F)) (archive : Text) :
    Progress (LidSelection F) × Bool → Prop where
  | passed (valid : Nat) : Selects project reserved isolation capPerRole progress archive
      (⟨progress.state, progress.retainedForRole, valid⟩, false)
  | retained (projection : LidProjection F) (inputId : Text) (unit : AcademicUnit F)
      (semantics : Semantics) (valid : Nat)
      (hproject : project archive = some projection)
      (hinput : projectionContentIdentity projection = some inputId)
      (hpath : unit.sourcePath = archive)
      (hid : unit.unitId = text "lid-ds-2021:" ++ archive)
      (hgroup : unit.groupId = projection.detectorInputSha256)
      (hcontent : unit.detectorInputContentIdentity = some inputId)
      (hreserved : reserved.hasGroup unit.groupId = false ∧ reserved.hasInput inputId = false)
      (hfresh : isolation → unit.groupId ∉ progress.state.selectedGroupIds ∧
        inputId ∉ progress.state.selectedInputIds) :
      Selects project reserved isolation capPerRole progress archive
        (⟨progress.state.retain isolation unit inputId semantics, progress.retainedForRole + 1, valid⟩,
          capPerRole ≠ 0 && capPerRole ≤ progress.retainedForRole + 1)

theorem selects_of_selectArchive
    (h : selectArchive project reserved isolation capPerRole rankStart scenario role progress archive =
      some next) : Selects project reserved isolation capPerRole progress archive next := by
  simp only [selectArchive, Option.bind_eq_bind, Option.bind_eq_some_iff] at h
  obtain ⟨projection, hproject, h⟩ := h
  split at h
  · cases h
    exact .passed _
  split at h
  · cases h
    exact .passed _
  · simp only [Option.bind_eq_some_iff] at h
    obtain ⟨_, -, inputId, hinput, h⟩ := h
    split at h
    · obtain ⟨_, -, h⟩ := Option.bind_eq_some_iff.mp h
      cases h
      exact .passed _
    · rename_i hreserved
      have hreserved : reserved.hasGroup projection.detectorInputSha256 = false ∧
          reserved.hasInput inputId = false := by simpa using hreserved
      obtain ⟨_, -, h⟩ := Option.bind_eq_some_iff.mp h
      split at h
      · cases h
        exact .passed _
      · rename_i hfresh
        obtain ⟨unit, hunit, h⟩ := Option.bind_eq_some_iff.mp h
        cases h
        obtain ⟨hid, hpath, hgroup, hcontent⟩ := lidUnit_eq_some hunit
        refine .retained projection inputId unit _ _ hproject hinput hpath hid hgroup
          (hcontent.trans hinput) (hgroup ▸ hreserved) fun hisolation => ?_
        subst hisolation
        rw [hgroup]
        simpa using hfresh

end Archive

/-! ## The books of the selection -/

section Books

variable {reserved : Known}

/-- Where contents are isolated, the books have the contents of the units, each once and none that is
reserved. -/
structure Isolated (reserved : Known) (selection : LidSelection F) : Prop where
  groupIds : selection.units.map AcademicUnit.groupId = selection.selectedGroupIds
  inputIds : selection.units.map (fun unit => unit.detectorInputContentIdentity) =
    selection.selectedInputIds.map some
  knownGroups : selection.known.groups.map Prod.fst = selection.selectedGroupIds
  knownInputs : selection.known.inputs.map Prod.fst = selection.selectedInputIds
  nodup : selection.selectedGroupIds.Nodup
  groupsApart : ∀ id ∈ selection.selectedGroupIds, reserved.hasGroup id = false
  inputsApart : ∀ id ∈ selection.selectedInputIds, reserved.hasInput id = false

theorem isolated_start (reserved : Known) : Isolated reserved (LidSelection.start F) where
  groupIds := rfl
  inputIds := rfl
  knownGroups := rfl
  knownInputs := rfl
  nodup := List.nodup_nil
  groupsApart := by simp [LidSelection.start]
  inputsApart := by simp [LidSelection.start]

theorem Isolated.retain {selection : LidSelection F} (h : Isolated reserved selection)
    {unit : AcademicUnit F} {inputId : Text} {semantics : Semantics}
    (hcontent : unit.detectorInputContentIdentity = some inputId)
    (hgroup : reserved.hasGroup unit.groupId = false) (hinput : reserved.hasInput inputId = false)
    (hfresh : unit.groupId ∉ selection.selectedGroupIds) :
    Isolated reserved (selection.retain true unit inputId semantics) where
  groupIds := by simp [LidSelection.retain, h.groupIds]
  inputIds := by simp [LidSelection.retain, h.inputIds, hcontent]
  knownGroups := by simp [LidSelection.retain, Known.add, h.knownGroups]
  knownInputs := by simp [LidSelection.retain, Known.add, h.knownInputs]
  nodup := by
    refine List.nodup_append.mpr ⟨h.nodup, List.nodup_singleton _, fun a ha b hb => ?_⟩
    rw [List.mem_singleton.mp hb]
    exact fun heq => hfresh (heq ▸ ha)
  groupsApart := by
    intro id hid
    rcases List.mem_append.mp hid with hid | hid
    · exact h.groupsApart id hid
    · rwa [List.mem_singleton.mp hid]
  inputsApart := by
    intro id hid
    rcases List.mem_append.mp hid with hid | hid
    · exact h.inputsApart id hid
    · rwa [List.mem_singleton.mp hid]

theorem isolated_of_selects {project : Text → Option (LidProjection F)} {capPerRole : Nat}
    {progress : Progress (LidSelection F)} {archive : Text} {next : Progress (LidSelection F) × Bool}
    (h : Isolated reserved progress.state)
    (hselects : Selects project reserved true capPerRole progress archive next) :
    Isolated reserved next.1.state := by
  cases hselects with
  | passed => exact h
  | retained projection inputId unit semantics valid _ _ _ _ _ hcontent hreserved hfresh =>
    exact h.retain hcontent hreserved.1 hreserved.2 (hfresh rfl).1

variable {corpus : LidCorpus F} {config : Members F} {phase : Phase} {settings : LidSettings}

/-- An invariant of the archives is one of the selection. -/
theorem selection_invariant (good : LidSelection F → Prop) {selection selection' : LidSelection F}
    {strata : List (Text × LidRole)}
    (hstep : ∀ stratum ∈ strata, ∀ archives rankStart,
      rankedArchives corpus settings.seed stratum.1 stratum.2 = some archives →
      phaseRankStart config phase (lidStratum stratum.1 stratum.2)
        (some stratum.2.nativePartition) = some rankStart →
      ∀ selection progress, good selection →
        BreakLoop.run
          (selectArchive (corpus.project settings.sequenceLength settings.maxSequences settings.seed)
            reserved (contentIsolationRequired config) settings.cap rankStart stratum.1 stratum.2)
          ⟨selection, 0, 0⟩ archives = some progress → good progress.state)
    (hs : good selection)
    (h : strata.foldlM (selectRole corpus config phase settings reserved) selection =
      some selection') : good selection' := by
  refine BreakLoop.foldlM_invariant good (fun stratum hstratum selection next hgood hnext => ?_) hs h
  simp only [selectRole, Option.bind_eq_bind, Option.bind_eq_some_iff, Option.some.injEq] at hnext
  obtain ⟨archives, harchives, rankStart, hrankStart, progress, hprogress, _, -, rfl⟩ := hnext
  exact hstep stratum hstratum archives rankStart harchives hrankStart selection progress hgood hprogress

theorem isolated_of_select (hisolation : contentIsolationRequired config = true)
    {strata : List (Text × LidRole)} {selection : LidSelection F}
    (h : strata.foldlM (selectRole corpus config phase settings reserved) (.start F) =
      some selection) : Isolated reserved selection := by
  refine selection_invariant (Isolated reserved) (fun stratum _ archives rankStart _ _ selection
    progress hgood hrun => ?_) (isolated_start reserved) h
  rw [hisolation] at hrun
  exact BreakLoop.invariant (fun progress : Progress (LidSelection F) => Isolated reserved progress.state)
    (fun archive _ progress next hgood hnext => isolated_of_selects hgood (selects_of_selectArchive hnext))
    hgood hrun

end Books

/-! ## The two loops of the pilot -/

section Loops

/-- The loops keep the same books. -/
structure Mirrors (progress : Progress Known) (progress' : Progress (LidSelection F)) : Prop where
  known : progress.state = progress'.state.known
  groupIds : progress.state.groups.map Prod.fst = progress'.state.selectedGroupIds
  inputIds : progress.state.inputs.map Prod.fst = progress'.state.selectedInputIds
  retained : progress.retainedForRole = progress'.retainedForRole
  valid : progress.validBeforeSlice = progress'.validBeforeSlice

variable {project : Text → Option (LidProjection F)} {pilotCap rankStart : Nat}
  {scenario archive : Text} {role : LidRole}

theorem not_hasGroup_none (id : Text) : Known.none.hasGroup id = false := rfl

theorem not_hasInput_none (id : Text) : Known.none.hasInput id = false := rfl

theorem mirrors_of_archive (hcap : pilotCap ≠ 0) {progress : Progress Known}
    {progress' : Progress (LidSelection F)} {next : Progress Known × Bool}
    {next' : Progress (LidSelection F) × Bool} (hmirrors : Mirrors progress progress')
    (h : reserveArchive project pilotCap rankStart scenario role progress archive = some next)
    (h' : selectArchive project .none true pilotCap rankStart scenario role progress' archive =
      some next') : Mirrors next.1 next'.1 ∧ next.2 = next'.2 := by
  obtain ⟨hknown, hgroupIds, hinputIds, hretained, hvalid⟩ := hmirrors
  simp only [reserveArchive, Option.bind_eq_bind, Option.bind_eq_some_iff] at h
  simp only [selectArchive, Option.bind_eq_bind, Option.bind_eq_some_iff] at h'
  obtain ⟨projection, hproject, h⟩ := h
  obtain ⟨projection', hproject', h'⟩ := h'
  obtain rfl : projection = projection' := Option.some.inj (hproject.symm.trans hproject')
  by_cases hempty : projection.sampledSequences = []
  · rw [if_pos hempty] at h h'
    cases h
    cases h'
    exact ⟨⟨hknown, hgroupIds, hinputIds, hretained, hvalid⟩, rfl⟩
  rw [if_neg hempty] at h h'
  rw [← hvalid] at h'
  by_cases hbefore : progress.validBeforeSlice < rankStart
  · rw [if_pos hbefore] at h h'
    cases h
    cases h'
    exact ⟨⟨hknown, hgroupIds, hinputIds, hretained, rfl⟩, rfl⟩
  rw [if_neg hbefore] at h h'
  simp only [Option.bind_eq_some_iff] at h h'
  obtain ⟨_, -, inputId, hinput, _, -, h⟩ := h
  obtain ⟨_, -, inputId', hinput', h'⟩ := h'
  obtain rfl : inputId = inputId' := Option.some.inj (hinput.symm.trans hinput')
  simp only [not_hasGroup_none, not_hasInput_none, Bool.or_self, Bool.false_eq_true, ↓reduceIte,
    Bool.true_and, Option.bind_eq_some_iff] at h'
  obtain ⟨_, -, h'⟩ := h'
  have hseen : (progress.state.hasGroup projection.detectorInputSha256 ||
      progress.state.hasInput inputId) =
      (decide (projection.detectorInputSha256 ∈ progress'.state.selectedGroupIds) ||
        decide (inputId ∈ progress'.state.selectedInputIds)) := by
    rw [Known.hasGroup, Known.hasInput, hgroupIds, hinputIds]
  rw [hseen] at h
  split at h
  · rename_i hmem
    rw [if_pos hmem] at h'
    cases h
    cases h'
    exact ⟨⟨hknown, hgroupIds, hinputIds, hretained, rfl⟩, rfl⟩
  · rename_i hmem
    rw [if_neg hmem] at h'
    obtain ⟨unit, hunit, h'⟩ := Option.bind_eq_some_iff.mp h'
    obtain ⟨-, -, hgroup, -⟩ := lidUnit_eq_some hunit
    cases h
    cases h'
    refine ⟨⟨?_, ?_, ?_, ?_, rfl⟩, ?_⟩
    · simp [LidSelection.retain, hgroup, hknown]
    · simp [LidSelection.retain, Known.add, hgroup, hgroupIds]
    · simp [LidSelection.retain, Known.add, hinputIds]
    · rw [hretained]
    · simp [hretained, hcap]

end Loops

/-! ## The runs of the two phases -/

section Phases

variable {corpus : LidCorpus F} {config : Members F}

/-- What a loaded dataset is made of -/
structure LidLoaded (corpus : LidCorpus F) (config : Members F) (phase : Phase)
    (dataset : AcademicDataset F) where
  settings : LidSettings
  reserved : Known
  selection : LidSelection F
  hasSettings : lidSettings corpus config phase = some settings
  reserves : reservedPilotContentSemantics corpus config settings phase = some reserved
  selects : (lidStrata settings.scenarios).foldlM (selectRole corpus config phase settings reserved)
    (.start F) = some selection
  units : dataset.units = deduplicateContentUnits selection.units

theorem exists_lidLoaded {phase : Phase} {dataset : AcademicDataset F}
    (h : loadLidDs2021 corpus config phase = some dataset) :
    Nonempty (LidLoaded corpus config phase dataset) := by
  simp only [loadLidDs2021, Option.bind_eq_bind, Option.bind_eq_some_iff] at h
  obtain ⟨settings, hsettings, reserved, hreserved, selection, hselection, _, -, _, -, hdataset⟩ := h
  exact ⟨⟨settings, reserved, selection, hsettings, hreserved, hselection,
    units_of_officialDataset hdataset⟩⟩

/-- The settings of a phase are those of the other, but for the cap. -/
theorem settings_of_phase {phase : Phase} {settings : LidSettings}
    (h : lidSettings corpus config phase = some settings) :
    ∃ caps, phaseCaps config phase = some caps ∧
      cap caps (text "archives_per_scenario_partition") = some settings.cap ∧
      ∀ phase' settings', lidSettings corpus config phase' = some settings' →
        settings' = { settings with cap := settings'.cap } := by
  simp only [lidSettings, Option.bind_eq_bind, Option.bind_eq_some_iff, Option.some.injEq] at h
  obtain ⟨_, -, _, -, _, -, seed, hseed, caps, hcaps, n, hn, window, hwindow, sequenceLength,
    hsequenceLength, maxSequences, hmaxSequences, _, -, rfl⟩ := h
  refine ⟨caps, hcaps, hn, fun phase' settings' h' => ?_⟩
  simp only [lidSettings, Option.bind_eq_bind, Option.bind_eq_some_iff, Option.some.injEq] at h'
  obtain ⟨_, -, _, -, _, -, seed', hseed', _, -, _, -, window', hwindow', sequenceLength',
    hsequenceLength', maxSequences', hmaxSequences', _, -, rfl⟩ := h'
  obtain rfl := Option.some.inj (hseed.symm.trans hseed')
  obtain rfl := Option.some.inj (hwindow.symm.trans hwindow')
  obtain rfl := Option.some.inj (hsequenceLength.symm.trans hsequenceLength')
  obtain rfl := Option.some.inj (hmaxSequences.symm.trans hmaxSequences')
  rfl

/-- The books that the simulation of the pilot ends with are those of the pilot. -/
theorem reserved_eq {pilotCap : Nat} (hcap : pilotCap ≠ 0) {settings : LidSettings}
    (hisolation : contentIsolationRequired config = true) {known : Known} {selection : LidSelection F}
    (h : (lidStrata settings.scenarios).foldlM (reserveRole corpus config settings pilotCap) .none =
      some known)
    (h' : (lidStrata settings.scenarios).foldlM
      (selectRole corpus config .pilot { settings with cap := pilotCap } .none) (.start F) =
        some selection) :
    known = selection.known := by
  have hrelated := BreakLoop.foldlM_simulation
    (fun (known : Known) (selection : LidSelection F) => known = selection.known ∧
      known.groups.map Prod.fst = selection.selectedGroupIds ∧
      known.inputs.map Prod.fst = selection.selectedInputIds)
    (fun stratum _ known selection next next' hrelated hnext hnext' => ?_) ⟨rfl, rfl, rfl⟩ h h'
  · exact hrelated.1
  simp only [reserveRole, Option.bind_eq_bind, Option.bind_eq_some_iff, Option.some.injEq] at hnext
  simp only [selectRole, Option.bind_eq_bind, Option.bind_eq_some_iff, Option.some.injEq] at hnext'
  obtain ⟨archives, harchives, rankStart, hrankStart, progress, hprogress, _, -, rfl⟩ := hnext
  obtain ⟨archives', harchives', rankStart', hrankStart', progress', hprogress', _, -, rfl⟩ := hnext'
  obtain rfl := Option.some.inj (harchives.symm.trans harchives')
  obtain rfl := Option.some.inj (hrankStart.symm.trans hrankStart')
  rw [hisolation] at hprogress'
  have hmirrors : Mirrors progress progress' := by
    refine BreakLoop.simulation Mirrors ?_ ?_ hprogress hprogress'
    · intro archive _ progress progress' next next' hmirrors hnext hnext'
      exact mirrors_of_archive hcap hmirrors hnext hnext'
    · exact ⟨hrelated.1, hrelated.2.1, hrelated.2.2, rfl, rfl⟩
  exact ⟨hmirrors.known, hmirrors.groupIds, hmirrors.inputIds⟩

namespace LidLoaded

variable {phase : Phase} {dataset : AcademicDataset F}

theorem subset (loaded : LidLoaded corpus config phase dataset) {unit : AcademicUnit F}
    (h : unit ∈ dataset.units) : unit ∈ loaded.selection.units :=
  mem_of_mem_deduplicate (loaded.units ▸ h)

theorem isolated (loaded : LidLoaded corpus config phase dataset)
    (hisolation : contentIsolationRequired config = true) :
    Isolated loaded.reserved loaded.selection :=
  isolated_of_select hisolation loaded.selects

/-- Where contents are isolated, every unit that is selected is kept. -/
theorem perm_units (loaded : LidLoaded corpus config phase dataset)
    (hisolation : contentIsolationRequired config = true) :
    dataset.units.Perm loaded.selection.units := by
  have hbooks := loaded.isolated hisolation
  rw [loaded.units]
  exact perm_deduplicate (by rw [hbooks.groupIds]; exact hbooks.nodup)

end LidLoaded

/-- The contents that the confirmatory run reserves are those of the units of the pilot. -/
theorem reserved_groups_inputs {pilot confirmatory : AcademicDataset F}
    (hisolation : contentIsolationRequired config = true)
    (loadedPilot : LidLoaded corpus config .pilot pilot)
    (loadedConfirmatory : LidLoaded corpus config .confirmatory confirmatory)
    (hcap : loadedPilot.settings.cap ≠ 0) :
    loadedConfirmatory.reserved = loadedPilot.selection.known := by
  obtain ⟨caps, hcaps, hpilotCap, hsettings⟩ := settings_of_phase loadedPilot.hasSettings
  have heq := hsettings _ _ loadedConfirmatory.hasSettings
  have hreserves := loadedConfirmatory.reserves
  rw [reservedPilotContentSemantics, if_pos ⟨rfl, hisolation⟩] at hreserves
  simp only [hcaps, hpilotCap, Option.bind_eq_bind, Option.bind_some, if_neg hcap] at hreserves
  have hnone : loadedPilot.reserved = .none := by
    have h := loadedPilot.reserves
    rw [reservedPilotContentSemantics, if_neg (by simp)] at h
    exact (Option.some.inj h).symm
  have hselects := loadedPilot.selects
  rw [hnone] at hselects
  generalize loadedConfirmatory.settings = settings at heq hreserves
  obtain ⟨scenarios, seed, confirmatoryCap, sequenceLength, maxSequences⟩ := settings
  generalize loadedPilot.settings = settings' at heq hreserves hselects hcap
  obtain ⟨scenarios', seed', pilotCap, sequenceLength', maxSequences'⟩ := settings'
  simp only [LidSettings.mk.injEq, true_and] at heq
  obtain ⟨rfl, rfl, rfl, rfl⟩ := heq
  exact reserved_eq hcap hisolation hreserves hselects

/-- In a dataset of LID-DS that passes the audit, the cap of every phase is positive. -/
theorem LidLoaded.cap_pos {datasetKey : Text} {allocation : Members F} {phase : Phase}
    {dataset : AcademicDataset F} (loaded : LidLoaded corpus config phase dataset)
    (hpassed : Passed datasetKey config allocation) (hkind : kindOf config = text "lid-ds-2021") :
    loaded.settings.cap ≠ 0 := by
  have hrole : text "training" ∈ rolesOfKind (kindOf config) := by
    rw [hkind]
    decide
  obtain ⟨start, count, hallocated⟩ := hpassed.exists_allocated hrole
  have hname : (text "training", text "archives_per_scenario_partition") ∈ capNames (kindOf config) := by
    rw [hkind]
    decide
  obtain ⟨caps, hcaps, hcap⟩ := hallocated.cap_eq hname phase
  obtain ⟨caps', hcaps', hcap', -⟩ := settings_of_phase loaded.hasSettings
  obtain rfl := Option.some.inj (hcaps.symm.trans hcaps')
  rw [Option.some.inj (hcap'.symm.trans hcap)]
  exact (hallocated.pos phase).ne'

/-- No content of the pilot is selected again. -/
theorem groups_apart {pilot confirmatory : AcademicDataset F}
    (hisolation : contentIsolationRequired config = true)
    (loadedPilot : LidLoaded corpus config .pilot pilot)
    (loadedConfirmatory : LidLoaded corpus config .confirmatory confirmatory)
    (hcap : loadedPilot.settings.cap ≠ 0) {unit other : AcademicUnit F} (hunit : unit ∈ pilot.units)
    (hother : other ∈ confirmatory.units) : other.groupId ≠ unit.groupId := by
  intro heq
  have hreserved := reserved_groups_inputs hisolation loadedPilot loadedConfirmatory hcap
  have hpilotBooks := loadedPilot.isolated hisolation
  have hbooks := loadedConfirmatory.isolated hisolation
  have hselected : other.groupId ∈ loadedConfirmatory.selection.selectedGroupIds := by
    rw [← hbooks.groupIds]
    exact List.mem_map_of_mem (loadedConfirmatory.subset hother)
  have hapart := hbooks.groupsApart _ hselected
  have hmem : other.groupId ∈ loadedConfirmatory.reserved.groups.map Prod.fst := by
    rw [hreserved, hpilotBooks.knownGroups, ← hpilotBooks.groupIds, heq]
    exact List.mem_map_of_mem (loadedPilot.subset hunit)
  simp [Known.hasGroup, hmem] at hapart

/-- Content isolation across the phases: the confirmatory run reserves the contents of the units of
the pilot, and selects none of them. -/
theorem contents_isolated {datasetKey : Text} {audit : DatasetAudit}
    (haudit : auditDataset datasetKey config = some audit) (hpassed : audit.passed)
    (hkind : kindOf config = text "lid-ds-2021") (hmethod : contentIsolationRequired config = true)
    {pilot confirmatory : AcademicDataset F} (hpilot : loadLidDs2021 corpus config .pilot = some pilot)
    (hconfirmatory : loadLidDs2021 corpus config .confirmatory = some confirmatory) :
    ∃ settings reserved, lidSettings corpus config .confirmatory = some settings ∧
      reservedPilotContentSemantics corpus config settings .confirmatory = some reserved ∧
      (∀ id, id ∈ reserved.groups.map Prod.fst ↔ ∃ unit ∈ pilot.units, unit.groupId = id) ∧
      (∀ id, id ∈ reserved.inputs.map Prod.fst ↔
        ∃ unit ∈ pilot.units, unit.detectorInputContentIdentity = some id) ∧
      ∀ unit ∈ pilot.units, ∀ other ∈ confirmatory.units, other.groupId ≠ unit.groupId ∧
        other.detectorInputContentIdentity ≠ unit.detectorInputContentIdentity := by
  obtain ⟨allocation, hpassed⟩ := passed_of_auditDataset haudit hpassed
  obtain ⟨loadedPilot⟩ := exists_lidLoaded hpilot
  obtain ⟨loadedConfirmatory⟩ := exists_lidLoaded hconfirmatory
  have hreserved := reserved_groups_inputs hmethod loadedPilot loadedConfirmatory
    (loadedPilot.cap_pos hpassed hkind)
  have hpilotBooks := loadedPilot.isolated hmethod
  have hbooks := loadedConfirmatory.isolated hmethod
  have hperm := loadedPilot.perm_units hmethod
  have hgroups : ∀ id, id ∈ loadedConfirmatory.reserved.groups.map Prod.fst ↔
      ∃ unit ∈ pilot.units, unit.groupId = id := by
    intro id
    rw [hreserved, hpilotBooks.knownGroups, ← hpilotBooks.groupIds, List.mem_map]
    simp only [hperm.mem_iff]
  have hinputs : ∀ id, id ∈ loadedConfirmatory.reserved.inputs.map Prod.fst ↔
      ∃ unit ∈ pilot.units, unit.detectorInputContentIdentity = some id := by
    intro id
    have hmem : id ∈ loadedPilot.selection.selectedInputIds ↔
        some id ∈ loadedPilot.selection.selectedInputIds.map some := by simp
    rw [hreserved, hpilotBooks.knownInputs, hmem, ← hpilotBooks.inputIds, List.mem_map]
    simp only [hperm.mem_iff]
  refine ⟨loadedConfirmatory.settings, loadedConfirmatory.reserved, loadedConfirmatory.hasSettings,
    loadedConfirmatory.reserves, hgroups, hinputs, fun unit hunit other hother => ⟨?_, ?_⟩⟩
  · exact groups_apart hmethod loadedPilot loadedConfirmatory (loadedPilot.cap_pos hpassed hkind) hunit
      hother
  · intro heq
    have hidentity : other.detectorInputContentIdentity ∈
        loadedConfirmatory.selection.selectedInputIds.map some := by
      rw [← hbooks.inputIds]
      exact List.mem_map_of_mem (f := fun unit : AcademicUnit F => unit.detectorInputContentIdentity)
        (loadedConfirmatory.subset hother)
    obtain ⟨id, hid, hsome⟩ := List.mem_map.mp hidentity
    have hapart := hbooks.inputsApart id hid
    have hmem := (hinputs id).mpr ⟨unit, hunit, by rw [← heq, hsome]⟩
    simp [Known.hasInput, hmem] at hapart

/-- Three archives in each role, one of them a copy of the same recording -/
def sampleLidCorpus : LidCorpus ℚ where
  hasRoot := true
  directories := [text "CVE"]
  archives := fun _ _ => [text "a.zip", text "b.zip", text "copy.zip"]
  project := fun _ _ _ relative =>
    let copied := (text "copy.zip").isSuffixOf relative
    let content := if copied then text "copy" else relative
    some ⟨[(0, [[.name content]])], (text "CVE/test/normal_and").isPrefixOf relative && !copied,
      content, relative⟩
  directories_ok := by decide
  archives_nodup := fun _ _ => by decide

def sampleLidAllocation (start : Int) : Value ℚ :=
  .obj [(text "offsets", .obj (lidRoles.map fun role => (role, .num (.int start)))),
    (text "counts", .obj (lidRoles.map fun role => (role, .num (.int 1))))]

def sampleLidConfig : Members ℚ :=
  [(text "kind", .str (text "lid-ds-2021")), (text "partition_seed", .num (.int 7)),
    (text "phase_caps", .obj (phases.map fun phase =>
      (phase, .obj [(text "archives_per_scenario_partition", .num (.int 1))]))),
    (text "phase_allocation", .obj [(text "method", .str disjointContentPrioritySlicesV2),
      (text "pilot", sampleLidAllocation 0), (text "confirmatory", sampleLidAllocation 1)])]

theorem sample_contents_isolated :
    ∃ pilot confirmatory, loadLidDs2021 sampleLidCorpus sampleLidConfig .pilot = some pilot ∧
      loadLidDs2021 sampleLidCorpus sampleLidConfig .confirmatory = some confirmatory ∧
      ∀ unit ∈ pilot.units, ∀ other ∈ confirmatory.units, other.groupId ≠ unit.groupId := by
  have hsomeAudit : (auditDataset (text "lid-ds-2021") sampleLidConfig).any (·.passed) := by
    decide +kernel
  have hsomePilot : (loadLidDs2021 sampleLidCorpus sampleLidConfig .pilot).isSome := by
    decide +kernel
  have hsomeConfirmatory : (loadLidDs2021 sampleLidCorpus sampleLidConfig .confirmatory).isSome := by
    decide +kernel
  obtain ⟨audit, haudit, hpassed⟩ := (Option.any_eq_true _ _).mp hsomeAudit
  obtain ⟨pilot, hpilot⟩ := Option.isSome_iff_exists.mp hsomePilot
  obtain ⟨confirmatory, hconfirmatory⟩ := Option.isSome_iff_exists.mp hsomeConfirmatory
  obtain ⟨_, _, -, -, -, -, hapart⟩ := contents_isolated haudit hpassed (by decide) (by decide)
    hpilot hconfirmatory
  exact ⟨pilot, confirmatory, hpilot, hconfirmatory, fun unit hunit other hother =>
    (hapart unit hunit other hother).1⟩

end Phases

end TruthFingerprint.OfflineTraining
