import Mathlib
import TruthFingerprint.OfflineTraining.AdfaLd
import TruthFingerprint.OfflineTraining.ContentReservation

/-!
# Slices of ADFA-LD and of LID-DS

Both phases rank the same files: those of a stratum, and the archives of a scenario and role. In a
dataset that passes the audit each takes its own slice of the ranking, or, where the contents of
LID-DS are isolated, of what the other has left.
-/

namespace TruthFingerprint.OfflineTraining

open List (slice)
open Python (Coercions Members Value)

variable {F : Type} [Coercions F] {datasetKey : Text} {config allocation : Members F}

/-! ## Ranks -/

omit [Coercions F] in
theorem phaseRankStart_self (phase : Phase) (role : Text) :
    phaseRankStart config phase role none = phaseRankStart config phase role (some role) := by
  unfold phaseRankStart
  cases present config (text "phase_allocation") with
  | none => rfl
  | some allocation =>
    refine Option.bind_congr fun allocation _ => Option.bind_congr fun offsets _ => ?_
    cases hlookup : offsets.lookup role with
    | some raw => rfl
    | none => simp [hlookup]

/-- The ranks of all strata of a dataset -/
structure Slices (config : Members F) (start count : Text → Phase → Nat) : Prop where
  allocated : ∀ role ∈ rolesOfKind (kindOf config), Allocated config role (start role) (count role)

theorem Passed.exists_slices (h : Passed datasetKey config allocation) :
    ∃ start count, Slices config start count := by
  choose! start count hallocated using fun role (hrole : role ∈ _) => h.exists_allocated hrole
  exact ⟨start, count, ⟨hallocated⟩⟩

/-- The slices of a stratum that the phases take have no element in common. -/
theorem Slices.disjoint {start count : Text → Phase → Nat} (h : Slices config start count)
    {role : Text} (hrole : role ∈ rolesOfKind (kindOf config)) {α : Type} {files : List α}
    (hfiles : files.Nodup) :
    List.Disjoint (files.slice (start role .pilot) (count role .pilot))
      (files.slice (start role .confirmatory) (count role .confirmatory)) :=
  List.disjoint_slice hfiles (h.allocated role hrole).apart

/-! ## ADFA-LD -/

section Adfa

variable {start count : Text → Phase → Nat} {phase : Phase}

/-- A stratum: its role, the seed of its ranking and its files -/
structure Stratum where
  role : Text
  seed : Int
  files : List AdfaDescriptor

def AdfaStrata.parts (strata : AdfaStrata) (seed : Int) : List Stratum :=
  [⟨text "train", seed, strata.training⟩, ⟨text "validation", seed + 1, strata.validation⟩,
    ⟨text "test_normal", seed + 2, strata.testNormal⟩] ++
  strata.attacks.map fun family => ⟨text "attack_per_class", seed + 3, family.2⟩

theorem AdfaStrata.flatMap_parts (strata : AdfaStrata) (seed : Int) :
    (strata.parts seed).flatMap Stratum.files = strata.files := by
  simp [parts, files, List.flatMap_map]

/-- The slice of a stratum that a phase takes -/
def Stratum.selected (stratum : Stratum) (start count : Text → Phase → Nat) (phase : Phase) :
    List AdfaDescriptor :=
  (rankPaths AdfaDescriptor.path stratum.seed stratum.files).slice (start stratum.role phase)
    (count stratum.role phase)

theorem Slices.adfaSlice_eq (h : Slices config start count) (hkind : kindOf config = text "adfa-ld")
    {caps : Members F} (hcaps : phaseCaps config phase = some caps) {seed : Int}
    {role capName stratum : Text} {fallback : Option Text} {files selected : List AdfaDescriptor}
    (hcapName : (role, capName) ∈ adfaCapNames)
    (hstratum : stratum ∉ adfaRoles ∧ fallback = some role ∨ stratum = role ∧ fallback = none)
    (hselected : adfaSlice config caps phase seed capName stratum fallback files = some selected) :
    selected = Stratum.selected ⟨role, seed, files⟩ start count phase := by
  have hroles : rolesOfKind (kindOf config) = adfaRoles := by rw [hkind]; rfl
  have hnames : capNames (kindOf config) = adfaCapNames := by rw [hkind]; rfl
  have hrole : role ∈ rolesOfKind (kindOf config) := by
    rw [hroles]
    exact List.mem_map_of_mem (f := Prod.fst) hcapName
  have hallocated := h.allocated role hrole
  have hrankStart : phaseRankStart config phase stratum fallback = some (start role phase) := by
    rcases hstratum with ⟨hnot, rfl⟩ | ⟨rfl, rfl⟩
    · exact hallocated.rankStart phase stratum (.inl (hroles ▸ hnot))
    · rw [phaseRankStart_self]
      exact hallocated.rankStart phase stratum (.inr rfl)
  obtain ⟨caps', hcaps', hcap⟩ := hallocated.cap_eq (hnames ▸ hcapName) phase
  obtain rfl := Option.some.inj (hcaps.symm.trans hcaps')
  simp only [adfaSlice, hcap, hrankStart, Option.bind_eq_bind, Option.bind_some] at hselected
  exact stableCap_eq_slice (hallocated.pos phase).ne' hselected

theorem attackStratum_not_mem (family : Text) : text "attack_per_class:" ++ family ∉ adfaRoles := by
  simp [adfaRoles, text, Char.codePoint]

/-- What a phase selects is in the slice of a stratum. -/
theorem Slices.mem_selected (h : Slices config start count) (hkind : kindOf config = text "adfa-ld")
    {seed : Int} {strata : AdfaStrata} {selection : AdfaSelection}
    (hselection : adfaSelection config phase seed strata = some selection)
    {descriptor : AdfaDescriptor} (hmem : descriptor ∈ selection.files) :
    ∃ stratum ∈ strata.parts seed, descriptor ∈ stratum.selected start count phase := by
  simp only [adfaSelection, Option.bind_eq_bind, Option.bind_eq_some_iff, Option.some.injEq]
    at hselection
  obtain ⟨caps, hcaps, training, htraining, validation, hvalidation, testNormal, htestNormal, attacks,
    hattacks, rfl⟩ := hselection
  simp only [AdfaSelection.files, List.mem_append] at hmem
  rcases hmem with (hmem | hmem | hmem) | hmem
  · rw [h.adfaSlice_eq hkind hcaps (by decide) (.inr ⟨rfl, rfl⟩) htraining] at hmem
    exact ⟨_, by simp [AdfaStrata.parts], hmem⟩
  · rw [h.adfaSlice_eq hkind hcaps (by decide) (.inr ⟨rfl, rfl⟩) hvalidation] at hmem
    exact ⟨_, by simp [AdfaStrata.parts], hmem⟩
  · rw [h.adfaSlice_eq hkind hcaps (by decide) (.inr ⟨rfl, rfl⟩) htestNormal] at hmem
    exact ⟨_, by simp [AdfaStrata.parts], hmem⟩
  · obtain ⟨files, hfiles, hmem⟩ := List.mem_flatten.mp hmem
    obtain ⟨family, hfamily, hslice⟩ := List.exists_of_mem_mapM hattacks hfiles
    rw [h.adfaSlice_eq hkind hcaps (by decide)
      (.inl ⟨attackStratum_not_mem family.1, rfl⟩) hslice] at hmem
    exact ⟨_, List.mem_append_right _ (List.mem_map_of_mem hfamily), hmem⟩

theorem Stratum.mem_files {stratum : Stratum} {descriptor : AdfaDescriptor}
    (h : descriptor ∈ stratum.selected start count phase) : descriptor ∈ stratum.files :=
  (List.mem_ranked _).mp (List.mem_of_mem_slice h)

theorem role_of_mem_parts {strata : AdfaStrata} {seed : Int} {stratum : Stratum}
    (h : stratum ∈ strata.parts seed) : stratum.role ∈ adfaRoles := by
  simp only [AdfaStrata.parts, List.mem_append, List.mem_cons, List.not_mem_nil, or_false,
    List.mem_map] at h
  rcases h with (rfl | rfl | rfl) | ⟨family, -, rfl⟩ <;> simp [adfaRoles]

/-- No descriptor is selected in both phases. -/
theorem Slices.selections_disjoint (h : Slices config start count)
    (hkind : kindOf config = text "adfa-ld") {seed : Int} {strata : AdfaStrata}
    (hstrata : strata.files.Nodup) {pilot confirmatory : AdfaSelection}
    (hpilot : adfaSelection config .pilot seed strata = some pilot)
    (hconfirmatory : adfaSelection config .confirmatory seed strata = some confirmatory) :
    List.Disjoint pilot.files confirmatory.files := by
  apply List.disjoint_left.mpr
  intro descriptor hmem hmem'
  obtain ⟨stratum, hstratum, hselected⟩ := h.mem_selected hkind hpilot hmem
  obtain ⟨stratum', hstratum', hselected'⟩ := h.mem_selected hkind hconfirmatory hmem'
  rw [← strata.flatMap_parts seed, List.nodup_flatMap] at hstrata
  obtain ⟨hnodup, hapart⟩ := hstrata
  -- The strata have no file in common, so it is one stratum that has the descriptor.
  obtain rfl : stratum = stratum' := by
    by_contra hne
    have : Std.Symm (Function.onFun List.Disjoint Stratum.files) := ⟨fun _ _ h => h.symm⟩
    exact hapart.forall hstratum hstratum' hne (Stratum.mem_files hselected)
      (Stratum.mem_files hselected')
  have hrole : stratum.role ∈ rolesOfKind (kindOf config) := by
    rw [hkind]
    exact role_of_mem_parts hstratum
  exact h.disjoint hrole (List.nodup_ranked _ (hnodup stratum hstratum)) hselected hselected'

theorem identity_of_describe {corpus : AdfaCorpus} {directory : AdfaDirectory} {className path : Text}
    {label : Fin 2} {descriptor : AdfaDescriptor}
    (h : describe F corpus directory className label path = some descriptor) :
    ∃ integers, parseAdfaTrace (corpus.contents descriptor.path) = some integers ∧
      adfaDetectorIdentity F integers = some descriptor.identity := by
  simp only [describe, Option.bind_eq_bind, Option.bind_eq_some_iff, Option.some.injEq] at h
  obtain ⟨integers, hintegers, identity, hidentity, rfl⟩ := h
  exact ⟨integers, hintegers, hidentity⟩

/-- The identity of a file is that of the calls that it lists. -/
theorem identity_of_mem {corpus : AdfaCorpus} {descriptors : List AdfaDescriptor}
    (h : adfaDescriptors F corpus = some descriptors) {descriptor : AdfaDescriptor}
    (hmem : descriptor ∈ descriptors) :
    ∃ integers, parseAdfaTrace (corpus.contents descriptor.path) = some integers ∧
      adfaDetectorIdentity F integers = some descriptor.identity := by
  simp only [adfaDescriptors, Option.bind_eq_bind, Option.bind_eq_some_iff, Option.some.injEq] at h
  obtain ⟨training, htraining, validation, hvalidation, attack, hattack, rfl⟩ := h
  rcases List.mem_append.mp hmem with hmem | hmem
  · rcases List.mem_append.mp hmem with hmem | hmem
    · obtain ⟨_, -, hdescribe⟩ := List.exists_of_mem_mapM htraining hmem
      exact identity_of_describe hdescribe
    · obtain ⟨_, -, hdescribe⟩ := List.exists_of_mem_mapM hvalidation hmem
      exact identity_of_describe hdescribe
  · obtain ⟨_, -, hdescribe⟩ := List.exists_of_mem_mapM hattack hmem
    exact identity_of_describe hdescribe

omit [Coercions F] in
theorem callRows_injective :
    Function.Injective fun integers : List Text =>
      integers.map fun token => ([.name token] : Row F) := by
  apply List.map_injective_iff.mpr
  intro token token' h
  simpa using h

variable {corpus : AdfaCorpus} {pilot confirmatory : AcademicDataset F}

/-- The phases read the same files. -/
theorem AdfaLoaded.settings_eq (loaded : AdfaLoaded corpus config .pilot pilot)
    (loaded' : AdfaLoaded corpus config .confirmatory confirmatory) :
    loaded.settings = loaded'.settings ∧ loaded.descriptors = loaded'.descriptors :=
  ⟨Option.some.inj (loaded.hasSettings.symm.trans loaded'.hasSettings),
    Option.some.inj (loaded.described.symm.trans loaded'.described)⟩

/-- No sequence of calls is selected in both phases. -/
theorem Slices.adfa_values_ne (h : Slices config start count)
    (hkind : kindOf config = text "adfa-ld") (loaded : AdfaLoaded corpus config .pilot pilot)
    (loaded' : AdfaLoaded corpus config .confirmatory confirmatory) {unit other : AcademicUnit F}
    (hunit : unit ∈ pilot.units) (hother : other ∈ confirmatory.units) :
    other.values ≠ unit.values := by
  intro hvalues
  obtain ⟨hsettings, hdescriptors⟩ := loaded.settings_eq loaded'
  obtain ⟨own, hown, -, -, -, integers, hintegers, hunitValues⟩ := loaded.exists_descriptor hunit
  obtain ⟨own', hown', -, -, -, integers', hintegers', hotherValues⟩ :=
    loaded'.exists_descriptor hother
  have hselected' := loaded'.selected
  rw [← hsettings, ← hdescriptors] at hselected'
  have hnodup : loaded.candidates.Nodup := loaded.nodup_identities.of_map _
  have hdisjoint := h.selections_disjoint hkind hnodup loaded.selected hselected'
  -- The calls are the same, so the files have one identity, which has one candidate.
  obtain rfl : integers' = integers := by
    rw [hunitValues, hotherValues] at hvalues
    exact callRows_injective hvalues
  have hmem : own' ∈ loaded.candidates := (subperm_files_adfaSelection hselected').subset hown'
  obtain ⟨read, hread, hidentity⟩ := identity_of_mem loaded.described
    (List.mem_of_mem_representatives _ _ _ (loaded.mem_canonical hown))
  obtain ⟨read', hread', hidentity'⟩ := identity_of_mem loaded'.described
    (List.mem_of_mem_representatives _ _ _ (loaded'.mem_canonical hown'))
  obtain rfl := Option.some.inj (hread.symm.trans hintegers)
  obtain rfl := Option.some.inj (hread'.symm.trans hintegers')
  have hsame : own'.identity = own.identity := Option.some.inj (hidentity'.symm.trans hidentity)
  obtain rfl := List.inj_on_of_nodup_map loaded.nodup_identities hmem (loaded.subperm_files.subset hown)
    hsame
  exact hdisjoint hown hown'

/-- No file is selected in both phases. -/
theorem Slices.adfa_unitId_ne (h : Slices config start count)
    (hkind : kindOf config = text "adfa-ld") (loaded : AdfaLoaded corpus config .pilot pilot)
    (loaded' : AdfaLoaded corpus config .confirmatory confirmatory) {unit other : AcademicUnit F}
    (hunit : unit ∈ pilot.units) (hother : other ∈ confirmatory.units) :
    other.unitId ≠ unit.unitId := by
  intro hid
  obtain ⟨own, -, hownId, -, -, integers, hintegers, hvalues⟩ := loaded.exists_descriptor hunit
  obtain ⟨own', -, hownId', -, -, integers', hintegers', hvalues'⟩ := loaded'.exists_descriptor hother
  have hpath : own'.path = own.path := by
    rw [hownId, hownId'] at hid
    exact List.append_cancel_left hid
  rw [hpath, hintegers] at hintegers'
  obtain rfl := Option.some.inj hintegers'
  exact h.adfa_values_ne hkind loaded loaded' hunit hother (hvalues'.trans hvalues.symm)

end Adfa

/-! ## LID-DS -/

section Lid

variable {corpus : LidCorpus F} {settings : LidSettings} {scenario : Text} {role : LidRole}
  {project : Text → Option (LidProjection F)} {rankStart capPerRole : Nat}

/-- A recording is valid if it has a sequence. -/
def isValid (project : Text → Option (LidProjection F)) (archive : Text) : Bool :=
  (project archive).any fun projection => projection.sampledSequences ≠ []

theorem selectArchive_of_not_valid {progress : Progress (LidSelection F)} {archive : Text}
    {next : Progress (LidSelection F) × Bool} (hvalid : isValid project archive = false)
    (h : selectArchive project .none false capPerRole rankStart scenario role progress archive =
      some next) : next = (progress, false) := by
  simp only [selectArchive, Option.bind_eq_bind, Option.bind_eq_some_iff] at h
  obtain ⟨projection, hproject, h⟩ := h
  have hempty : projection.sampledSequences = [] := by simpa [isValid, hproject] using hvalid
  rw [if_pos hempty] at h
  exact (Option.some.inj h).symm

theorem selectArchive_of_before {progress : Progress (LidSelection F)} {archive : Text}
    {next : Progress (LidSelection F) × Bool} (hvalid : isValid project archive)
    (hbefore : progress.validBeforeSlice < rankStart)
    (h : selectArchive project .none false capPerRole rankStart scenario role progress archive =
      some next) :
    next = ({ progress with validBeforeSlice := progress.validBeforeSlice + 1 }, false) := by
  simp only [selectArchive, Option.bind_eq_bind, Option.bind_eq_some_iff] at h
  obtain ⟨projection, hproject, h⟩ := h
  have hsequences : projection.sampledSequences ≠ [] := by simpa [isValid, hproject] using hvalid
  rw [if_neg hsequences, if_pos hbefore] at h
  exact (Option.some.inj h).symm

theorem selectArchive_of_slice {progress : Progress (LidSelection F)} {archive : Text}
    {next : Progress (LidSelection F) × Bool} (hvalid : isValid project archive)
    (hbefore : ¬progress.validBeforeSlice < rankStart)
    (h : selectArchive project .none false capPerRole rankStart scenario role progress archive =
      some next) :
    ∃ unit, unit.sourcePath = archive ∧
      next.1.state.units = progress.state.units ++ [unit] ∧
      next.1.retainedForRole = progress.retainedForRole + 1 ∧
      next.1.validBeforeSlice = progress.validBeforeSlice + 1 ∧
      next.2 = (capPerRole ≠ 0 && capPerRole ≤ progress.retainedForRole + 1) := by
  simp only [selectArchive, Option.bind_eq_bind, Option.bind_eq_some_iff] at h
  obtain ⟨projection, hproject, h⟩ := h
  have hsequences : projection.sampledSequences ≠ [] := by simpa [isValid, hproject] using hvalid
  rw [if_neg hsequences, if_neg hbefore] at h
  simp only [not_hasGroup_none, not_hasInput_none, Bool.or_self, Bool.false_and, Bool.false_eq_true,
    if_false, Option.bind_eq_some_iff] at h
  obtain ⟨_, -, inputId, hinput, _, -, unit, hunit, h⟩ := h
  obtain ⟨-, hpath, -⟩ := lidUnit_eq_some hunit
  cases h
  exact ⟨unit, hpath, rfl, rfl, rfl, rfl⟩

/-- The loop over the archives retains the slice of the valid ones. -/
theorem sourcePaths_of_run {archives : List Text} (hcap : capPerRole ≠ 0)
    {progress result : Progress (LidSelection F)}
    (hbelow : progress.retainedForRole < capPerRole)
    (hretained : progress.retainedForRole = progress.validBeforeSlice - rankStart)
    (h : BreakLoop.run (selectArchive project .none false capPerRole rankStart scenario role) progress
      archives = some result) :
    result.state.units.map AcademicUnit.sourcePath =
      progress.state.units.map AcademicUnit.sourcePath ++
        (archives.filter (isValid project)).slice (rankStart - progress.validBeforeSlice)
          (capPerRole - progress.retainedForRole) := by
  induction archives generalizing progress with
  | nil =>
    cases h
    simp [slice]
  | cons archive archives ih =>
    obtain ⟨next, hnext, h⟩ := Option.bind_eq_some_iff.mp h
    cases hvalid : isValid project archive with
    | false =>
      obtain rfl := selectArchive_of_not_valid hvalid hnext
      rw [List.filter_cons_of_neg (by simp [hvalid])]
      exact ih hbelow hretained h
    | true =>
      rw [List.filter_cons_of_pos hvalid]
      by_cases hbefore : progress.validBeforeSlice < rankStart
      · obtain rfl := selectArchive_of_before hvalid hbefore hnext
        have hstart : rankStart - progress.validBeforeSlice =
            rankStart - (progress.validBeforeSlice + 1) + 1 := by omega
        have hretained : progress.retainedForRole = progress.validBeforeSlice + 1 - rankStart := by
          omega
        rw [hstart]
        exact @ih { progress with validBeforeSlice := progress.validBeforeSlice + 1 } hbelow hretained h
      · obtain ⟨unit, hpath, hunits, hcount, hvalidCount, hbreak⟩ :=
          selectArchive_of_slice hvalid hbefore hnext
        have hzero : rankStart - progress.validBeforeSlice = 0 := by omega
        have hmore : capPerRole - progress.retainedForRole =
            capPerRole - (progress.retainedForRole + 1) + 1 := by omega
        have hslice : (archive :: archives.filter (isValid project)).slice 0
            (capPerRole - (progress.retainedForRole + 1) + 1) =
            archive :: (archives.filter (isValid project)).slice 0
              (capPerRole - (progress.retainedForRole + 1)) := rfl
        rw [hzero, hmore, hslice]
        split_ifs at h with hstop
        · -- The cap is reached, so the slice ends here.
          cases h
          have hlast : capPerRole - (progress.retainedForRole + 1) = 0 := by
            have := hbreak.symm.trans hstop
            simp only [ne_eq, hcap, not_false_eq_true, decide_true, Bool.true_and,
              decide_eq_true_eq] at this
            omega
          simp [hunits, hpath, hlast, slice]
        · have hroom : progress.retainedForRole + 1 < capPerRole := by
            rw [hbreak] at hstop
            simpa [hcap] using hstop
          have hrest : rankStart - next.1.validBeforeSlice = 0 := by omega
          rw [ih (by omega) (by omega) h, hunits, hrest, hcount, List.map_append, List.map_singleton,
            hpath, List.append_assoc, List.singleton_append]

/-! ### Paths -/

theorem archivePath_injective (scenario : Text) (role : LidRole) :
    Function.Injective (archivePath scenario role) := by
  intro name name' h
  have h := List.append_cancel_left h
  exact (List.cons.inj (List.append_cancel_left (List.cons.inj h).2)).2

omit [Coercions F] in
/-- What is before and after the first separator -/
theorem append_separator_inj {c : CodePoint} {t t' rest rest' : Text} (h : c ∉ t) (h' : c ∉ t')
    (heq : t ++ c :: rest = t' ++ c :: rest') : t = t' ∧ rest = rest' := by
  induction t generalizing t' with
  | nil =>
    cases t' with
    | nil => exact ⟨rfl, (List.cons.inj heq).2⟩
    | cons d t' =>
      obtain ⟨rfl, -⟩ := List.cons.inj heq
      exact absurd List.mem_cons_self h'
  | cons d t ih =>
    cases t' with
    | nil =>
      obtain ⟨rfl, -⟩ := List.cons.inj heq
      exact absurd List.mem_cons_self h
    | cons d' t' =>
      obtain ⟨rfl, htail⟩ := List.cons.inj heq
      obtain ⟨rfl, hrest⟩ := ih (fun hmem => h (List.mem_cons_of_mem _ hmem))
        (fun hmem => h' (List.mem_cons_of_mem _ hmem)) htail
      exact ⟨rfl, hrest⟩

theorem relative_append_inj {role role' : LidRole} {rest rest' : Text}
    (h : role.relative ++ '/'.codePoint :: rest = role'.relative ++ '/'.codePoint :: rest') :
    role = role' := by
  cases role <;> cases role' <;> first | rfl | (simp [LidRole.relative, text, Char.codePoint] at h)

/-- A path below a scenario tells the scenario and the role. -/
theorem stratum_of_archivePath {scenario' name name' : Text} {role' : LidRole}
    (hscenario : '/'.codePoint ∉ scenario) (hscenario' : '/'.codePoint ∉ scenario')
    (h : archivePath scenario role name = archivePath scenario' role' name') :
    scenario = scenario' ∧ role = role' := by
  obtain ⟨heq, hrest⟩ := append_separator_inj hscenario hscenario' h
  exact ⟨heq, relative_append_inj hrest⟩

omit [Coercions F] in
theorem perm_rankedArchives {seed : Int} {archives : List Text}
    (h : rankedArchives corpus seed scenario role = some archives) :
    archives.Perm ((corpus.archives scenario role).map (archivePath scenario role)) := by
  simp only [rankedArchives, Option.bind_eq_bind, Option.bind_eq_some_iff] at h
  obtain ⟨_, -, h⟩ := h
  exact (perm_of_stableCap_zero h).trans (List.perm_insertionSort _ _)

omit [Coercions F] in
theorem nodup_rankedArchives {seed : Int} {archives : List Text}
    (h : rankedArchives corpus seed scenario role = some archives) : archives.Nodup :=
  (perm_rankedArchives h).nodup_iff.mpr
    ((corpus.archives_nodup scenario role).map (archivePath_injective scenario role))

/-! ### The units of a phase -/

/-- A unit of the archive at its path -/
structure LidUnitOf (project : Text → Option (LidProjection F)) (unit : AcademicUnit F) : Prop where
  unitId : unit.unitId = text "lid-ds-2021:" ++ unit.sourcePath
  content : ∃ projection, project unit.sourcePath = some projection ∧
    unit.groupId = projection.detectorInputSha256

def LidSettings.projection (settings : LidSettings) (corpus : LidCorpus F) :
    Text → Option (LidProjection F) :=
  corpus.project settings.sequenceLength settings.maxSequences settings.seed

variable {phase : Phase} {dataset : AcademicDataset F}

omit [Coercions F] in
theorem units_retain {selection : LidSelection F} {isolation : Bool} {unit : AcademicUnit F}
    {inputId : Text} {semantics : Semantics} :
    (selection.retain isolation unit inputId semantics).units = selection.units ++ [unit] := by
  cases isolation <;> rfl

theorem LidLoaded.unitOf (loaded : LidLoaded corpus config phase dataset) {unit : AcademicUnit F}
    (h : unit ∈ dataset.units) : LidUnitOf (loaded.settings.projection corpus) unit := by
  have hall : ∀ unit ∈ loaded.selection.units, LidUnitOf (loaded.settings.projection corpus) unit := by
    refine selection_invariant
      (fun selection => ∀ unit ∈ selection.units, LidUnitOf (loaded.settings.projection corpus) unit)
      (fun stratum _ archives rankStart _ _ selection progress hgood hrun => ?_)
      (by simp [LidSelection.start]) loaded.selects
    refine BreakLoop.invariant (fun progress : Progress (LidSelection F) =>
        ∀ unit ∈ progress.state.units, LidUnitOf (loaded.settings.projection corpus) unit)
      (fun archive _ progress next hgood hnext => ?_) hgood hrun
    have hselects := selects_of_selectArchive hnext
    cases hselects with
    | passed => exact hgood
    | retained projection inputId unit semantics valid hproject _ hpath hid hgroup =>
      intro other hother
      rw [units_retain] at hother
      rcases List.mem_append.mp hother with hother | hother
      · exact hgood other hother
      · obtain rfl := List.mem_singleton.mp hother
        exact ⟨by rw [hid, hpath], projection, by rw [hpath]; exact hproject, hgroup⟩
  exact hall unit (loaded.subset h)

/-- The archives of a stratum that a phase takes where contents are not isolated -/
structure TakenFrom (corpus : LidCorpus F) (settings : LidSettings) (start : Text → Phase → Nat)
    (phase : Phase) (stratum : Text × LidRole) (path : Text) : Prop where
  mem : stratum ∈ lidStrata settings.scenarios
  taken : ∃ archives, rankedArchives corpus settings.seed stratum.1 stratum.2 = some archives ∧
    path ∈ (archives.filter (isValid (settings.projection corpus))).slice
      (start stratum.2.nativePartition phase) settings.cap

theorem lidStratum_not_mem (scenario : Text) (role : LidRole) :
    lidStratum scenario role ∉ lidRoles := by
  have hcolon : ':'.codePoint ∈ lidStratum scenario role := by simp [lidStratum]
  intro hmem
  have hfree : ∀ name ∈ lidRoles, ':'.codePoint ∉ name := by decide
  exact hfree _ hmem hcolon

theorem nativePartition_mem (role : LidRole) : role.nativePartition ∈ lidRoles := by
  cases role <;> decide

variable {start count : Text → Phase → Nat}

theorem Slices.lid_rankStart (h : Slices config start count)
    (hkind : kindOf config = text "lid-ds-2021") (phase : Phase) (scenario : Text) (role : LidRole) :
    phaseRankStart config phase (lidStratum scenario role) (some role.nativePartition) =
      some (start role.nativePartition phase) := by
  have hroles : rolesOfKind (kindOf config) = lidRoles := by rw [hkind]; rfl
  have hrole : role.nativePartition ∈ rolesOfKind (kindOf config) := hroles ▸ nativePartition_mem role
  exact (h.allocated _ hrole).rankStart phase _ (.inl (hroles ▸ lidStratum_not_mem scenario role))

theorem Slices.lid_cap (h : Slices config start count) (hkind : kindOf config = text "lid-ds-2021")
    (loaded : LidLoaded corpus config phase dataset) (role : LidRole) :
    loaded.settings.cap = count role.nativePartition phase := by
  have hroles : rolesOfKind (kindOf config) = lidRoles := by rw [hkind]; rfl
  have hnames : capNames (kindOf config) = lidCapNames := by rw [hkind]; rfl
  have hrole : role.nativePartition ∈ rolesOfKind (kindOf config) := hroles ▸ nativePartition_mem role
  have hcapName : (role.nativePartition, text "archives_per_scenario_partition") ∈
      capNames (kindOf config) := hnames ▸ List.mem_map_of_mem (nativePartition_mem role)
  obtain ⟨caps, hcaps, hcap⟩ := (h.allocated _ hrole).cap_eq hcapName phase
  obtain ⟨caps', hcaps', hcap', -⟩ := settings_of_phase loaded.hasSettings
  obtain rfl := Option.some.inj (hcaps.symm.trans hcaps')
  exact Option.some.inj (hcap'.symm.trans hcap)

theorem reserved_eq_none (hisolation : contentIsolationRequired config = false)
    (loaded : LidLoaded corpus config phase dataset) : loaded.reserved = .none := by
  have h := loaded.reserves
  rw [reservedPilotContentSemantics, if_neg (by simp [hisolation])] at h
  exact (Option.some.inj h).symm

/-- Where contents are not isolated, every unit is of the slice of its scenario and role. -/
theorem Slices.takenFrom (h : Slices config start count) (hkind : kindOf config = text "lid-ds-2021")
    (hisolation : contentIsolationRequired config = false)
    (loaded : LidLoaded corpus config phase dataset) (hcap : loaded.settings.cap ≠ 0)
    {unit : AcademicUnit F} (hunit : unit ∈ dataset.units) :
    ∃ stratum, TakenFrom corpus loaded.settings start phase stratum unit.sourcePath := by
  have hall : ∀ path ∈ loaded.selection.units.map AcademicUnit.sourcePath,
      ∃ stratum, TakenFrom corpus loaded.settings start phase stratum path := by
    refine selection_invariant (fun selection => ∀ path ∈ selection.units.map AcademicUnit.sourcePath,
        ∃ stratum, TakenFrom corpus loaded.settings start phase stratum path)
      (fun stratum hstratum archives rankStart harchives hrankStart selection progress hgood hrun => ?_)
      (by simp [LidSelection.start]) loaded.selects
    rw [hisolation, reserved_eq_none hisolation loaded] at hrun
    obtain rfl := Option.some.inj (hrankStart.symm.trans
      (h.lid_rankStart hkind phase stratum.1 stratum.2))
    rw [sourcePaths_of_run hcap (Nat.pos_of_ne_zero hcap) (Nat.zero_sub _).symm hrun]
    intro path hpath
    rcases List.mem_append.mp hpath with hpath | hpath
    · exact hgood path hpath
    · exact ⟨stratum, hstratum, archives, harchives, hpath⟩
  exact hall _ (List.mem_map_of_mem (loaded.subset hunit))

theorem LidLoaded.scenario_free (loaded : LidLoaded corpus config phase dataset)
    {stratum : Text × LidRole} (h : stratum ∈ lidStrata loaded.settings.scenarios) :
    '/'.codePoint ∉ stratum.1 := by
  have hsettings := loaded.hasSettings
  simp only [lidSettings, Option.bind_eq_bind, Option.bind_eq_some_iff, Option.guard_eq_some']
    at hsettings
  obtain ⟨_, -, _, hscenarios, _, -, _, -, _, -, _, -, _, -, _, -, _, -, _, -, hsome⟩ := hsettings
  obtain ⟨scenario, hscenario, hrole⟩ := List.mem_flatMap.mp h
  obtain ⟨role, -, rfl⟩ := List.mem_map.mp hrole
  rw [← Option.some.inj hsome] at hscenario
  exact corpus.directories_ok _ (hscenarios scenario hscenario).1

variable {pilot confirmatory : AcademicDataset F}

/-- No archive is selected in both phases. -/
theorem Slices.lid_unitId_ne (h : Slices config start count)
    (hpassed : Passed datasetKey config allocation) (hkind : kindOf config = text "lid-ds-2021")
    (loaded : LidLoaded corpus config .pilot pilot)
    (loaded' : LidLoaded corpus config .confirmatory confirmatory) {unit other : AcademicUnit F}
    (hunit : unit ∈ pilot.units) (hother : other ∈ confirmatory.units) :
    other.unitId ≠ unit.unitId := by
  intro hid
  obtain ⟨-, -, -, hsettings⟩ := settings_of_phase loaded.hasSettings
  have hsettings := hsettings _ _ loaded'.hasSettings
  have hown := loaded.unitOf hunit
  have hown' := loaded'.unitOf hother
  have hpath : other.sourcePath = unit.sourcePath := by
    rw [hown.unitId, hown'.unitId] at hid
    exact List.append_cancel_left hid
  have hproject : loaded'.settings.projection corpus = loaded.settings.projection corpus := by
    rw [hsettings]
    rfl
  cases hisolation : contentIsolationRequired config with
  | true =>
    -- One archive has one content, which the confirmatory run does not select again.
    obtain ⟨projection, hprojection, hgroup⟩ := hown.content
    obtain ⟨projection', hprojection', hgroup'⟩ := hown'.content
    rw [hproject, hpath, hprojection] at hprojection'
    obtain rfl := Option.some.inj hprojection'
    exact groups_apart hisolation loaded loaded' (loaded.cap_pos hpassed hkind) hunit hother
      (hgroup'.trans hgroup.symm)
  | false =>
    obtain ⟨stratum, hmem, archives, harchives, htaken⟩ :=
      h.takenFrom hkind hisolation loaded (loaded.cap_pos hpassed hkind) hunit
    obtain ⟨stratum', hmem', archives', harchives', htaken'⟩ :=
      h.takenFrom hkind hisolation loaded' (loaded'.cap_pos hpassed hkind) hother
    rw [hpath] at htaken'
    have hranked := (perm_rankedArchives harchives).subset
      (List.mem_of_mem_filter (List.mem_of_mem_slice htaken))
    have hranked' := (perm_rankedArchives harchives').subset
      (List.mem_of_mem_filter (List.mem_of_mem_slice htaken'))
    obtain ⟨name, -, hname⟩ := List.mem_map.mp hranked
    obtain ⟨name', -, hname'⟩ := List.mem_map.mp hranked'
    obtain ⟨hscenario, hrole⟩ := stratum_of_archivePath (loaded.scenario_free hmem)
      (loaded'.scenario_free hmem') (hname.trans hname'.symm)
    obtain rfl : stratum = stratum' := Prod.ext hscenario hrole
    have hseed : loaded'.settings.seed = loaded.settings.seed := by rw [hsettings]
    rw [hseed, harchives] at harchives'
    obtain rfl := Option.some.inj harchives'
    rw [hproject, h.lid_cap hkind loaded' stratum.2] at htaken'
    rw [h.lid_cap hkind loaded stratum.2] at htaken
    have hvalid : stratum.2.nativePartition ∈ rolesOfKind (kindOf config) := by
      rw [hkind]
      exact nativePartition_mem stratum.2
    exact h.disjoint hvalid ((nodup_rankedArchives harchives).filter _) htaken htaken'

end Lid

end TruthFingerprint.OfflineTraining
