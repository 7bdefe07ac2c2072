import Mathlib
import TruthFingerprint.Lib.SlidingWindows
import TruthFingerprint.Python.Json
import TruthFingerprint.Evidence.BlindScores

/-!
# Windows over physical observations

Observations are sorted by run, sequence and identity, and cut into windows of one length at
offsets that are a stride apart. Every window shows consecutive observations of one run without a
gap (`Shows`). Its identity names its run, its first and its last sequence number, which tells
windows of two or more observations apart; observations that repeat a run and a sequence number
can start two windows of one observation with one identity (`windows_sound_and_named_iff`).
-/

namespace TruthFingerprint.Evidence

open SlidingWindows

/-- Public observation metadata only. -/
structure PhysicalObservation where
  observationId : Text
  runId : Text
  experimentId : Text
  phaseId : Text
  scenarioId : Text
  profileId : Text
  schemaId : Text
  partitionId : Text
  sequence : ℤ
  valid : Bool
  gapBefore : Bool
  qualityId : Text
deriving DecidableEq

structure WindowParameters where
  parameterEvidenceId : Text
  windowLength : ℤ
  stride : ℤ
  padding : Text
  exclusionPolicyId : Text

deriving instance DecidableEq for PhysicalWindow

/-- What is returned instead of windows, or that an exception is raised. -/
inductive WindowRefusal where
  | validation (v : Validation)
  | raised

/-- The part of a window's identity that its sequence numbers are -/
def sequenceSpan (first last : ℤ) : Text :=
  Python.intText first ++ ':'.codePoint :: Python.intText last

/-- Python prints integers of so many digits only. -/
def spanPrintable (first last : ℤ) : Bool :=
  first.natAbs < 10 ^ Python.maxStrDigits && last.natAbs < 10 ^ Python.maxStrDigits

namespace PhysicalObservation

/-- The key that observations are sorted by -/
def key (item : PhysicalObservation) : Text ×ₗ ℤ ×ₗ Text :=
  toLex (item.runId, toLex (item.sequence, item.observationId))

/-- The run and the place in it -/
def slot (item : PhysicalObservation) : Text ×ₗ ℤ := toLex (item.runId, item.sequence)

def identities (item : PhysicalObservation) : List Text :=
  [item.observationId, item.runId, item.experimentId, item.phaseId, item.scenarioId,
    item.profileId, item.schemaId, item.partitionId, item.qualityId]

/-- What `invariant` keeps of an observation -/
def boundary (item : PhysicalObservation) : List Text :=
  [item.runId, item.experimentId, item.phaseId, item.scenarioId, item.profileId, item.schemaId,
    item.partitionId]

end PhysicalObservation

/-- The findings about one observation -/
def observationFindings (partition : PhysicalPartition) (resolver : ImmutableResolver)
    (item : PhysicalObservation) : List Diagnostic :=
  finding (item.runId ∈ partition.members.map (·.runId) &&
    item.partitionId = partition.partitionId && item.schemaId = partition.featureSchemaId)
    "PPV1_OBSERVATION_PARTITION_MISMATCH" item.observationId ++
  finding (item.identities.all (immutable resolver)) "PPV1_OBSERVATION_REFERENCE_UNRESOLVED"
    item.observationId ++
  finding item.valid "PPV1_INVALID_OBSERVATION" item.observationId

/-- The window that a complete candidate makes -/
def physicalWindow (partition : PhysicalPartition) (preprocessingId : Text) :
    List PhysicalObservation → Except WindowRefusal PhysicalWindow
  | [] => .error .raised
  | first :: rest =>
    let candidate := first :: rest
    let last := candidate.getLast (List.cons_ne_nil _ _)
    if contiguous (·.sequence) (·.gapBefore) (·.boundary) first candidate then
      if spanPrintable first.sequence last.sequence then
        .ok
          { windowId := first.runId ++ ':'.codePoint :: sequenceSpan first.sequence last.sequence
            sourceRunId := first.runId
            observationIds := candidate.map (·.observationId)
            observationStart := first.sequence
            observationEnd := last.sequence
            partitionId := partition.partitionId
            featureSchemaId := partition.featureSchemaId
            preprocessingId
            qualityIds := candidate.map (·.qualityId)
            exclusionIds := []
            authorizationEffect := text "none" }
      else .error .raised
    else
      .error (.validation (result [⟨text "PPV1_WINDOW_BOUNDARY_CROSSING", first.observationId⟩]))

/-- `build_physical_windows` -/
def buildPhysicalWindows (partition : PhysicalPartition) (observations : List PhysicalObservation)
    (parameters : WindowParameters) (preprocessingId : Text) (resolver : ImmutableResolver) :
    Except WindowRefusal (List PhysicalWindow) :=
  let errors := (validatePhysicalPartition partition resolver).diagnostics ++
    ([parameters.parameterEvidenceId, parameters.exclusionPolicyId, preprocessingId].flatMap
      fun identity =>
        finding (immutable resolver identity) "PPV1_WINDOW_REFERENCE_UNRESOLVED" identity) ++
    finding (1 ≤ parameters.windowLength && 1 ≤ parameters.stride &&
      parameters.padding = text "none") "PPV1_WINDOW_PARAMETERS_INVALID"
      parameters.parameterEvidenceId ++
    observations.flatMap (observationFindings partition resolver)
  if errors.isEmpty then
    let ordered := observations.insertionSort (·.key ≤ ·.key)
    slide parameters.windowLength.toNat (physicalWindow partition preprocessingId) ordered
      (offsets parameters.stride.toNat ordered.length)
  else .error (.validation (result errors))

/-! ## Identities of windows -/

theorem length_of_isImmutableId {identity : Text} (h : isImmutableId identity) :
    identity.length = 71 := by
  simp only [isImmutableId, Bool.and_eq_true, decide_eq_true_eq, List.length_drop] at h
  omega

theorem sequenceSpan_left_injective {first last first' last' : ℤ}
    (h : sequenceSpan first last = sequenceSpan first' last') : first = first' := by
  have hcolon : ∀ i : ℤ, ∀ c ∈ Python.intText i, decide (c ≠ ':'.codePoint) = true := by
    intro i c hc
    refine decide_eq_true fun heq => ?_
    rcases Python.mem_intText (heq ▸ hc) with hsign | hdigit
    · exact absurd hsign (by decide)
    · exact absurd hdigit (by decide)
  have htake : ∀ i j : ℤ, (sequenceSpan i j).takeWhile (· ≠ ':'.codePoint) = Python.intText i := by
    intro i j
    refine (JsonText.takeWhile_append_of_head (hcolon i) ?_).1
    simp
  exact Python.intText_injective (by rw [← htake first last, h, htake])

/-! ## What a window shows -/

/-- The window shows observations of one run, experiment, phase, scenario and profile, consecutive
and without a gap after the first. -/
def Shows (partition : PhysicalPartition) (observations : List PhysicalObservation)
    (windowLength : ℤ) (window : PhysicalWindow) : Prop :=
  ∃ rows : List PhysicalObservation, rows.length = windowLength ∧
    window.observationIds = rows.map (·.observationId) ∧
    (∀ item ∈ rows, item ∈ observations ∧ item.runId ∈ partition.members.map (·.runId)) ∧
    (∀ item ∈ rows, ∀ item' ∈ rows, item.runId = item'.runId ∧
      item.experimentId = item'.experimentId ∧ item.phaseId = item'.phaseId ∧
      item.scenarioId = item'.scenarioId ∧ item.profileId = item'.profileId) ∧
    ∀ (i : ℕ) item, rows[i]? = some item → item.runId = window.sourceRunId ∧
      item.sequence = window.observationStart + i ∧ (0 < i → item.gapBefore = false)

/-- The observations of a window follow on its first one, after which it is named. -/
theorem physicalWindow_eq_ok {partition : PhysicalPartition} {preprocessingId : Text}
    {candidate : List PhysicalObservation} {window : PhysicalWindow}
    (h : physicalWindow partition preprocessingId candidate = .ok window) :
    ∃ first, candidate[0]? = some first ∧
      contiguous (·.sequence) (·.gapBefore) (·.boundary) first candidate ∧
      window.windowId = first.runId ++ ':'.codePoint ::
        sequenceSpan first.sequence window.observationEnd ∧
      window.sourceRunId = first.runId ∧ window.observationStart = first.sequence ∧
      window.observationEnd = first.sequence + (candidate.length - 1) ∧
      window.observationIds = candidate.map (·.observationId) := by
  cases candidate with
  | nil => cases h
  | cons first rest =>
    rw [physicalWindow] at h
    split_ifs at h with hcontiguous hprintable
    · have hlast := ((contiguous_iff.mp hcontiguous) rest.length
        ((first :: rest).getLast (List.cons_ne_nil _ _)) (by
          rw [List.getLast_eq_getElem, List.getElem?_eq_getElem (by simp)]
          rfl)).1
      obtain rfl := Except.ok.inj h
      refine ⟨first, rfl, hcontiguous, rfl, rfl, rfl, ?_, rfl⟩
      rw [hlast, List.length_cons]
      push_cast
      ring

section Build

variable {partition : PhysicalPartition} {observations : List PhysicalObservation}
  {parameters : WindowParameters} {preprocessingId : Text} {resolver : ImmutableResolver}
  {windows : List PhysicalWindow}

/-- The observations in the order of the windows -/
def orderedObservations (observations : List PhysicalObservation) : List PhysicalObservation :=
  observations.insertionSort (·.key ≤ ·.key)

theorem slide_of_build
    (h : buildPhysicalWindows partition observations parameters preprocessingId resolver =
      .ok windows) :
    (0 < parameters.windowLength ∧ 0 < parameters.stride ∧ ∀ item ∈ observations,
      item.runId ∈ partition.members.map (·.runId) ∧ isImmutableId item.runId) ∧
      slide parameters.windowLength.toNat (physicalWindow partition preprocessingId)
        (orderedObservations observations)
        (offsets parameters.stride.toNat (orderedObservations observations).length) =
        .ok windows := by
  simp only [buildPhysicalWindows] at h
  split_ifs at h with herrors
  · refine ⟨?_, h⟩
    simp only [List.isEmpty_iff, List.append_eq_nil_iff, finding_eq_nil, Bool.and_eq_true,
      decide_eq_true_eq, List.flatMap_eq_nil_iff, observationFindings,
      List.all_eq_true, immutable] at herrors
    obtain ⟨⟨-, ⟨hlength, hstride⟩, -⟩, hitems⟩ := herrors
    refine ⟨hlength, hstride, fun item hitem => ?_⟩
    obtain ⟨⟨⟨⟨hrun, -⟩, -⟩, hidentities⟩, -⟩ := hitems item hitem
    exact ⟨hrun, (hidentities item.runId (by simp [PhysicalObservation.identities])).1⟩

theorem mem_orderedObservations {item : PhysicalObservation} :
    item ∈ orderedObservations observations ↔ item ∈ observations :=
  List.mem_insertionSort _

theorem orderedObservations_sorted (observations : List PhysicalObservation) :
    (orderedObservations observations).Pairwise (·.slot ≤ ·.slot) := by
  have hsorted : (orderedObservations observations).Pairwise (·.key ≤ ·.key) :=
    List.pairwise_insertionSort_of_key PhysicalObservation.key fun _ _ _ _ => Iff.rfl
  refine hsorted.imp fun {x y} hle => ?_
  rw [PhysicalObservation.key, PhysicalObservation.key, Prod.Lex.toLex_le_toLex] at hle
  rw [PhysicalObservation.slot, PhysicalObservation.slot, Prod.Lex.toLex_le_toLex]
  rcases hle with hrun | ⟨hrun, hrest⟩
  · exact .inl hrun
  · rw [Prod.Lex.toLex_le_toLex] at hrest
    exact .inr ⟨hrun, hrest.elim le_of_lt fun hsequence => hsequence.1.le⟩

theorem shows_of_mem
    (h : buildPhysicalWindows partition observations parameters preprocessingId resolver =
      .ok windows) {window : PhysicalWindow} (hwindow : window ∈ windows) :
    Shows partition observations parameters.windowLength window := by
  obtain ⟨⟨hlength, hstride, hitems⟩, hslide⟩ := slide_of_build h
  obtain ⟨k, hk⟩ := List.getElem?_of_mem hwindow
  obtain ⟨hfit, hcheck⟩ := (slide_eq_ok (by omega) (by omega) hslide).2 k window hk
  obtain ⟨first, -, hcontiguous, -, hrun, hstart, -, hids⟩ := physicalWindow_eq_ok hcheck
  rw [contiguous_iff] at hcontiguous
  refine ⟨_, ?_, hids, ?_, ?_, ?_⟩
  · rw [length_slice]
    omega
  · intro item hitem
    have hmem := mem_orderedObservations.mp ((slice_sublist _ _ _).subset hitem)
    exact ⟨hmem, (hitems item hmem).1⟩
  · intro item hitem item' hitem'
    obtain ⟨i, hi⟩ := List.getElem?_of_mem hitem
    obtain ⟨i', hi'⟩ := List.getElem?_of_mem hitem'
    have hboundary := (hcontiguous i item hi).2.2.trans (hcontiguous i' item' hi').2.2.symm
    simp only [PhysicalObservation.boundary, List.cons.injEq, and_true] at hboundary
    obtain ⟨hrun, hexperiment, hphase, hscenario, hprofile, -, -⟩ := hboundary
    exact ⟨hrun, hexperiment, hphase, hscenario, hprofile⟩
  · intro i item hi
    obtain ⟨hsequence, hgap, hboundary⟩ := hcontiguous i item hi
    refine ⟨?_, hstart ▸ hsequence, hgap⟩
    rw [hrun]
    exact (List.cons.inj hboundary).1

/-- Windows have different identities when they begin at different places. -/
theorem nodup_windowId_iff
    (h : buildPhysicalWindows partition observations parameters preprocessingId resolver =
      .ok windows) :
    (windows.map (·.windowId)).Nodup ↔ StartApart parameters.windowLength.toNat
      parameters.stride.toNat PhysicalObservation.slot (orderedObservations observations) := by
  obtain ⟨⟨hlength, hstride, hitems⟩, hslide⟩ := slide_of_build h
  let nameOf (item : PhysicalObservation) : Text := item.runId ++ ':'.codePoint ::
    sequenceSpan item.sequence (item.sequence + (parameters.windowLength - 1))
  rw [nodup_map_slide_iff nameOf (by omega) (by omega) ?_ hslide]
  · refine startApart_congr fun x hx y hy => ?_
    rw [mem_orderedObservations] at hx hy
    constructor
    · intro hname
      have hlen := (length_of_isImmutableId (hitems x hx).2).trans
        (length_of_isImmutableId (hitems y hy).2).symm
      obtain ⟨hrun, hspan⟩ := List.append_inj hname hlen
      rw [PhysicalObservation.slot, PhysicalObservation.slot, hrun,
        sequenceSpan_left_injective (List.cons.inj hspan).2]
    · intro hslot
      obtain ⟨hrun, hsequence⟩ := Prod.mk.inj (toLex.injective hslot)
      simp only [nameOf, hrun, hsequence]
  · intro i first window hfit hfirst hcheck
    obtain ⟨first', hfirst', -, hname, -, -, hend, -⟩ := physicalWindow_eq_ok hcheck
    rw [getElem?_slice (by omega), Nat.add_zero, hfirst, Option.some.injEq] at hfirst'
    have hsize : ((slice parameters.windowLength.toNat (orderedObservations observations)
        i).length : ℤ) = parameters.windowLength := by
      rw [length_slice]
      omega
    rw [hname, hend, hsize, ← hfirst']

/-- Two windows of two or more observations do not begin at one place: what follows the first
observation of the one comes before the other. -/
theorem startApart_of_two_le
    (h : buildPhysicalWindows partition observations parameters preprocessingId resolver =
      .ok windows) (htwo : 2 ≤ parameters.windowLength) :
    StartApart parameters.windowLength.toNat parameters.stride.toNat PhysicalObservation.slot
      (orderedObservations observations) := by
  obtain ⟨⟨hlength, hstride, -⟩, hslide⟩ := slide_of_build h
  obtain ⟨hsize, hwindows⟩ := slide_eq_ok (by omega) (by omega) hslide
  intro j k x y hjk hfit hx hy heq
  have hstep : (j + 1) * parameters.stride.toNat ≤ k * parameters.stride.toNat :=
    Nat.mul_le_mul_right _ hjk
  rw [Nat.succ_mul] at hstep
  have hj : j < windows.length := hsize ▸ (lt_count_iff (by omega)).mpr (by omega)
  obtain ⟨-, hcheck⟩ := hwindows j _ (List.getElem?_eq_getElem hj)
  obtain ⟨first, hfirst, hcontiguous, -⟩ := physicalWindow_eq_ok hcheck
  rw [getElem?_slice (by omega), Nat.add_zero, hx, Option.some.injEq] at hfirst
  subst hfirst
  -- the observation after the first one of the earlier window
  obtain ⟨next, hnext⟩ : ∃ next, (orderedObservations observations)[
      j * parameters.stride.toNat + 1]? = some next := ⟨_, List.getElem?_eq_getElem (by omega)⟩
  obtain ⟨hsequence, -, hboundary⟩ := contiguous_iff.mp hcontiguous 1 next
    (by rw [getElem?_slice (by omega), hnext])
  have hrun : next.runId = x.runId := (List.cons.inj hboundary).1
  have hlt : x.slot < next.slot := by
    rw [PhysicalObservation.slot, PhysicalObservation.slot, Prod.Lex.toLex_lt_toLex]
    exact .inr ⟨hrun.symm, by simp [hsequence]⟩
  have hle : next.slot ≤ y.slot := by
    obtain ⟨hi, rfl⟩ := List.getElem?_eq_some_iff.mp hnext
    obtain ⟨hk, rfl⟩ := List.getElem?_eq_some_iff.mp hy
    rcases (show j * parameters.stride.toNat + 1 ≤ k * parameters.stride.toNat by omega).eq_or_lt
      with heq | hlt
    · simp only [heq, le_refl]
    · exact List.pairwise_iff_getElem.mp (orderedObservations_sorted observations) _ _ hi hk hlt
  exact absurd (hlt.trans_le hle) (heq ▸ lt_irrefl _)

/-- Of no run and sequence number two observations stand at multiples of the stride, when the
observations are counted in their order. -/
def SlotsApart (stride : ℕ) (observations : List PhysicalObservation) : Prop :=
  ∀ item ∈ observations, starts stride (observations.countP (·.slot ≤ item.slot)) ≤
    starts stride (observations.countP (·.slot < item.slot)) + 1

instance (stride : ℕ) (observations : List PhysicalObservation) :
    Decidable (SlotsApart stride observations) :=
  inferInstanceAs (Decidable (∀ item ∈ observations, _))

theorem slotsApart_iff {stride : ℕ} (hstride : 0 < stride)
    (observations : List PhysicalObservation) :
    StartApart 1 stride PhysicalObservation.slot (orderedObservations observations) ↔
      SlotsApart stride observations := by
  have hperm : (orderedObservations observations).Perm observations := List.perm_insertionSort _ _
  rw [startApart_iff hstride (orderedObservations_sorted observations), SlotsApart]
  simp only [hperm.countP_eq, hperm.mem_iff]

/-- The windows are sound, and have different identities unless windows of one observation begin
at repeated sequence numbers of a run. -/
theorem windows_sound_and_named_iff
    (h : buildPhysicalWindows partition observations parameters preprocessingId resolver =
      .ok windows) :
    (∀ window ∈ windows, Shows partition observations parameters.windowLength window) ∧
        (windows.map (·.windowId)).Nodup ↔
      (parameters.windowLength = 1 → SlotsApart parameters.stride.toNat observations) := by
  obtain ⟨⟨hlength, hstride, -⟩, -⟩ := slide_of_build h
  rw [and_iff_right fun window hwindow => shows_of_mem h hwindow, nodup_windowId_iff h]
  constructor
  · intro hapart hone
    rw [hone] at hapart
    exact (slotsApart_iff (by omega) observations).mp hapart
  · intro hslots
    rcases eq_or_ne parameters.windowLength 1 with hone | hmore
    · rw [hone]
      exact (slotsApart_iff (by omega) observations).mpr (hslots hone)
    · exact startApart_of_two_le h (by omega)

end Build

/-! ## A repeated sequence number -/

/-- Run 0 for training. -/
def sampleRuns : PhysicalPartition :=
  ⟨(sampleId 10).val, (sampleId 11).val, [],
    [⟨(sampleId 0).val, text "train", true, (sampleId 2).val⟩], text "none"⟩

/-- An observation of run 0. -/
def sampleObservation (id : Fin 16) (sequence : ℤ) : PhysicalObservation :=
  ⟨(sampleId id).val, (sampleId 0).val, (sampleId 3).val, (sampleId 4).val, (sampleId 5).val,
    (sampleId 6).val, (sampleId 11).val, (sampleId 10).val, sequence, true, false,
    (sampleId 7).val⟩

/-- One window for each observation. -/
def singleParameters : WindowParameters :=
  ⟨(sampleId 12).val, 1, 1, text "none", (sampleId 13).val⟩

def singleBuild (observations : List PhysicalObservation) : Except WindowRefusal (List PhysicalWindow) :=
  buildPhysicalWindows sampleRuns observations singleParameters (sampleId 14).val fun _ => true

/-- The window of one observation. -/
def singleWindow (id : Fin 16) (sequence : ℤ) : PhysicalWindow :=
  ⟨(sampleId 0).val ++ ':'.codePoint :: sequenceSpan sequence sequence, (sampleId 0).val,
    [(sampleId id).val], sequence, sequence, (sampleId 10).val, (sampleId 11).val,
    (sampleId 14).val, [(sampleId 7).val], [], text "none"⟩

/-- Consecutive observations have windows of their own. -/
theorem singleBuild_named :
    (∀ window ∈ [singleWindow 8 4, singleWindow 9 5],
      Shows sampleRuns [sampleObservation 8 4, sampleObservation 9 5] 1 window) ∧
      ([singleWindow 8 4, singleWindow 9 5].map (·.windowId)).Nodup := by
  have h : singleBuild [sampleObservation 8 4, sampleObservation 9 5] =
      .ok [singleWindow 8 4, singleWindow 9 5] := Except.eq_ok_of_toOption (by decide +kernel)
  exact (windows_sound_and_named_iff h).mpr fun _ => by decide +kernel

/-- Two observations of one sequence number, and two windows of one identity. -/
theorem singleBuild_not_named :
    singleBuild [sampleObservation 8 4, sampleObservation 9 4] =
        .ok [singleWindow 8 4, singleWindow 9 4] ∧
      ¬([singleWindow 8 4, singleWindow 9 4].map (·.windowId)).Nodup :=
  ⟨Except.eq_ok_of_toOption (by decide +kernel), by decide +kernel⟩

end TruthFingerprint.Evidence
