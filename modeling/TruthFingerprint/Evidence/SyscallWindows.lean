import Mathlib
import TruthFingerprint.Evidence.PhysicalWindows

/-!
# Windows over categorical syscalls

Events are sorted by run, segment, sequence and identity. A segment holds each sequence number once,
so the order of the events that are supplied is forgotten (`canonicalize_perm`). The windows are the
complete slices of this order, each inside one capture scope and named after its first event, and
they lose nothing before the end of the last one (`syscallWindows_lossless`).
-/

namespace TruthFingerprint.Evidence

open SlidingWindows

/-- Detector-admissible metadata; categorical call names are never numeric values. -/
structure CategoricalSyscallEvent where
  eventId : Text
  batchId : Text
  rawSegmentId : Text
  runId : Text
  bootId : Text
  sessionId : Text
  containerId : Text
  processScopeId : Text
  captureGroupId : Text
  collectorId : Text
  filterId : Text
  kernelId : Text
  abiId : Text
  schemaId : Text
  partitionId : Text
  sourceIdentity : Text
  categoricalName : Text
  direction : Text
  sequence : ℤ
  timestamp : Text
  gapBefore : Bool
  lossBoundaryBefore : Bool
  duplicate : Bool
  queuePressure : Bool
  qualityId : Text
  exclusionPolicyId : Text

deriving instance DecidableEq for CategoricalSyscallWindow

structure SyscallWindowParameters where
  parameterEvidenceId : Text
  windowLength : ℤ
  stride : ℤ
  padding : Text
  exclusionPolicyId : Text
  lossPolicyId : Text

namespace CategoricalSyscallEvent

/-- The key that events are sorted by -/
def key (event : CategoricalSyscallEvent) : Text ×ₗ Text ×ₗ ℤ ×ₗ Text :=
  toLex (event.runId, toLex (event.rawSegmentId, toLex (event.sequence, event.eventId)))

/-- What may not occur twice -/
def place (event : CategoricalSyscallEvent) : Text × ℤ := (event.rawSegmentId, event.sequence)

def identities (event : CategoricalSyscallEvent) : List Text :=
  [event.eventId, event.batchId, event.rawSegmentId, event.runId, event.bootId, event.sessionId,
    event.containerId, event.processScopeId, event.captureGroupId, event.collectorId,
    event.filterId, event.kernelId, event.abiId, event.schemaId, event.partitionId,
    event.sourceIdentity, event.qualityId, event.exclusionPolicyId]

def boundary (event : CategoricalSyscallEvent) : List Text :=
  [event.runId, event.bootId, event.sessionId, event.containerId, event.processScopeId,
    event.captureGroupId, event.rawSegmentId, event.batchId, event.collectorId, event.filterId,
    event.kernelId, event.abiId, event.schemaId, event.partitionId, event.exclusionPolicyId]

def captureScope (event : CategoricalSyscallEvent) : List Text :=
  [event.bootId, event.sessionId, event.containerId, event.processScopeId, event.captureGroupId]

end CategoricalSyscallEvent

def SyscallPartitionMember.captureScope (member : SyscallPartitionMember) : List Text :=
  [member.bootId, member.sessionId, member.containerId, member.processScopeId,
    member.captureGroupId]

/-! ## The canonical order -/

/-- The findings about events after those of the places that were seen -/
def eventFindings (resolver : ImmutableResolver) :
    List (Text × ℤ) → List CategoricalSyscallEvent → List Diagnostic
  | _, [] => []
  | seen, event :: events =>
    finding (event.identities.all (immutable resolver)) "SPV1_EVENT_REFERENCE_UNRESOLVED"
      event.eventId ++
    finding (!event.categoricalName.isEmpty && !event.direction.isEmpty &&
      !event.timestamp.isEmpty && 0 ≤ event.sequence) "SPV1_EVENT_CATEGORICAL_FIELDS_INVALID"
      event.eventId ++
    finding (!(event.place ∈ seen || event.duplicate)) "SPV1_EVENT_DUPLICATE_OR_AMBIGUOUS"
      event.eventId ++
    eventFindings resolver (event.place :: seen) events

def canonicalOrder (events : List CategoricalSyscallEvent) : List CategoricalSyscallEvent :=
  events.insertionSort (·.key ≤ ·.key)

/-- `canonicalize_categorical_syscalls` -/
def canonicalizeCategoricalSyscalls (events : List CategoricalSyscallEvent)
    (resolver : ImmutableResolver) : Except Validation (List CategoricalSyscallEvent) :=
  let errors := eventFindings resolver [] events
  if errors.isEmpty then .ok (canonicalOrder events) else .error (result errors)

/-! ## Windows -/

/-- The entry of the dictionary of members by run, in which the last member of a run stays -/
def SyscallPartition.member? (partition : SyscallPartition) (runId : Text) :
    Option SyscallPartitionMember :=
  partition.members.reverse.find? fun member => member.runId = runId

/-- The finding about one event of the canonical order -/
def memberFindings (partition : SyscallPartition) (event : CategoricalSyscallEvent) :
    List Diagnostic :=
  match partition.member? event.runId with
  | none => [⟨text "SPV1_EVENT_PARTITION_MISMATCH", event.eventId⟩]
  | some member =>
    if event.partitionId ≠ partition.partitionId ∨ event.schemaId ≠ partition.featureSchemaId then
      [⟨text "SPV1_EVENT_PARTITION_MISMATCH", event.eventId⟩]
    else if event.captureScope ≠ member.captureScope then
      [⟨text "SPV1_EVENT_CAPTURE_SCOPE_MISMATCH", event.eventId⟩]
    else finding (event.batchId ∈ member.batchIds) "SPV1_EVENT_BATCH_UNDECLARED" event.eventId

/-- The window of a candidate that begins with an event -/
def makeSyscallWindow (partition : SyscallPartition) (preprocessingId : Text)
    (first : CategoricalSyscallEvent) (rest : List CategoricalSyscallEvent) :
    CategoricalSyscallWindow :=
  let candidate := first :: rest
  let last := candidate.getLast (List.cons_ne_nil _ _)
  { windowId := first.runId ++ ':'.codePoint :: (first.rawSegmentId ++
      ':'.codePoint :: sequenceSpan first.sequence last.sequence)
    sourceRunId := first.runId
    eventIds := candidate.map (·.eventId)
    batchIds := candidate.map (·.batchId)
    rawSegmentIds := candidate.map (·.rawSegmentId)
    eventStart := first.sequence
    eventEnd := last.sequence
    partitionId := partition.partitionId
    featureSchemaId := partition.featureSchemaId
    preprocessingId
    qualityIds := candidate.map (·.qualityId)
    exclusionIds := [first.exclusionPolicyId]
    authorizationEffect := text "none" }

/-- The window that a complete candidate makes -/
def syscallWindow (partition : SyscallPartition) (preprocessingId : Text) :
    List CategoricalSyscallEvent → Except WindowRefusal CategoricalSyscallWindow
  | [] => .error .raised
  | first :: rest =>
    let window := makeSyscallWindow partition preprocessingId first rest
    if contiguous (·.sequence) (fun event => event.gapBefore || event.lossBoundaryBefore)
        (·.boundary) first (first :: rest) then
      if spanPrintable window.eventStart window.eventEnd then .ok window else .error .raised
    else .error (.validation (result [⟨text "SPV1_WINDOW_BOUNDARY_CROSSING", first.eventId⟩]))

/-- `build_syscall_windows` -/
def buildSyscallWindows (partition : SyscallPartition) (events : List CategoricalSyscallEvent)
    (parameters : SyscallWindowParameters) (preprocessingId : Text)
    (resolver : ImmutableResolver) : Except WindowRefusal (List CategoricalSyscallWindow) :=
  let errors := (validateSyscallPartition partition resolver).diagnostics ++
    ([parameters.parameterEvidenceId, parameters.exclusionPolicyId, parameters.lossPolicyId,
      preprocessingId].flatMap fun identity =>
        finding (immutable resolver identity) "SPV1_WINDOW_REFERENCE_UNRESOLVED" identity) ++
    finding (1 ≤ parameters.windowLength && 1 ≤ parameters.stride &&
      parameters.padding = text "none") "SPV1_WINDOW_PARAMETERS_INVALID"
      parameters.parameterEvidenceId
  match canonicalizeCategoricalSyscalls events resolver with
  | .error validation => .error (.validation (result (errors ++ validation.diagnostics)))
  | .ok canonical =>
    let errors := errors ++ canonical.flatMap (memberFindings partition)
    if errors.isEmpty then
      slide parameters.windowLength.toNat (syscallWindow partition preprocessingId) canonical
        (offsets parameters.stride.toNat canonical.length)
    else .error (.validation (result errors))

/-! ## The order of the events is forgotten -/

/-- Event metadata that is complete, and not marked as a duplicate -/
def CategoricalSyscallEvent.Admissible (resolver : ImmutableResolver)
    (event : CategoricalSyscallEvent) : Prop :=
  event.identities.all (immutable resolver) ∧
    (!event.categoricalName.isEmpty && !event.direction.isEmpty && !event.timestamp.isEmpty &&
      0 ≤ event.sequence) ∧ event.duplicate = false

section Build

variable {partition : SyscallPartition} {events events' : List CategoricalSyscallEvent}
  {parameters : SyscallWindowParameters} {preprocessingId : Text} {resolver : ImmutableResolver}
  {windows : List CategoricalSyscallWindow}

/-- Events have no finding when each is admissible and no place is taken twice. -/
theorem eventFindings_eq_nil {seen : List (Text × ℤ)} :
    eventFindings resolver seen events = [] ↔ (∀ event ∈ events, event.Admissible resolver) ∧
      (∀ event ∈ events, event.place ∉ seen) ∧ (events.map (·.place)).Nodup := by
  induction events generalizing seen with
  | nil => simp [eventFindings]
  | cons event events ih =>
    simp only [eventFindings, List.append_eq_nil_iff, finding_eq_nil, ih, List.forall_mem_cons,
      CategoricalSyscallEvent.Admissible, List.map_cons, List.nodup_cons, List.mem_map,
      Bool.not_eq_true', Bool.or_eq_false_iff, decide_eq_false_iff_not]
    constructor
    · rintro ⟨⟨⟨hids, hfields⟩, hseen, hduplicate⟩, hadmissible, hplaces, hnodup⟩
      refine ⟨⟨⟨hids, hfields, hduplicate⟩, hadmissible⟩, ⟨hseen, fun e he hmem => ?_⟩,
        fun hrepeated => ?_, hnodup⟩
      · exact hplaces e he (List.mem_cons_of_mem _ hmem)
      · obtain ⟨e, he, heq⟩ := hrepeated
        exact hplaces e he (heq ▸ List.mem_cons_self)
    · rintro ⟨⟨⟨hids, hfields, hduplicate⟩, hadmissible⟩, ⟨hseen, hplaces⟩, hfresh, hnodup⟩
      refine ⟨⟨⟨hids, hfields⟩, hseen, hduplicate⟩, hadmissible, fun e he hmem => ?_, hnodup⟩
      exact (List.mem_cons.mp hmem).elim (fun heq => hfresh ⟨e, he, heq⟩) (hplaces e he)

theorem canonicalize_eq_ok {canonical : List CategoricalSyscallEvent} :
    canonicalizeCategoricalSyscalls events resolver = .ok canonical ↔
      ((∀ event ∈ events, event.Admissible resolver) ∧ (events.map (·.place)).Nodup) ∧
        canonicalOrder events = canonical := by
  have hnil : eventFindings resolver [] events = [] ↔
      (∀ event ∈ events, event.Admissible resolver) ∧ (events.map (·.place)).Nodup := by
    rw [eventFindings_eq_nil]
    simp
  rw [canonicalizeCategoricalSyscalls]
  split_ifs with h
  · rw [List.isEmpty_iff, hnil] at h
    rw [Except.ok.injEq, and_iff_right h]
  · rw [List.isEmpty_iff, hnil] at h
    exact iff_of_false nofun fun hok => h hok.1

/-- The canonical order does not depend on that of the events. -/
theorem canonicalize_perm (h : events'.Perm events) {canonical : List CategoricalSyscallEvent}
    (hcanonical : canonicalizeCategoricalSyscalls events resolver = .ok canonical) :
    canonicalizeCategoricalSyscalls events' resolver = .ok canonical := by
  rw [canonicalize_eq_ok] at hcanonical ⊢
  obtain ⟨⟨hadmissible, hplaces⟩, rfl⟩ := hcanonical
  refine ⟨⟨fun event hevent => hadmissible event (h.mem_iff.mp hevent),
    ((h.map _).nodup_iff).mpr hplaces⟩, ?_⟩
  refine (List.insertionSort_eq_of_perm CategoricalSyscallEvent.key (fun _ _ _ _ => Iff.rfl) ?_
    h.symm).symm
  intro x hx y hy hkey
  obtain ⟨-, hrest⟩ := Prod.mk.inj (toLex.injective hkey)
  obtain ⟨hsegment, hrest⟩ := Prod.mk.inj (toLex.injective hrest)
  obtain ⟨hsequence, -⟩ := Prod.mk.inj (toLex.injective hrest)
  exact List.inj_on_of_nodup_map hplaces hx hy (Prod.ext hsegment hsequence)

theorem build_perm (h : events'.Perm events)
    (hbuild : buildSyscallWindows partition events parameters preprocessingId resolver =
      .ok windows) :
    buildSyscallWindows partition events' parameters preprocessingId resolver = .ok windows := by
  cases hcanonical : canonicalizeCategoricalSyscalls events resolver with
  | error validation => simp [buildSyscallWindows, hcanonical] at hbuild
  | ok canonical =>
    simp only [buildSyscallWindows, hcanonical, canonicalize_perm h hcanonical] at hbuild ⊢
    exact hbuild

/-! ## The windows are slices -/

theorem slide_of_syscallBuild
    (h : buildSyscallWindows partition events parameters preprocessingId resolver = .ok windows) :
    (0 < parameters.windowLength ∧ 0 < parameters.stride ∧
      (∀ event ∈ events, event.Admissible resolver) ∧ (events.map (·.place)).Nodup) ∧
      slide parameters.windowLength.toNat (syscallWindow partition preprocessingId)
        (canonicalOrder events) (offsets parameters.stride.toNat (canonicalOrder events).length) =
        .ok windows := by
  cases hcanonical : canonicalizeCategoricalSyscalls events resolver with
  | error validation => simp [buildSyscallWindows, hcanonical] at h
  | ok canonical =>
    simp only [buildSyscallWindows, hcanonical] at h
    obtain ⟨⟨hadmissible, hplaces⟩, rfl⟩ := canonicalize_eq_ok.mp hcanonical
    split_ifs at h with herrors
    · refine ⟨?_, h⟩
      simp only [List.isEmpty_iff, List.append_eq_nil_iff, finding_eq_nil, Bool.and_eq_true,
        decide_eq_true_eq] at herrors
      obtain ⟨⟨-, ⟨hlength, hstride⟩, -⟩, -⟩ := herrors
      exact ⟨hlength, hstride, hadmissible, hplaces⟩

/-- The events of a candidate are of the run, segment, batch and capture scope of its first one, and
follow on it without a gap or a loss. -/
def InOneScope (first : CategoricalSyscallEvent) (candidate : List CategoricalSyscallEvent) :
    Prop :=
  ∀ (i : ℕ) event, candidate[i]? = some event → event.sequence = first.sequence + i ∧
    (0 < i → event.gapBefore = false ∧ event.lossBoundaryBefore = false) ∧
    event.runId = first.runId ∧ event.rawSegmentId = first.rawSegmentId ∧
    event.batchId = first.batchId ∧ event.captureScope = first.captureScope

theorem syscallWindow_eq_ok {candidate : List CategoricalSyscallEvent}
    {window : CategoricalSyscallWindow}
    (h : syscallWindow partition preprocessingId candidate = .ok window) :
    ∃ first rest, candidate = first :: rest ∧
      window = makeSyscallWindow partition preprocessingId first rest ∧
      InOneScope first candidate := by
  cases candidate with
  | nil => cases h
  | cons first rest =>
    simp only [syscallWindow] at h
    split_ifs at h with hcontiguous hprintable
    · refine ⟨first, rest, rfl, (Except.ok.inj h).symm, fun i event hevent => ?_⟩
      obtain ⟨hsequence, hgap, hboundary⟩ := contiguous_iff.mp hcontiguous i event hevent
      simp only [CategoricalSyscallEvent.boundary, List.cons.injEq, and_true] at hboundary
      obtain ⟨hrun, hboot, hsession, hcontainer, hprocess, hgroup, hsegment, hbatch, -⟩ :=
        hboundary
      refine ⟨hsequence, fun hi => Bool.or_eq_false_iff.mp (hgap hi), hrun, hsegment, hbatch, ?_⟩
      simp only [CategoricalSyscallEvent.captureScope, hboot, hsession, hcontainer, hprocess,
        hgroup]

theorem length_canonicalOrder (events : List CategoricalSyscallEvent) :
    (canonicalOrder events).length = events.length := List.length_insertionSort _ _

/-- Each window is that of the complete slice at its offset. -/
theorem syscallWindow_at
    (h : buildSyscallWindows partition events parameters preprocessingId resolver = .ok windows)
    {k : ℕ} {window : CategoricalSyscallWindow} (hk : windows[k]? = some window) :
    ∃ first rest, slice parameters.windowLength.toNat (canonicalOrder events)
        (k * parameters.stride.toNat) = first :: rest ∧
      window = makeSyscallWindow partition preprocessingId first rest ∧
      InOneScope first (first :: rest) ∧
      k * parameters.stride.toNat + parameters.windowLength.toNat ≤ events.length ∧
      rest.length + 1 = parameters.windowLength := by
  obtain ⟨⟨hlength, hstride, -⟩, hslide⟩ := slide_of_syscallBuild h
  obtain ⟨hfit, hcheck⟩ := (slide_eq_ok (by omega) (by omega) hslide).2 k window hk
  obtain ⟨first, rest, hslice, hwindow, hscope⟩ := syscallWindow_eq_ok hcheck
  have hsize := congrArg List.length hslice
  rw [length_slice, List.length_cons] at hsize
  rw [length_canonicalOrder] at hfit hsize
  exact ⟨first, rest, hslice, hwindow, hslice ▸ hscope, hfit, by omega⟩

/-- With a stride no longer than the windows, an event before the end of the last window is in
one. -/
theorem exists_window_of_event
    (h : buildSyscallWindows partition events parameters preprocessingId resolver = .ok windows)
    (hle : parameters.stride ≤ parameters.windowLength) (hne : windows ≠ []) {i : ℕ}
    {event : CategoricalSyscallEvent} (hevent : (canonicalOrder events)[i]? = some event)
    (hi : i < (windows.length - 1) * parameters.stride.toNat + parameters.windowLength.toNat) :
    ∃ window ∈ windows, event.eventId ∈ window.eventIds := by
  obtain ⟨⟨hlength, hstride, -⟩, -⟩ := slide_of_syscallBuild h
  obtain ⟨k, hk, hfrom, hto⟩ := exists_offset (by omega : 0 < parameters.stride.toNat)
    (by omega : parameters.stride.toNat ≤ parameters.windowLength.toNat) hi
  have hpos := List.length_pos_of_ne_nil hne
  have hwindow : windows[k]? = some windows[k] := List.getElem?_eq_getElem (by omega)
  obtain ⟨first, rest, hslice, hmade, -⟩ := syscallWindow_at h hwindow
  refine ⟨windows[k], List.getElem_mem _, ?_⟩
  have hmem : event ∈ first :: rest := by
    rw [← hslice]
    refine List.mem_of_getElem? (i := i - k * parameters.stride.toNat) ?_
    rw [getElem?_slice (by omega), ← hevent]
    congr 1
    omega
  rw [hmade]
  exact List.mem_map_of_mem hmem

theorem getLast_sequence {first : CategoricalSyscallEvent} {rest : List CategoricalSyscallEvent}
    (h : InOneScope first (first :: rest)) :
    ((first :: rest).getLast (List.cons_ne_nil _ _)).sequence = first.sequence + rest.length := by
  refine (h rest.length _ ?_).1
  rw [List.getLast_eq_getElem, List.getElem?_eq_getElem (by simp)]
  rfl

/-- Windows are named after the place of their first event, which no other event has. -/
theorem nodup_syscallWindowId
    (h : buildSyscallWindows partition events parameters preprocessingId resolver = .ok windows) :
    (windows.map (·.windowId)).Nodup := by
  obtain ⟨⟨hlength, hstride, hadmissible, hplaces⟩, hslide⟩ := slide_of_syscallBuild h
  have hperm : (canonicalOrder events).Perm events := List.perm_insertionSort _ _
  let nameOf (event : CategoricalSyscallEvent) : Text := event.runId ++ ':'.codePoint ::
    (event.rawSegmentId ++ ':'.codePoint ::
      sequenceSpan event.sequence (event.sequence + (parameters.windowLength - 1)))
  rw [nodup_map_slide_iff nameOf (by omega) (by omega) ?_ hslide]
  · refine StartApart.of_key CategoricalSyscallEvent.place ?_ ?_
    · intro x hx y hy hname
      have hlen : ∀ event ∈ canonicalOrder events, event.runId.length = 71 ∧
          event.rawSegmentId.length = 71 := by
        intro event hevent
        have hall := List.all_eq_true.mp (hadmissible event (hperm.mem_iff.mp hevent)).1
        simp only [CategoricalSyscallEvent.identities, List.forall_mem_cons, immutable,
          Bool.and_eq_true] at hall
        obtain ⟨-, -, ⟨hsegment, -⟩, ⟨hrun, -⟩, -⟩ := hall
        exact ⟨length_of_isImmutableId hrun, length_of_isImmutableId hsegment⟩
      obtain ⟨-, hrest⟩ := List.append_inj hname ((hlen x hx).1.trans (hlen y hy).1.symm)
      obtain ⟨hsegment, hspan⟩ := List.append_inj (List.cons.inj hrest).2
        ((hlen x hx).2.trans (hlen y hy).2.symm)
      rw [CategoricalSyscallEvent.place, CategoricalSyscallEvent.place, hsegment,
        sequenceSpan_left_injective (List.cons.inj hspan).2]
    · intro j k x y hjk hfit hx hy hplace
      have hlt : j * parameters.stride.toNat < k * parameters.stride.toNat :=
        Nat.mul_lt_mul_of_pos_right hjk (by omega)
      obtain ⟨hj, rfl⟩ := List.getElem?_eq_some_iff.mp hx
      obtain ⟨hk, rfl⟩ := List.getElem?_eq_some_iff.mp hy
      have hnodup := ((hperm.map _).nodup_iff).mpr hplaces
      rw [List.Nodup, List.pairwise_map] at hnodup
      exact List.pairwise_iff_getElem.mp hnodup _ _ hj hk hlt hplace
  · intro i first window hfit hfirst hcheck
    obtain ⟨first', rest, hslice, rfl, hscope⟩ := syscallWindow_eq_ok hcheck
    have hfirst' : some first' = some first := by
      rw [← hfirst, ← Nat.add_zero i, ← getElem?_slice
        (by omega : 0 < parameters.windowLength.toNat), hslice]
      rfl
    obtain rfl := Option.some.inj hfirst'
    have hsize := congrArg List.length hslice
    rw [length_slice, List.length_cons] at hsize
    have hspan : (rest.length : ℤ) = parameters.windowLength - 1 := by omega
    rw [makeSyscallWindow, getLast_sequence (hslice ▸ hscope), hspan]

/-- The windows do not depend on the order of the events. They are those of the complete slices of
the canonical order, each in one scope, lose no event before the end of the last one when the stride
is no longer than they are, and have different identities. -/
theorem syscallWindows_lossless
    (h : buildSyscallWindows partition events parameters preprocessingId resolver = .ok windows) :
    (∀ reordered : List CategoricalSyscallEvent, reordered.Perm events →
      buildSyscallWindows partition reordered parameters preprocessingId resolver = .ok windows) ∧
    (∀ k : ℕ, k < windows.length ↔
      k * parameters.stride.toNat + parameters.windowLength.toNat ≤ events.length) ∧
    (∀ (k : ℕ) window, windows[k]? = some window → ∃ first rest,
      ((canonicalOrder events).drop (k * parameters.stride.toNat)).take
        parameters.windowLength.toNat = first :: rest ∧
      rest.length + 1 = parameters.windowLength ∧
      window = makeSyscallWindow partition preprocessingId first rest ∧
      InOneScope first (first :: rest)) ∧
    (parameters.stride ≤ parameters.windowLength → windows ≠ [] → ∀ (i : ℕ) event,
      (canonicalOrder events)[i]? = some event →
      i < (windows.length - 1) * parameters.stride.toNat + parameters.windowLength.toNat →
      ∃ window ∈ windows, event.eventId ∈ window.eventIds) ∧
    (windows.map (·.windowId)).Nodup := by
  obtain ⟨⟨hlength, hstride, -⟩, hslide⟩ := slide_of_syscallBuild h
  refine ⟨fun _ hperm => build_perm hperm h, fun k => ?_, fun k window hk => ?_,
    fun hle hne i event hevent hi => exists_window_of_event h hle hne hevent hi,
    nodup_syscallWindowId h⟩
  · rw [(slide_eq_ok (by omega) (by omega) hslide).1, lt_count_iff (by omega),
      length_canonicalOrder]
  · obtain ⟨first, rest, hslice, hmade, hscope, -, hsize⟩ := syscallWindow_at h hk
    exact ⟨first, rest, hslice, hsize, hmade, hscope⟩

end Build

/-! ## A segment -/

/-- An event of the segment of run 0. -/
def sampleEvent (id : Fin 16) (sequence : ℤ) : CategoricalSyscallEvent where
  eventId := (sampleId id).val
  batchId := (sampleId 7).val
  rawSegmentId := (sampleId 1).val
  runId := (sampleId 0).val
  bootId := (sampleId 3).val
  sessionId := (sampleId 4).val
  containerId := (sampleId 5).val
  processScopeId := (sampleId 6).val
  captureGroupId := (sampleId 8).val
  collectorId := (sampleId 1).val
  filterId := (sampleId 1).val
  kernelId := (sampleId 1).val
  abiId := (sampleId 1).val
  schemaId := (sampleId 11).val
  partitionId := (sampleId 10).val
  sourceIdentity := (sampleId 1).val
  categoricalName := text "openat"
  direction := text "enter"
  sequence
  timestamp := text "t"
  gapBefore := false
  lossBoundaryBefore := false
  duplicate := false
  queuePressure := false
  qualityId := (sampleId 1).val
  exclusionPolicyId := (sampleId 1).val

/-- Windows of two events at each event. -/
def sampleSyscallParameters : SyscallWindowParameters :=
  ⟨(sampleId 12).val, 2, 1, text "none", (sampleId 13).val, (sampleId 13).val⟩

def sampleSyscallWindow : CategoricalSyscallWindow :=
  makeSyscallWindow (samplePartition 1) (sampleId 14).val (sampleEvent 2 4) [sampleEvent 9 5]

/-- Two events that are supplied in the wrong order have one window. -/
theorem sampleEvents_lossless :
    buildSyscallWindows (samplePartition 1) [sampleEvent 2 4, sampleEvent 9 5]
      sampleSyscallParameters (sampleId 14).val (fun _ => true) = .ok [sampleSyscallWindow] := by
  have h : buildSyscallWindows (samplePartition 1) [sampleEvent 9 5, sampleEvent 2 4]
      sampleSyscallParameters (sampleId 14).val (fun _ => true) = .ok [sampleSyscallWindow] :=
    Except.eq_ok_of_toOption (by decide +kernel)
  exact (syscallWindows_lossless h).1 _ (List.Perm.swap _ _ _)

end TruthFingerprint.Evidence
