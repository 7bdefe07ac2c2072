import Mathlib
import TruthFingerprint.Evidence.DetectorScores
import TruthFingerprint.Evidence.PhysicalEvaluation
import TruthFingerprint.Evidence.Publication
import TruthFingerprint.Lib.Dict

/-!
# The physical shadow route

A replay qualifies a selection when the scores of a batch and those of the shadow are the same,
window for window (`qualified_iff`). The route goes to a candidate whose identity has been
qualified. Only the identity is compared: what else a candidate says is not looked at
(`reused_route`), unless it is what the identity was computed from (`eq_of_selectionIdentity`).
-/

namespace TruthFingerprint.Evidence

open Document (optional texts record)

/-! ## The records -/

structure PhysicalShadowSelection where
  schemaVersion : Text
  bundleId : Text
  profileId : Text
  parameterSetId : Text
  featureSchemaId : Text
  preprocessingId : Text
  thresholdId : Text
  codeIdentity : Text
  dependencyLockSha256 : Text
  runtimeIdentity : Text
  authorizationId : Text
  selectionId : Text
  authorizationEffect : Text
deriving DecidableEq

inductive G5Disposition where
  | qualified
  | notQualified
  | incomplete
deriving DecidableEq

def G5Disposition.value : G5Disposition → Text
  | .qualified => text "qualified"
  | .notQualified => text "not_qualified"
  | .incomplete => text "incomplete"

structure G5QualificationResult where
  schemaVersion : Text
  selectionId : Text
  bundleId : Text
  batchScoreIds : List Text
  shadowScoreIds : List Text
  toleranceId : Option Text
  discrepancyIds : List Text
  disposition : Text
  diagnosticCodes : List Text
  resultId : Text
  authorizationEffect : Text
deriving DecidableEq

namespace PhysicalShadowSelection

def schema : Text := text "PhysicalShadowSelection.v1"

def fields (selection : PhysicalShadowSelection) : List (String × Text) :=
  [("schema_version", selection.schemaVersion), ("bundle_id", selection.bundleId),
    ("profile_id", selection.profileId), ("parameter_set_id", selection.parameterSetId),
    ("feature_schema_id", selection.featureSchemaId),
    ("preprocessing_id", selection.preprocessingId), ("threshold_id", selection.thresholdId),
    ("code_identity", selection.codeIdentity),
    ("dependency_lock_sha256", selection.dependencyLockSha256),
    ("runtime_identity", selection.runtimeIdentity),
    ("authorization_id", selection.authorizationId), ("selection_id", selection.selectionId),
    ("authorization_effect", selection.authorizationEffect)]

def toDict (selection : PhysicalShadowSelection) : Document :=
  record (selection.fields.map fun field => (field.1, .str field.2))

/-- What the identity of a selection covers -/
def covered (selection : PhysicalShadowSelection) : PhysicalShadowSelection :=
  { selection with selectionId := [] }

def canonical (selection : PhysicalShadowSelection) : Text :=
  Python.canonicalText selection.covered.toDict

end PhysicalShadowSelection

def physicalShadowSelectionIdentity (selection : PhysicalShadowSelection) : Text :=
  sha256Id selection.canonical

def finalizePhysicalShadowSelection (selection : PhysicalShadowSelection) :
    PhysicalShadowSelection :=
  { selection with selectionId := physicalShadowSelectionIdentity selection.covered }

namespace G5QualificationResult

def schema : Text := text "G5PhysicalShadowQualification.v1"

def toDict (result : G5QualificationResult) : Document :=
  record [("schema_version", .str result.schemaVersion), ("selection_id", .str result.selectionId),
    ("bundle_id", .str result.bundleId), ("batch_score_ids", texts result.batchScoreIds),
    ("shadow_score_ids", texts result.shadowScoreIds),
    ("tolerance_id", optional result.toleranceId),
    ("discrepancy_ids", texts result.discrepancyIds), ("disposition", .str result.disposition),
    ("diagnostic_codes", texts result.diagnosticCodes), ("result_id", .str result.resultId),
    ("authorization_effect", .str result.authorizationEffect)]

/-- `__post_init__` -/
def normalize (result : G5QualificationResult) : G5QualificationResult :=
  { result with
    batchScoreIds := sortedSet result.batchScoreIds
    shadowScoreIds := sortedSet result.shadowScoreIds
    discrepancyIds := sortedSet result.discrepancyIds
    diagnosticCodes := sortedSet result.diagnosticCodes }

end G5QualificationResult

def g5QualificationIdentity (result : G5QualificationResult) : Text :=
  recordId { result with resultId := [] }.toDict

def finalizeG5Qualification (result : G5QualificationResult) : G5QualificationResult :=
  { result with resultId := g5QualificationIdentity { result with resultId := [] } }

/-! ## The replay -/

/-- `_ids_are_resolved` -/
def idsAreResolved (values : List (Option Text)) (resolver : ImmutableResolver) : Bool :=
  values.all (resolves resolver)

/-- The scores by their windows, of which the last one stays -/
def scoresByWindow (scores : List DetectorScore) : List (Text × DetectorScore) :=
  Dict.ofItems (scores.map fun score => (score.windowId, score))

def inventoriesMatch (batchScores shadowScores : List DetectorScore) : Bool :=
  let batch := scoresByWindow batchScores
  let shadow := scoresByWindow shadowScores
  !batch.isEmpty &&
    ((batch.all fun item => item.1 ∈ shadow.map Prod.fst) &&
      shadow.all fun item => item.1 ∈ batch.map Prod.fst) &&
    batch.length = batchScores.length && shadow.length = shadowScores.length

/-- The windows of both inventories, sorted, with their two scores -/
def comparedScores (batch shadow : List (Text × DetectorScore)) :
    List (DetectorScore × DetectorScore) :=
  (sortedSet ((batch.map Prod.fst).filter (· ∈ shadow.map Prod.fst))).filterMap fun window =>
    (batch.lookup window).bind fun left => (shadow.lookup window).map fun right => (left, right)

section Qualify

variable (selection : PhysicalShadowSelection)

def boundToSelection (score : DetectorScore) : Bool :=
  (score.bundleId, score.profileId, score.codeIdentity, score.runtimeIdentity) =
    (selection.bundleId, selection.profileId, selection.codeIdentity, selection.runtimeIdentity)

def recomputable (score : DetectorScore) : Bool :=
  score.schemaVersion = text "DetectorScore.v1" &&
    score.scoreId = detectorScoreIdentity score

def scoreFindings (score : DetectorScore) : List Text :=
  check (recomputable score) "G5_SCORE_ID_INVALID" ++
    check (boundToSelection selection score) "G5_SCORE_SELECTION_MISMATCH"

/-- What two scores of one window have to agree in -/
structure ReplayedValues where
  bundleId : Text
  inputHash : Text
  rawScore : Option Text
  calibratedScore : Option Text
  decision : Text
  thresholdId : Text
  scoreDirection : Text
deriving DecidableEq

def replayedValues (score : DetectorScore) : ReplayedValues :=
  ⟨score.bundleId, score.inputHash, score.rawScore, score.calibratedScore, score.decision,
    score.thresholdId, score.scoreDirection⟩

def agree (left right : DetectorScore) : Bool := replayedValues left = replayedValues right

def pairFindings (pair : DetectorScore × DetectorScore) : List Text :=
  scoreFindings selection pair.1 ++ scoreFindings selection pair.2 ++
    check (agree pair.1 pair.2) "G5_REPLAY_MISMATCH"

def pairDiscrepancies (pair : DetectorScore × DetectorScore) : List Text :=
  if agree pair.1 pair.2 then [] else [pair.1.scoreId, pair.2.scoreId].filter isImmutableId

variable (batchScores shadowScores : List DetectorScore) (toleranceId : Option Text)
  (immutableResolver : ImmutableResolver)

/-- The selection has its own identity, which is resolved as its bundle and the tolerance are. -/
def selectionResolved : Bool :=
  selection.selectionId = physicalShadowSelectionIdentity selection &&
    idsAreResolved [some selection.selectionId, some selection.bundleId, toleranceId]
      immutableResolver

def replayFindings : List Text :=
  check (selectionResolved selection toleranceId immutableResolver)
      "G5_TOLERANCE_OR_SELECTION_UNRESOLVED" ++
    check (inventoriesMatch batchScores shadowScores) "G5_SCORE_INVENTORY_MISMATCH" ++
    (comparedScores (scoresByWindow batchScores) (scoresByWindow shadowScores)).flatMap
      (pairFindings selection)

def qualifyG5Replay : G5QualificationResult :=
  let diagnostics :=
    replayFindings selection batchScores shadowScores toleranceId immutableResolver
  let discrepancies :=
    (comparedScores (scoresByWindow batchScores) (scoresByWindow shadowScores)).flatMap
      pairDiscrepancies
  let disposition : G5Disposition := if diagnostics.isEmpty then .qualified else .notQualified
  finalizeG5Qualification (G5QualificationResult.normalize
    ⟨G5QualificationResult.schema, selection.selectionId, selection.bundleId,
      batchScores.map (·.scoreId), shadowScores.map (·.scoreId), toleranceId, discrepancies,
      disposition.value, diagnostics, [], text "none"⟩)

end Qualify

/-! ## The route -/

inductive ShadowRouteDisposition where
  | eligible
  | blocked
  | rolledBack
deriving DecidableEq

structure G5RouteDecision where
  disposition : ShadowRouteDisposition
  selectedIdentity : Option Text
  reasonIds : List Text
deriving DecidableEq

def routeQualified (candidate : PhysicalShadowSelection) (qualification : G5QualificationResult)
    (immutableResolver : ImmutableResolver) : Bool :=
  qualification.schemaVersion = G5QualificationResult.schema &&
    qualification.resultId = g5QualificationIdentity qualification &&
    qualification.disposition = G5Disposition.qualified.value &&
    qualification.selectionId = candidate.selectionId &&
    qualification.bundleId = candidate.bundleId && qualification.discrepancyIds.isEmpty &&
    idsAreResolved [some candidate.selectionId, some qualification.resultId] immutableResolver

def decideG5ShadowRoute (candidate : PhysicalShadowSelection)
    (qualification : G5QualificationResult)
    (lastVerifiedSelection : Option PhysicalShadowSelection)
    (immutableResolver : ImmutableResolver) : G5RouteDecision :=
  let reasons := [qualification.resultId].filter isImmutableId
  if routeQualified candidate qualification immutableResolver then
    ⟨.eligible, some candidate.selectionId, []⟩
  else match lastVerifiedSelection with
    | some last =>
      if idsAreResolved [some last.selectionId] immutableResolver then
        ⟨.rolledBack, some last.selectionId, reasons⟩
      else ⟨.blocked, none, reasons⟩
    | none => ⟨.blocked, none, reasons⟩

/-! ## What a qualified replay says -/

/-- Two lists of scores of the same windows, each window once, which all are bound to a selection
and agree. -/
structure Replayed (selection : PhysicalShadowSelection)
    (batchScores shadowScores : List DetectorScore) : Prop where
  nonempty : batchScores ≠ []
  distinct : (batchScores.map (·.windowId)).Nodup ∧ (shadowScores.map (·.windowId)).Nodup
  windows : ∀ window, window ∈ batchScores.map (·.windowId) ↔
    window ∈ shadowScores.map (·.windowId)
  recomputable : ∀ score ∈ batchScores ++ shadowScores, recomputable score
  bound : ∀ score ∈ batchScores ++ shadowScores, boundToSelection selection score
  agree : ∀ left ∈ batchScores, ∀ right ∈ shadowScores, left.windowId = right.windowId →
    replayedValues left = replayedValues right

section Qualified

variable {selection candidate : PhysicalShadowSelection}
  {batchScores shadowScores scores : List DetectorScore} {toleranceId : Option Text}
  {immutableResolver : ImmutableResolver}

theorem Replayed.symm (h : Replayed selection batchScores shadowScores) :
    Replayed selection shadowScores batchScores where
  nonempty := by
    rintro rfl
    obtain ⟨score, rest, hbatch⟩ := List.exists_cons_of_ne_nil h.nonempty
    have hwindow := (h.windows score.windowId).mp (by rw [hbatch]; exact List.mem_cons_self)
    cases hwindow
  distinct := ⟨h.distinct.2, h.distinct.1⟩
  windows window := (h.windows window).symm
  recomputable score hscore := h.recomputable score (List.mem_append.mpr
    (List.mem_append.mp hscore).symm)
  bound score hscore := h.bound score (List.mem_append.mpr (List.mem_append.mp hscore).symm)
  agree left hleft right hright hwindow := (h.agree right hright left hleft hwindow.symm).symm

theorem scoresByWindow_of_nodup (h : (scores.map (·.windowId)).Nodup) :
    scoresByWindow scores = scores.map fun score => (score.windowId, score) := by
  refine Dict.ofItems_of_nodup ?_
  rw [List.map_map]
  exact h

theorem length_scoresByWindow :
    (scoresByWindow scores).length = scores.length ↔ (scores.map (·.windowId)).Nodup := by
  rw [scoresByWindow, ← (List.length_map _ : (scores.map fun score => (score.windowId, score)).length = _),
    Dict.length_ofItems_eq_iff, List.map_map]
  rfl

theorem keys_scoresByWindow {window : Text} : window ∈ (scoresByWindow scores).map Prod.fst ↔
    window ∈ scores.map (·.windowId) := by
  rw [scoresByWindow, Dict.mem_keys_ofItems, List.map_map]
  rfl

theorem lookup_scoresByWindow (h : (scores.map (·.windowId)).Nodup) {window : Text}
    {score : DetectorScore} : (scoresByWindow scores).lookup window = some score ↔
      score ∈ scores ∧ score.windowId = window := by
  have hkeys : ((scoresByWindow scores).map Prod.fst).Nodup := Dict.nodup_keys_ofItems _
  rw [Dict.lookup_eq_some_iff hkeys, scoresByWindow_of_nodup h, List.mem_map]
  constructor
  · rintro ⟨score', hscore, heq⟩
    cases heq
    exact ⟨hscore, rfl⟩
  · rintro ⟨hscore, rfl⟩
    exact ⟨score, hscore, rfl⟩

theorem inventoriesMatch_iff : inventoriesMatch batchScores shadowScores ↔ batchScores ≠ [] ∧
    ((batchScores.map (·.windowId)).Nodup ∧ (shadowScores.map (·.windowId)).Nodup) ∧
    ∀ window, window ∈ batchScores.map (·.windowId) ↔ window ∈ shadowScores.map (·.windowId) := by
  have hempty : scoresByWindow batchScores = [] ↔ batchScores = [] := by
    rw [← List.map_eq_nil_iff (f := Prod.fst), scoresByWindow, Dict.keys_ofItems]
    constructor
    · intro h
      refine List.eq_nil_iff_forall_not_mem.mpr fun score hscore => ?_
      have hkey := List.mem_firstOccurrences.mpr (List.mem_map_of_mem (f := Prod.fst)
        (List.mem_map_of_mem (f := fun score : DetectorScore => (score.windowId, score)) hscore))
      rw [h] at hkey
      cases hkey
    · rintro rfl
      rfl
  simp only [inventoriesMatch, Bool.and_eq_true, decide_eq_true_eq, length_scoresByWindow,
    Bool.not_eq_true', List.isEmpty_eq_false_iff, ne_eq, hempty, List.all_eq_true,
    keys_scoresByWindow]
  have hkeys {scores other : List DetectorScore} :
      (∀ item ∈ scoresByWindow scores, item.1 ∈ other.map (·.windowId)) ↔
        ∀ window ∈ scores.map (·.windowId), window ∈ other.map (·.windowId) := by
    constructor
    · intro h window hwindow
      obtain ⟨item, hitem, rfl⟩ := List.mem_map.mp (keys_scoresByWindow.mpr hwindow)
      exact h item hitem
    · intro h item hitem
      exact h item.1 (keys_scoresByWindow.mp (List.mem_map_of_mem hitem))
  rw [hkeys, hkeys]
  constructor
  · rintro ⟨⟨⟨hne, hsub, hsub'⟩, hbatch⟩, hshadow⟩
    exact ⟨hne, ⟨hbatch, hshadow⟩, fun window => ⟨hsub window, hsub' window⟩⟩
  · rintro ⟨hne, ⟨hbatch, hshadow⟩, hwindows⟩
    exact ⟨⟨⟨hne, fun window => (hwindows window).mp, fun window => (hwindows window).mpr⟩, hbatch⟩,
      hshadow⟩

/-- What is compared are the scores of equal windows. -/
theorem mem_comparedScores (hbatch : (batchScores.map (·.windowId)).Nodup)
    (hshadow : (shadowScores.map (·.windowId)).Nodup) {left right : DetectorScore} :
    (left, right) ∈ comparedScores (scoresByWindow batchScores) (scoresByWindow shadowScores) ↔
      left ∈ batchScores ∧ right ∈ shadowScores ∧ left.windowId = right.windowId := by
  simp only [comparedScores, List.mem_filterMap, mem_sortedSet, List.mem_filter,
    decide_eq_true_eq, keys_scoresByWindow, Option.bind_eq_some_iff, Option.map_eq_some_iff,
    lookup_scoresByWindow hbatch, lookup_scoresByWindow hshadow, Prod.mk.injEq]
  constructor
  · rintro ⟨window, -, _, ⟨hleft, rfl⟩, _, ⟨hright, hwindow⟩, rfl, rfl⟩
    exact ⟨hleft, hright, hwindow.symm⟩
  · rintro ⟨hleft, hright, hwindow⟩
    exact ⟨left.windowId, ⟨List.mem_map_of_mem hleft, hwindow ▸ List.mem_map_of_mem hright⟩,
      left, ⟨hleft, rfl⟩, right, ⟨hright, hwindow.symm⟩, rfl, rfl⟩

theorem pairFindings_eq_nil {pair : DetectorScore × DetectorScore} :
    pairFindings selection pair = [] ↔
      ((recomputable pair.1 ∧ boundToSelection selection pair.1) ∧
        recomputable pair.2 ∧ boundToSelection selection pair.2) ∧
        replayedValues pair.1 = replayedValues pair.2 := by
  simp only [pairFindings, scoreFindings, List.append_eq_nil_iff, check_eq_nil, agree,
    decide_eq_true_eq]

theorem replayFindings_eq_nil :
    replayFindings selection batchScores shadowScores toleranceId immutableResolver = [] ↔
      selectionResolved selection toleranceId immutableResolver ∧
        Replayed selection batchScores shadowScores := by
  rw [replayFindings, List.append_eq_nil_iff, List.append_eq_nil_iff, check_eq_nil, check_eq_nil,
    inventoriesMatch_iff, and_assoc, List.flatMap_eq_nil_iff]
  refine and_congr_right fun _ => ?_
  constructor
  · rintro ⟨⟨hne, hdistinct, hwindows⟩, hpairs⟩
    have hpair {left right : DetectorScore} (hleft : left ∈ batchScores)
        (hright : right ∈ shadowScores) (hwindow : left.windowId = right.windowId) :=
      pairFindings_eq_nil.mp
        (hpairs _ ((mem_comparedScores hdistinct.1 hdistinct.2).mpr ⟨hleft, hright, hwindow⟩))
    have hscore (score : DetectorScore) (hscore : score ∈ batchScores ++ shadowScores) :
        recomputable score ∧ boundToSelection selection score := by
      rcases List.mem_append.mp hscore with hscore | hscore
      · obtain ⟨other, hother, hwindow⟩ :=
          List.mem_map.mp ((hwindows _).mp (List.mem_map_of_mem hscore))
        exact (hpair hscore hother hwindow.symm).1.1
      · obtain ⟨other, hother, hwindow⟩ :=
          List.mem_map.mp ((hwindows _).mpr (List.mem_map_of_mem hscore))
        exact (hpair hother hscore hwindow).1.2
    exact ⟨hne, hdistinct, hwindows, fun score h => (hscore score h).1,
      fun score h => (hscore score h).2, fun left hleft right hright hwindow =>
        (hpair hleft hright hwindow).2⟩
  · intro h
    refine ⟨⟨h.nonempty, h.distinct, h.windows⟩, fun ⟨left, right⟩ hmem => ?_⟩
    obtain ⟨hleft, hright, hwindow⟩ := (mem_comparedScores h.distinct.1 h.distinct.2).mp hmem
    have hleft' := List.mem_append_left shadowScores hleft
    have hright' := List.mem_append_right batchScores hright
    exact pairFindings_eq_nil.mpr ⟨⟨⟨h.recomputable _ hleft', h.bound _ hleft'⟩,
      h.recomputable _ hright', h.bound _ hright'⟩, h.agree left hleft right hright hwindow⟩

theorem qualified_iff :
    (qualifyG5Replay selection batchScores shadowScores toleranceId immutableResolver).disposition =
        G5Disposition.qualified.value ↔
      selectionResolved selection toleranceId immutableResolver ∧
        Replayed selection batchScores shadowScores := by
  rw [← replayFindings_eq_nil]
  change (if (replayFindings selection batchScores shadowScores toleranceId
    immutableResolver).isEmpty then G5Disposition.qualified else .notQualified).value = _ ↔ _
  rw [← List.isEmpty_iff]
  split_ifs with h
  · simp [h]
  · simp only [h]
    decide

/-- In a replay that qualifies there are no discrepancies. -/
theorem pairDiscrepancies_eq_nil (h : Replayed selection batchScores shadowScores) :
    (comparedScores (scoresByWindow batchScores) (scoresByWindow shadowScores)).flatMap
      pairDiscrepancies = [] := by
  rw [List.flatMap_eq_nil_iff]
  rintro ⟨left, right⟩ hmem
  obtain ⟨hleft, hright, hwindow⟩ := (mem_comparedScores h.distinct.1 h.distinct.2).mp hmem
  rw [pairDiscrepancies, agree, if_pos (decide_eq_true (h.agree left hleft right hright hwindow))]

theorem discrepancyIds_eq_nil (h : Replayed selection batchScores shadowScores) :
    (qualifyG5Replay selection batchScores shadowScores toleranceId
      immutableResolver).discrepancyIds = [] := by
  change sortedSet ((comparedScores (scoresByWindow batchScores)
    (scoresByWindow shadowScores)).flatMap pairDiscrepancies) = []
  rw [pairDiscrepancies_eq_nil h, sortedSet_eq_nil]

/-- What a replay that qualifies results in -/
theorem qualifyG5Replay_of_replayed
    (hresolved : selectionResolved selection toleranceId immutableResolver)
    (h : Replayed selection batchScores shadowScores) :
    qualifyG5Replay selection batchScores shadowScores toleranceId immutableResolver =
      finalizeG5Qualification ⟨G5QualificationResult.schema, selection.selectionId,
        selection.bundleId, sortedSet (batchScores.map (·.scoreId)),
        sortedSet (shadowScores.map (·.scoreId)), toleranceId, [], G5Disposition.qualified.value,
        [], [], text "none"⟩ := by
  have hempty : sortedSet ([] : List Text) = [] := sortedSet_eq_nil.mpr rfl
  unfold qualifyG5Replay
  rw [replayFindings_eq_nil.mpr ⟨hresolved, h⟩, pairDiscrepancies_eq_nil h]
  simp only [G5QualificationResult.normalize, hempty, List.isEmpty_nil, if_true]

theorem routeQualified_iff :
    routeQualified candidate (qualifyG5Replay selection batchScores shadowScores toleranceId
        immutableResolver) immutableResolver ↔
      (selectionResolved selection toleranceId immutableResolver ∧
        Replayed selection batchScores shadowScores) ∧
      selection.selectionId = candidate.selectionId ∧ selection.bundleId = candidate.bundleId ∧
      idsAreResolved [some candidate.selectionId, some (qualifyG5Replay selection batchScores
        shadowScores toleranceId immutableResolver).resultId] immutableResolver := by
  rw [← qualified_iff]
  simp only [routeQualified, Bool.and_eq_true, decide_eq_true_eq, List.isEmpty_iff]
  constructor
  · rintro ⟨⟨⟨⟨⟨⟨-, -⟩, hqualified⟩, hselection⟩, hbundle⟩, -⟩, hresolved⟩
    exact ⟨hqualified, hselection, hbundle, hresolved⟩
  · rintro ⟨hqualified, hselection, hbundle, hresolved⟩
    exact ⟨⟨⟨⟨⟨⟨rfl, rfl⟩, hqualified⟩, hselection⟩, hbundle⟩,
      discrepancyIds_eq_nil (qualified_iff.mp hqualified).2⟩, hresolved⟩

theorem immutable_of_idsAreResolved {t t' : Text}
    (h : idsAreResolved [some t, some t'] immutableResolver) : immutable immutableResolver t' :=
  List.all_eq_true.mp h (some t') (List.mem_cons_of_mem _ List.mem_cons_self)

theorem eligible_iff {qualification : G5QualificationResult}
    {lastVerifiedSelection : Option PhysicalShadowSelection} :
    (decideG5ShadowRoute candidate qualification lastVerifiedSelection
        immutableResolver).disposition = .eligible ↔
      routeQualified candidate qualification immutableResolver := by
  unfold decideG5ShadowRoute
  dsimp only
  split_ifs with h
  · simp [h]
  · cases lastVerifiedSelection with
    | none => simp [h]
    | some last =>
      dsimp only
      split_ifs <;> simp [h]

/-- Where a route leads, without the reasons -/
def G5RouteDecision.route (decision : G5RouteDecision) :
    ShadowRouteDisposition × Option Text := (decision.disposition, decision.selectedIdentity)

theorem route_congr {qualification qualification' : G5QualificationResult}
    {lastVerifiedSelection : Option PhysicalShadowSelection}
    (h : routeQualified candidate qualification immutableResolver =
      routeQualified candidate qualification' immutableResolver) :
    (decideG5ShadowRoute candidate qualification lastVerifiedSelection immutableResolver).route =
      (decideG5ShadowRoute candidate qualification' lastVerifiedSelection
        immutableResolver).route := by
  unfold decideG5ShadowRoute
  dsimp only
  rw [h]
  split_ifs
  · rfl
  · cases lastVerifiedSelection with
    | none => rfl
    | some last =>
      dsimp only
      split_ifs <;> rfl

/-- Exchanged lists qualify alike when both results are resolved alike. -/
theorem routeQualified_exchange
    (hresolver : immutableResolver (qualifyG5Replay selection batchScores shadowScores toleranceId
        immutableResolver).resultId =
      immutableResolver (qualifyG5Replay selection shadowScores batchScores toleranceId
        immutableResolver).resultId) :
    routeQualified candidate (qualifyG5Replay selection batchScores shadowScores toleranceId
        immutableResolver) immutableResolver =
      routeQualified candidate (qualifyG5Replay selection shadowScores batchScores toleranceId
        immutableResolver) immutableResolver := by
  have hreplayed : Replayed selection batchScores shadowScores ↔
      Replayed selection shadowScores batchScores := ⟨.symm, .symm⟩
  have himmutable (batchScores shadowScores : List DetectorScore) :
      isImmutableId (qualifyG5Replay selection batchScores shadowScores toleranceId
        immutableResolver).resultId := isImmutableId_recordId _
  rw [Bool.eq_iff_iff, routeQualified_iff, routeQualified_iff, hreplayed]
  simp only [idsAreResolved, List.all_cons, resolves, Option.any_some, immutable, himmutable,
    hresolver]

end Qualified

/-! ## Identities -/

/-- The canonical text of a record of texts determines the texts. -/
theorem values_of_canonicalText {fields fields' : List (String × Text)}
    (hnames : fields.map (fun field => text field.1) = fields'.map fun field => text field.1)
    (hnodup : (fields.map fun field => text field.1).Nodup)
    (hsplit : ∀ field ∈ fields, JsonText.NoSplitPair field.2)
    (hsplit' : ∀ field ∈ fields', JsonText.NoSplitPair field.2)
    (h : Python.canonicalText (record (fields.map fun field => (field.1, .str field.2))) =
      Python.canonicalText (record (fields'.map fun field => (field.1, .str field.2)))) :
    fields.map Prod.snd = fields'.map Prod.snd := by
  have hall {fields : List (String × Text)}
      (hsplit : ∀ field ∈ fields, JsonText.NoSplitPair field.2) :
      (.obj (fields.map fun field => (text field.1, .str field.2)) : Doc Text).All
        JsonText.IsLiteral JsonText.NoSplitPair := by
    simp only [Doc.all_obj, List.forall_mem_map, Doc.all_str]
    exact fun field hfield => ⟨noSplitPair_of_isEncodable (isEncodable_text field.1),
      hsplit field hfield⟩
  rw [Python.canonicalText, Python.canonicalText, ← Doc.sortKeys_map, ← Doc.sortKeys_map,
    literals_record, literals_record] at h
  have hsorted := JsonText.render_injective (fun c hc => by
      rw [Python.isPrintableAscii, Bool.and_eq_true, decide_eq_true_eq] at hc
      exact hc.1)
    ((Doc.all_sortKeys _).mpr (hall hsplit)) ((Doc.all_sortKeys _).mpr (hall hsplit')) h
  have hvalues := (Doc.sortKeys_obj_eq_iff_map (by rw [List.map_map]; rfl)
    (by rw [List.map_map]; exact hnames.symm) hnodup).mp hsorted
  rw [List.map_map, List.map_map] at hvalues
  refine List.map_injective_iff.mpr (fun t t' ht => Doc.str.inj ht : Function.Injective
    (Doc.str (N := Text))) ?_
  rw [List.map_map, List.map_map]
  simpa [Function.comp_def, Doc.sortKeys] using hvalues

/-- No text of a selection writes a character as two surrogates. -/
def PhysicalShadowSelection.NoSplitPair (selection : PhysicalShadowSelection) : Prop :=
  ∀ field ∈ selection.fields, JsonText.NoSplitPair field.2

theorem noSplitPair_covered {selection : PhysicalShadowSelection} :
    selection.NoSplitPair ↔
      selection.covered.NoSplitPair ∧ JsonText.NoSplitPair selection.selectionId := by
  have hempty : JsonText.NoSplitPair [] := List.isChain_nil
  simp only [PhysicalShadowSelection.NoSplitPair, PhysicalShadowSelection.fields,
    PhysicalShadowSelection.covered, List.forall_mem_cons, hempty]
  tauto

theorem covered_eq_of_canonical {selection candidate : PhysicalShadowSelection}
    (hsplit : selection.NoSplitPair) (hsplit' : candidate.NoSplitPair)
    (h : candidate.canonical = selection.canonical) : candidate.covered = selection.covered := by
  have hnodup : (candidate.covered.fields.map fun field => text field.1).Nodup := by
    change (["schema_version", "bundle_id", "profile_id", "parameter_set_id", "feature_schema_id",
      "preprocessing_id", "threshold_id", "code_identity", "dependency_lock_sha256",
      "runtime_identity", "authorization_id", "selection_id", "authorization_effect"].map
      text).Nodup
    decide +kernel
  have hnames : candidate.covered.fields.map (fun field => text field.1) =
      selection.covered.fields.map fun field => text field.1 := rfl
  have hvalues := values_of_canonicalText hnames hnodup 
    (noSplitPair_covered.mp hsplit').1 (noSplitPair_covered.mp hsplit).1 h
  simp only [PhysicalShadowSelection.fields, List.map_cons, List.map_nil, List.cons.injEq] at hvalues
  obtain ⟨hschema, hbundle, hprofile, hparameters, hfeatures, hpreprocessing, hthreshold, hcode,
    hlock, hruntime, hauthorization, -, heffect, -⟩ := hvalues
  cases candidate
  cases selection
  simp_all [PhysicalShadowSelection.covered]

/-! ## Only a replayed selection is routed -/

/-- A candidate that is routed has the identity of a replayed selection, and is equal to it when its
own identity is recomputable. Exchanging the lists does not matter to a resolver that knows both
results. -/
theorem route_of_replay (selection : PhysicalShadowSelection)
    (batchScores shadowScores : List DetectorScore) (toleranceId : Option Text)
    (immutableResolver : ImmutableResolver) (candidate : PhysicalShadowSelection)
    (lastVerifiedSelection : Option PhysicalShadowSelection) :
    ((decideG5ShadowRoute candidate
        (qualifyG5Replay selection batchScores shadowScores toleranceId immutableResolver)
        lastVerifiedSelection immutableResolver).disposition = .eligible →
      Replayed selection batchScores shadowScores ∧
      candidate.selectionId = selection.selectionId ∧ candidate.bundleId = selection.bundleId ∧
      (candidate.selectionId = physicalShadowSelectionIdentity candidate →
        candidate.NoSplitPair → selection.NoSplitPair →
        (sha256Id candidate.canonical = sha256Id selection.canonical →
          candidate.canonical = selection.canonical) →
        candidate.covered = selection.covered)) ∧
    (immutableResolver (qualifyG5Replay selection batchScores shadowScores toleranceId
          immutableResolver).resultId =
        immutableResolver (qualifyG5Replay selection shadowScores batchScores toleranceId
          immutableResolver).resultId →
      (decideG5ShadowRoute candidate
        (qualifyG5Replay selection batchScores shadowScores toleranceId immutableResolver)
        lastVerifiedSelection immutableResolver).route =
      (decideG5ShadowRoute candidate
        (qualifyG5Replay selection shadowScores batchScores toleranceId immutableResolver)
        lastVerifiedSelection immutableResolver).route) := by
  refine ⟨fun h => ?_, fun h => route_congr (routeQualified_exchange h)⟩
  obtain ⟨⟨hselection, hreplayed⟩, hid, hbundle, -⟩ :=
    routeQualified_iff.mp (eligible_iff.mp h)
  refine ⟨hreplayed, hid.symm, hbundle.symm, fun hidentity hsplit hsplit' hcollision => ?_⟩
  rw [selectionResolved, Bool.and_eq_true, decide_eq_true_eq] at hselection
  exact covered_eq_of_canonical hsplit' hsplit
    (hcollision (hidentity.symm.trans (hid.symm.trans hselection.1)))

/-- A selection with an authorization -/
def sampleSelection (authorizationId : Text) : PhysicalShadowSelection :=
  finalizePhysicalShadowSelection ⟨PhysicalShadowSelection.schema, (sampleId 0).val,
    (sampleId 1).val, (sampleId 2).val, (sampleId 3).val, (sampleId 4).val, (sampleId 5).val,
    (sampleId 6).val, (sampleId 7).val, (sampleId 8).val, authorizationId, [], text "none"⟩

/-- The score of the one window, as it was measured twice -/
def replayedScore (latency : Fin 16) : DetectorScore :=
  finalizeDetectorScore ⟨text "DetectorScore.v1", (sampleId 0).val, (sampleId 9).val,
    (sampleId 10).val, some (text "0.5"), some (text "0.75"), text "higher_is_anomalous",
    (sampleId 5).val, ScoreDecision.normal.value, some (sampleId latency).val, (sampleId 11).val,
    (sampleId 12).val, (sampleId 1).val, (sampleId 13).val, (sampleId 6).val, (sampleId 8).val,
    none, [], text "none"⟩

def sampleReplay (selection : PhysicalShadowSelection) (batch shadow : Fin 16)
    (immutableResolver : ImmutableResolver) : G5QualificationResult :=
  qualifyG5Replay selection [replayedScore batch] [replayedScore shadow] (some (sampleId 15).val)
    immutableResolver

theorem recomputable_finalizeDetectorScore {score : DetectorScore}
    (hschema : score.schemaVersion = text "DetectorScore.v1") :
    recomputable (finalizeDetectorScore score) := by
  rw [recomputable, Bool.and_eq_true, decide_eq_true_eq, decide_eq_true_eq]
  exact ⟨hschema, rfl⟩

theorem replayed_sample (authorizationId : Text) (batch shadow : Fin 16) :
    Replayed (sampleSelection authorizationId) [replayedScore batch] [replayedScore shadow] where
  nonempty := List.cons_ne_nil _ _
  distinct := ⟨List.nodup_singleton _, List.nodup_singleton _⟩
  windows _ := Iff.rfl
  recomputable score hscore := by
    rcases List.mem_pair.mp hscore with rfl | rfl <;>
      exact recomputable_finalizeDetectorScore rfl
  bound score hscore := by
    rcases List.mem_pair.mp hscore with rfl | rfl <;> exact decide_eq_true rfl
  agree left hleft right hright _ := by
    rw [List.mem_singleton.mp hleft, List.mem_singleton.mp hright]
    rfl

theorem selectionId_finalize (selection : PhysicalShadowSelection) :
    (finalizePhysicalShadowSelection selection).selectionId =
      physicalShadowSelectionIdentity (finalizePhysicalShadowSelection selection) := rfl

theorem selectionId_with_authorizationId (selection : PhysicalShadowSelection) (t : Text) :
    selection.selectionId = { selection with authorizationId := t }.selectionId := rfl

theorem bundleId_sampleSelection (authorizationId t : Text) :
    (sampleId 0).val = { sampleSelection authorizationId with authorizationId := t }.bundleId := rfl

theorem isImmutableId_sampleSelection (authorizationId : Text) :
    isImmutableId (sampleSelection authorizationId).selectionId := isImmutableId_sha256Id _

theorem selectionResolved_sample {authorizationId : Text} {immutableResolver : ImmutableResolver}
    (hselection : immutableResolver (sampleSelection authorizationId).selectionId)
    (hbundle : immutableResolver (sampleId 0).val) (htolerance : immutableResolver (sampleId 15).val) :
    selectionResolved (sampleSelection authorizationId) (some (sampleId 15).val)
      immutableResolver := by
  have hid : (sampleSelection authorizationId).selectionId =
      physicalShadowSelectionIdentity (sampleSelection authorizationId) := selectionId_finalize _
  have hbundle' : immutableResolver (sampleSelection authorizationId).bundleId := hbundle
  have hshape : isImmutableId (sampleSelection authorizationId).bundleId := (sampleId 0).property
  simp only [selectionResolved, ← hid, decide_true, idsAreResolved, List.all_cons,
    resolves, Option.any_some, immutable, isImmutableId_sampleSelection, hselection, hbundle',
    hshape, (sampleId 15).property, htolerance, List.all_nil, Bool.and_self]

/-- The result of the sample replay -/
def sampleResult (batch shadow : Text) : G5QualificationResult :=
  finalizeG5Qualification ⟨G5QualificationResult.schema,
    text "sha256:58d3c9212e1239cbc2d8da2cec47692b2ae2a48b80438f8fbb843c0e86cccae0",
    (sampleId 0).val, [batch], [shadow], some (sampleId 15).val, [], G5Disposition.qualified.value,
    [], [], text "none"⟩

/-- The result of the exchanged lists -/
def exchangedId : Text :=
  text "sha256:38ab9d50f500e724f243783b230af3d02a983d6b2ea1b72bcced930bd76d6f79"

/-- All but the result of the exchanged lists is known. -/
def knownIds : ImmutableResolver := (· ≠ exchangedId)

theorem selectionId_sample : (sampleSelection (sampleId 14).val).selectionId =
    text "sha256:58d3c9212e1239cbc2d8da2cec47692b2ae2a48b80438f8fbb843c0e86cccae0" := by
  decide +kernel

theorem scoreId_replayedScore : (replayedScore 2).scoreId =
      text "sha256:f4a58122e5b13b6f24d79270c809187b2ec534a7e0019c61ac9dcf743e7a0d5b" ∧
    (replayedScore 3).scoreId =
      text "sha256:62cb6bca5b858792aad46e041a88b203358ceb8de54e1081a2292f689e12e39b" := by
  decide +kernel

theorem selectionResolved_known :
    selectionResolved (sampleSelection (sampleId 14).val) (some (sampleId 15).val) knownIds := by
  refine selectionResolved_sample ?_ (by decide +kernel) (by decide +kernel)
  rw [selectionId_sample]
  decide +kernel

theorem sampleReplay_known (batch shadow : Fin 16) :
    sampleReplay (sampleSelection (sampleId 14).val) batch shadow knownIds =
      sampleResult (replayedScore batch).scoreId (replayedScore shadow).scoreId := by
  rw [sampleReplay, qualifyG5Replay_of_replayed selectionResolved_known (replayed_sample _ _ _),
    selectionId_sample]
  rfl

theorem eligible_sample {authorizationId : Text} {immutableResolver : ImmutableResolver}
    {candidate : PhysicalShadowSelection}
    {lastVerifiedSelection : Option PhysicalShadowSelection} {batch shadow : Fin 16}
    (hresolved : selectionResolved (sampleSelection authorizationId) (some (sampleId 15).val)
      immutableResolver)
    (hid : (sampleSelection authorizationId).selectionId = candidate.selectionId)
    (hbundle : (sampleId 0).val = candidate.bundleId)
    (hselection : immutableResolver (sampleSelection authorizationId).selectionId)
    (hresult : immutableResolver (sampleReplay (sampleSelection authorizationId) batch shadow
      immutableResolver).resultId) :
    (decideG5ShadowRoute candidate (sampleReplay (sampleSelection authorizationId) batch shadow
      immutableResolver) lastVerifiedSelection immutableResolver).disposition = .eligible := by
  have hshape : isImmutableId (sampleReplay (sampleSelection authorizationId) batch shadow
      immutableResolver).resultId := isImmutableId_recordId _
  refine eligible_iff.mpr (routeQualified_iff.mpr
    ⟨⟨hresolved, replayed_sample _ _ _⟩, hid, hbundle, ?_⟩)
  rw [← hid]
  change idsAreResolved [_, some (sampleReplay _ batch shadow _).resultId] _ = true
  simp only [idsAreResolved, List.all_cons, resolves, Option.any_some, immutable,
    isImmutableId_sampleSelection, hselection, hshape, hresult, List.all_nil, Bool.and_self]

/-- The route goes to a candidate that has the identity of a replayed selection and another
authorization, or that spells its authorization in surrogates, and exchanging the lists closes it
when only the first result is known. -/
theorem reused_route :
    (let selection := sampleSelection (sampleId 14).val
      let candidate := { selection with authorizationId := (sampleId 13).val }
      (decideG5ShadowRoute candidate (sampleReplay selection 2 3 fun _ => true) none
        fun _ => true).disposition = .eligible ∧ candidate.covered ≠ selection.covered) ∧
    (let selection := sampleSelection [0x1f600]
      let candidate := { selection with authorizationId := [0xd83d, 0xde00] }
      candidate.selectionId = physicalShadowSelectionIdentity candidate ∧
      (decideG5ShadowRoute candidate (sampleReplay selection 2 3 fun _ => true) none
        fun _ => true).disposition = .eligible ∧ candidate.covered ≠ selection.covered) ∧
    (decideG5ShadowRoute (sampleSelection (sampleId 14).val)
      (sampleReplay (sampleSelection (sampleId 14).val) 2 3 knownIds) none
      knownIds).disposition = .eligible ∧
    (decideG5ShadowRoute (sampleSelection (sampleId 14).val)
      (sampleReplay (sampleSelection (sampleId 14).val) 3 2 knownIds) none
      knownIds).disposition ≠ .eligible := by
  refine ⟨⟨?_, ?_⟩, ⟨?_, ?_, ?_⟩, ?_, ?_⟩
  · exact eligible_sample (selectionResolved_sample rfl rfl rfl)
      (selectionId_with_authorizationId _ _) (bundleId_sampleSelection _ _) rfl rfl
  · intro h
    have hauthorization := congrArg PhysicalShadowSelection.authorizationId h
    exact absurd hauthorization (by decide +kernel)
  · have hcanonical : (sampleSelection [0x1f600]).canonical = PhysicalShadowSelection.canonical
        { sampleSelection [0x1f600] with authorizationId := [0xd83d, 0xde00] } := by
      decide +kernel
    exact (selectionId_finalize _).trans (congrArg sha256Id hcanonical)
  · exact eligible_sample (selectionResolved_sample rfl rfl rfl)
      (selectionId_with_authorizationId _ _) (bundleId_sampleSelection _ _) rfl rfl
  · intro h
    have hauthorization := congrArg PhysicalShadowSelection.authorizationId h
    exact absurd hauthorization (by decide +kernel)
  · refine eligible_sample selectionResolved_known rfl rfl ?_ ?_
    · rw [selectionId_sample]
      decide +kernel
    · rw [sampleReplay_known, scoreId_replayedScore.1, scoreId_replayedScore.2]
      decide +kernel
  · have hunknown : knownIds (sampleReplay (sampleSelection (sampleId 14).val) 3 2
        knownIds).resultId = false := by
      rw [sampleReplay_known, scoreId_replayedScore.1, scoreId_replayedScore.2]
      decide +kernel
    intro h
    obtain ⟨-, -, -, hresolved⟩ := routeQualified_iff.mp (eligible_iff.mp h)
    have hresult : immutable knownIds (sampleReplay (sampleSelection (sampleId 14).val) 3 2
        knownIds).resultId := immutable_of_idsAreResolved hresolved
    rw [immutable, hunknown, Bool.and_false] at hresult
    cases hresult

theorem noSplitPair_sampleSelection : (sampleSelection (sampleId 14).val).NoSplitPair := by
  have hcovered : ∀ field ∈ (sampleSelection (sampleId 14).val).covered.fields,
      JsonText.NoSplitPair field.2 := by
    decide +kernel
  have hid : JsonText.NoSplitPair (sampleSelection (sampleId 14).val).selectionId := by
    rw [selectionId_sample]
    exact noSplitPair_of_isEncodable (isEncodable_text _)
  exact noSplitPair_covered.mpr ⟨hcovered, hid⟩

/-- The replayed selection itself -/
theorem sampleSelection_route :
    Replayed (sampleSelection (sampleId 14).val) [replayedScore 2] [replayedScore 3] ∧
      (sampleSelection (sampleId 14).val).covered = (sampleSelection (sampleId 14).val).covered ∧
      (decideG5ShadowRoute (sampleSelection (sampleId 14).val)
        (qualifyG5Replay (sampleSelection (sampleId 14).val) [replayedScore 2] [replayedScore 3]
          (some (sampleId 15).val) fun _ => true) none fun _ => true).route =
      (decideG5ShadowRoute (sampleSelection (sampleId 14).val)
        (qualifyG5Replay (sampleSelection (sampleId 14).val) [replayedScore 3] [replayedScore 2]
          (some (sampleId 15).val) fun _ => true) none fun _ => true).route := by
  have hroute : (decideG5ShadowRoute (sampleSelection (sampleId 14).val)
      (sampleReplay (sampleSelection (sampleId 14).val) 2 3 fun _ => true) none
      fun _ => true).disposition = .eligible :=
    eligible_sample (selectionResolved_sample rfl rfl rfl) rfl rfl rfl rfl
  obtain ⟨heligible, hexchange⟩ := route_of_replay (sampleSelection (sampleId 14).val)
    [replayedScore 2] [replayedScore 3] (some (sampleId 15).val) (fun _ => true)
    (sampleSelection (sampleId 14).val) none
  rw [sampleReplay] at hroute
  obtain ⟨hreplayed, -, -, hcovered⟩ := heligible hroute
  exact ⟨hreplayed, hcovered (selectionId_finalize _) noSplitPair_sampleSelection
    noSplitPair_sampleSelection fun _ => rfl, hexchange rfl⟩

end TruthFingerprint.Evidence
