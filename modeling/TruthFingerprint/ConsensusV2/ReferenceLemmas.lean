import Mathlib
import TruthFingerprint.ConsensusV2.ContractsLemmas
import TruthFingerprint.ConsensusV2.ReferenceEvaluator

/-!
# What the reference evaluator decides

On observations of different edges the operation splits the edges into included and excluded ones
(`mem_included`, `mem_excluded`), so the decision that is assembled meets every rule of its contract
but one: the contract wants the ranking in the order of the ids (`exists_assemble_iff`).
-/

namespace TruthFingerprint.ConsensusV2

open Python

variable {operation : ConsensusOperationClosureV2} {observations : List Observation}
  {rows : List (Observation × ℚ)}

/-! ## Sorted ids -/

theorem mem_sortedIds {ids : List Digest} {id : Digest} : id ∈ sortedIds ids ↔ id ∈ ids :=
  List.mem_insertionSort _

theorem pairwise_sortedIds {ids : List Digest} (h : ids.Nodup) :
    (sortedIds ids).Pairwise (· < ·) := by
  have hle : (sortedIds ids).Pairwise (· ≤ ·) := List.pairwise_insertionSort _ _
  have hnodup : (sortedIds ids).Nodup := (List.perm_insertionSort _ ids).nodup_iff.mpr h
  exact (hle.and hnodup).imp fun ⟨hle, hne⟩ => lt_of_le_of_ne hle hne

theorem pairwise_sortedRows {rows : List ExclusionRow} (h : (rows.map (·.edgeId)).Nodup) :
    ((sortedRows rows).map (·.edgeId)).Pairwise (· < ·) := by
  have hle : (sortedRows rows).Pairwise (·.edgeId ≤ ·.edgeId) :=
    List.pairwise_insertionSort_of_key ExclusionRow.edgeId fun _ _ _ _ => Iff.rfl
  have hnodup : ((sortedRows rows).map (·.edgeId)).Nodup :=
    ((List.perm_insertionSort _ rows).map _).nodup_iff.mpr h
  rw [List.Nodup, List.pairwise_map] at hnodup
  rw [List.pairwise_map]
  exact (hle.and hnodup).imp fun ⟨hle, hne⟩ => lt_of_le_of_ne hle hne

theorem mem_map_sortedRows {α : Type} {rows : List ExclusionRow} (f : ExclusionRow → α) {a : α} :
    a ∈ (sortedRows rows).map f ↔ a ∈ rows.map f :=
  ((List.perm_insertionSort _ rows).map f).mem_iff

/-! ## The rows of the operation -/

/-- The rows that the operation works on: the eligible observations, each once. -/
def RowsOf (observations : List Observation) (rows : List (Observation × ℚ)) : Prop :=
  rows.map Prod.fst = eligible observations

theorem rowsOf_residuals {ctx : DecimalContext} (h : residuals ctx observations = .ok rows) :
    RowsOf observations rows := by
  unfold residuals at h
  simp only at h
  split_ifs at h with hnil
  · obtain rfl := Except.ok.inj h
    exact hnil.symm
  · obtain ⟨mean, -, h⟩ := Except.bind_eq_ok.mp h
    have hfst : List.Forall₂ (· = ·) (eligible observations) (rows.map Prod.fst) := by
      rw [List.forall₂_map_right_iff]
      refine (List.mapM_eq_ok_iff.mp h).imp fun observation row hrow => ?_
      obtain ⟨residual, -, hrow⟩ := Except.bind_eq_ok.mp hrow
      obtain rfl := Except.ok.inj hrow
      rfl
    rw [List.forall₂_eq_eq_eq] at hfst
    exact hfst.symm

/-- The edges that stay, and those that are excluded. -/
def keptEdges (operation : ConsensusOperationClosureV2) (rows : List (Observation × ℚ)) :
    List Digest := (kept operation rows).map (·.1.edgeId)

def successRows (operation : ConsensusOperationClosureV2) (observations : List Observation)
    (rows : List (Observation × ℚ)) : List ExclusionRow :=
  ineligibleRows observations ++ (dropped operation rows).map fun row =>
    ⟨row.1.edgeId, operation.residualReasonId, row.1.eligibilityEvidenceId⟩

theorem map_edgeId_successRows :
    (successRows operation observations rows).map (·.edgeId) =
      (observations.filter fun item => ¬Eligible item).map (·.edgeId) ++
        (dropped operation rows).map (·.1.edgeId) := by
  rw [successRows, List.map_append, List.map_map]
  congr 1
  induction observations with
  | nil => rfl
  | cons item items ih =>
    cases hreason : item.eligibilityReasonId with
    | none => simpa [ineligibleRows, Eligible, hreason] using ih
    | some reason => simpa [ineligibleRows, Eligible, hreason] using ih

theorem perm_kept_dropped :
    (kept operation rows ++ dropped operation rows).Perm rows := by
  have hdropped : dropped operation rows =
      rows.filter fun row => !decide (row.2 ≤ exactDecimal operation.maxAbsResidual) := by
    refine List.filter_congr fun row _ => ?_
    simp only [← not_le, decide_not]
  rw [hdropped]
  exact List.filter_append_perm _ rows

variable (operation) in
/-- Included and excluded edges together are the edges, each as often as it comes. -/
theorem perm_edges (h : RowsOf observations rows) :
    (keptEdges operation rows ++
      (successRows operation observations rows).map (·.edgeId)).Perm
      (observations.map (·.edgeId)) := by
  have hrows : (keptEdges operation rows ++ (dropped operation rows).map (·.1.edgeId)).Perm
      ((eligible observations).map (·.edgeId)) := by
    rw [← h, List.map_map, keptEdges, ← List.map_append]
    exact perm_kept_dropped.map _
  have hobservations : (eligible observations ++
      observations.filter fun item => ¬Eligible item).Perm observations := by
    have hnot : (observations.filter fun item => ¬Eligible item) =
        observations.filter fun item => !decide (Eligible item) :=
      List.filter_congr fun item _ => by simp
    rw [hnot]
    exact List.filter_append_perm _ observations
  rw [map_edgeId_successRows]
  calc keptEdges operation rows ++ ((observations.filter fun item => ¬Eligible item).map
        (·.edgeId) ++ (dropped operation rows).map (·.1.edgeId))
      |>.Perm (keptEdges operation rows ++ ((dropped operation rows).map (·.1.edgeId) ++
        (observations.filter fun item => ¬Eligible item).map (·.edgeId))) :=
        List.perm_append_comm.append_left _
    _ |>.Perm ((eligible observations).map (·.edgeId) ++
        (observations.filter fun item => ¬Eligible item).map (·.edgeId)) := by
        rw [← List.append_assoc]
        exact hrows.append_right _
    _ |>.Perm (observations.map (·.edgeId)) := by
        rw [← List.map_append]
        exact hobservations.map _

/-! ## The result of the operation -/

/-- What a decision asks of a result, the order of the ranking apart. -/
structure Lawful (participants : List Digest) (result : OperationResult) : Prop where
  included_sorted : result.included.Pairwise (· < ·)
  excluded_sorted : (result.excluded.map (·.edgeId)).Pairwise (· < ·)
  partition : ∀ id, id ∈ participants ↔
    id ∈ result.excluded.map (·.edgeId) ∨ id ∈ result.included
  disjoint : ∀ id ∈ result.excluded.map (·.edgeId), id ∉ result.included
  success : result.outcome = .success →
    (∀ id, id ∈ result.ranking ↔ id ∈ result.included) ∧ result.ranking ≠ []
  failure : result.outcome = .failure → result.ranking = [] ∧ result.included = []

/-- Too few edges stay. -/
def TooFew (operation : ConsensusOperationClosureV2) (rows : List (Observation × ℚ)) : Prop :=
  (kept operation rows).length < operation.minimumParticipants

instance : Decidable (TooFew operation rows) := inferInstanceAs (Decidable (_ < _))

/-- The ranking of the edges that stay. -/
def rankingOf (operation : ConsensusOperationClosureV2) (rows : List (Observation × ℚ)) :
    List Digest :=
  ((kept operation rows).insertionSort fun x y =>
    toLex (x.2, x.1.edgeId) ≤ toLex (y.2, y.1.edgeId)).map (·.1.edgeId)

theorem length_sortedIds_kept :
    (sortedIds ((kept operation rows).map (·.1.edgeId))).length =
      (kept operation rows).length := by
  rw [sortedIds, List.length_insertionSort, List.length_map]

/-- Every edge, with the reason of a failure. -/
def failureRows (operation : ConsensusOperationClosureV2) (observations : List Observation) :
    List ExclusionRow :=
  observations.map fun item =>
    ⟨item.edgeId, operation.noRankingReasonId, item.eligibilityEvidenceId⟩

theorem map_edgeId_failureRows :
    (failureRows operation observations).map (·.edgeId) = observations.map (·.edgeId) := by
  rw [failureRows, List.map_map]
  rfl

theorem operate_of_tooFew (h : TooFew operation rows) :
    operate operation observations rows =
      ⟨.failure, [], [], sortedRows (failureRows operation observations)⟩ := by
  rw [operate]
  exact if_pos (length_sortedIds_kept.trans_lt h)

theorem operate_of_not_tooFew (h : ¬TooFew operation rows) :
    operate operation observations rows = ⟨.success, sortedIds (keptEdges operation rows),
      rankingOf operation rows, sortedRows (successRows operation observations rows)⟩ := by
  rw [operate]
  exact if_neg (length_sortedIds_kept ▸ h)

theorem mem_rankingOf {id : Digest} :
    id ∈ rankingOf operation rows ↔ id ∈ keptEdges operation rows :=
  ((List.perm_insertionSort _ _).map _).mem_iff

theorem lawful_operate (hrows : RowsOf observations rows)
    (hnodup : (observations.map (·.edgeId)).Nodup) :
    Lawful (observations.map (·.edgeId)) (operate operation observations rows) := by
  have hperm := perm_edges operation hrows
  have hsplit := hperm.nodup_iff.mpr hnodup
  rw [List.nodup_append] at hsplit
  obtain ⟨hkept, hexcluded, hdisjoint⟩ := hsplit
  by_cases hfew : TooFew operation rows
  · rw [operate_of_tooFew hfew]
    exact {
      included_sorted := .nil
      excluded_sorted := pairwise_sortedRows (map_edgeId_failureRows ▸ hnodup)
      partition := fun id => by simp [mem_map_sortedRows, map_edgeId_failureRows]
      disjoint := fun id _ => List.not_mem_nil
      success := nofun
      failure := fun _ => ⟨rfl, rfl⟩ }
  · rw [operate_of_not_tooFew hfew]
    exact {
      included_sorted := pairwise_sortedIds hkept
      excluded_sorted := pairwise_sortedRows hexcluded
      partition := fun id => by
        rw [mem_map_sortedRows, mem_sortedIds, ← hperm.mem_iff, List.mem_append, or_comm]
      disjoint := fun id hid => by
        rw [mem_map_sortedRows] at hid
        rw [mem_sortedIds]
        exact fun hin => hdisjoint id hin id hid rfl
      success := fun _ => ⟨fun id => by rw [mem_rankingOf, mem_sortedIds], fun hnil => hfew (by
        have hlength := congrArg List.length hnil
        rw [rankingOf, List.length_map, List.length_insertionSort, List.length_nil] at hlength
        rw [TooFew, hlength]
        exact operation.minimum_pos)⟩
      failure := nofun }

/-! ## The decision -/

theorem uniqueNames_basisDoc {N : Type} (b : ComparisonBasis) : (b.doc : Doc N).UniqueNames :=
  uniqueNames_of_names rfl nodup_basisFields (by simp)

theorem nodup_decisionMemberNames : (decisionFields.dropLast.map text).Nodup := by decide

theorem uniqueNames_exclusionDoc {N : Type} (edgeId reasonId : Digest) (evidence : List Digest) :
    (Doc.obj [(text "edge_id", idDoc edgeId), (text "reason_id", idDoc reasonId),
      (text "evidence_ids", idsDoc evidence)] : Doc N).UniqueNames :=
  uniqueNames_of_names rfl nodup_exclusionFields (by simp)

section Assemble

variable {F : Type}

variable (round : ConsensusRoundInputV2) (operation : ConsensusOperationClosureV2)
  (observations : List Observation) (result : OperationResult)

theorem names_decisionMembers :
    (decisionMembers F round operation observations result).map Prod.fst =
      decisionFields.dropLast.map text := rfl

theorem names_members (d : ConsensusDecisionV2) :
    (d.members : Members F).map Prod.fst = decisionFields.dropLast.map text := rfl

theorem uniqueNames_decisionMembers :
    (Doc.obj (decisionMembers F round operation observations result)).UniqueNames := by
  refine uniqueNames_of_names rfl nodup_decisionMemberNames ?_
  simp only [decisionMembers, List.forall_mem_cons, uniqueNames_idDoc, uniqueNames_idsDoc,
    uniqueNames_basisDoc, Doc.uniqueNames_str, Doc.uniqueNames_arr, List.forall_mem_map,
    List.not_mem_nil, false_imp_iff, implies_true, and_true, true_and]
  exact fun row _ => uniqueNames_exclusionDoc ..

variable [FloatOps F]

/-- The decision that is assembled is the one with these members. -/
theorem assemble_eq_ok {ms : Members F} (hnames : ms.map Prod.fst = decisionFields.dropLast.map text)
    (hms : (Doc.obj ms).UniqueNames) {d : ConsensusDecisionV2} :
    assemble F ms = .ok d ↔ Doc.sortKeys (.obj ms) = Doc.sortKeys (.obj d.members) := by
  have hpayload_names (t : Text) :
      (ms ++ [(text "decision_content_id", (.str t : Value F))]).map Prod.fst =
        decisionFields.map text := by
    rw [List.map_append, hnames]
    rfl
  have hpayload (t : Text) :
      (Doc.obj (ms ++ [(text "decision_content_id", (.str t : Value F))])).UniqueNames := by
    refine uniqueNames_of_names (hpayload_names t) nodup_decisionFields ?_
    rw [Doc.uniqueNames_obj] at hms
    exact List.forall_mem_append.mpr ⟨hms.2, by simp⟩
  have hsame (t : Text) : Doc.sortKeys (.obj (ms ++ [(text "decision_content_id", .str t)])) =
      d.doc.sortKeys ↔ Doc.sortKeys (.obj ms) = Doc.sortKeys (.obj d.members) ∧
        t = d.decisionContentId.val := by
    rw [ConsensusDecisionV2.doc,
      Doc.sortKeys_obj_eq_iff_map (hpayload_names t) rfl nodup_decisionFields,
      Doc.sortKeys_obj_eq_iff_map hnames rfl nodup_decisionMemberNames, List.map_append,
      List.map_append]
    constructor
    · intro h
      obtain ⟨hleft, hright⟩ := List.append_inj' h rfl
      exact ⟨hleft, by simpa [Doc.sortKeys, idDoc] using hright⟩
    · rintro ⟨hleft, rfl⟩
      rw [hleft]
      rfl
  constructor
  · intro h
    obtain ⟨canonical, -, h⟩ := Except.bind_eq_ok.mp h
    exact ((hsame _).mp ((decision_eq_ok (hpayload _)).mp h)).1
  · intro h
    have hdumps : dumps (ε := String) (.obj ms) = .ok d.canonicalBytes := by
      rw [dumps_eq_ok, canonicalText_congr h, Python.Printable, ← Doc.all_sortKeys, h,
        Doc.all_sortKeys]
      exact ⟨printable_decisionMembers d, canonicalText_decisionMembers d⟩
    refine Except.bind_eq_ok.mpr ⟨_, hdumps, ?_⟩
    exact (decision_eq_ok (hpayload _)).mpr ((hsame _).mpr ⟨h, rfl⟩)

/-- The decision with a lawful result that is ranked by id. -/
def decisionOf (hne : observations ≠ [])
    (hnodup : (observations.map (·.edgeId)).Nodup)
    (hlawful : Lawful (observations.map (·.edgeId)) result)
    (hranking : result.ranking.Pairwise (· < ·)) : ConsensusDecisionV2 where
  roundInputId := round.inputContentId
  roundInputHash := round.inputContentId
  comparisonBasis := round.comparisonBasis
  outcome := result.outcome
  participantIds := sortedIds (observations.map (·.edgeId))
  includedIds := result.included
  excluded := result.excluded.map fun row =>
    ⟨row.edgeId, row.reasonId, [row.evidenceId], by simp, by simp⟩
  ranking := result.ranking
  diagnostics := match result.outcome with
    | .failure => [⟨text "no_ranking", by decide⟩,
        ⟨text "CV2_OPERATION:" ++ operation.operationId.val, by simp [text]⟩]
    | .success => [⟨text "CV2_OPERATION:" ++ operation.operationId.val, by simp [text]⟩]
  participants_ne := fun h => hne (by
    have hlength := congrArg List.length h
    rw [sortedIds, List.length_insertionSort, List.length_map] at hlength
    exact List.length_eq_zero_iff.mp hlength)
  participants_sorted := pairwise_sortedIds hnodup
  included_sorted := hlawful.included_sorted
  included_subset := fun id hid =>
    mem_sortedIds.mpr ((hlawful.partition id).mpr (.inr hid))
  excluded_sorted := by
    rw [List.map_map]
    exact hlawful.excluded_sorted
  partition := fun id => by
    rw [mem_sortedIds, hlawful.partition, List.map_map]
    rfl
  disjoint := by
    rw [List.map_map]
    exact hlawful.disjoint
  ranking_sorted := hranking
  success_ranking := hlawful.success
  failure_no_ranking := hlawful.failure

omit [FloatOps F] in
theorem members_decisionOf (hne : observations ≠ []) (hnodup : (observations.map (·.edgeId)).Nodup)
    (hlawful : Lawful (observations.map (·.edgeId)) result)
    (hranking : result.ranking.Pairwise (· < ·)) :
    (decisionOf round operation observations result hne hnodup hlawful hranking).members =
      decisionMembers F round operation observations result := by
  obtain ⟨outcome, included, ranking, excluded⟩ := result
  cases outcome <;>
    simp only [decisionMembers, ConsensusDecisionV2.members, decisionOf, List.map_map,
      decisionDiagnostics, List.map_cons, List.map_nil] <;> rfl

end Assemble

end TruthFingerprint.ConsensusV2
