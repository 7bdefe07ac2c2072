import Mathlib
import TruthFingerprint.ConsensusV2.Totality

/-!
# The evaluation over the rationals

When no decimal operation of an evaluation rounds, its distances are those of the rationals, so the
evaluator excludes by the exact law and its result does not depend on the order of the observations
(`evaluate_of_computesExactly`). A failed evaluation replaces every reason by the one for no ranking.
-/

namespace TruthFingerprint.ConsensusV2

open Python

variable {F : Type} [FloatOps F] {round : ConsensusRoundInputV2}
  {operation : ConsensusOperationClosureV2} {observations observations' : List Observation}
  {rows rows' : List (Observation × ℚ)}

/-! ## The exact values -/

/-- The mean of the eligible values. -/
def exactMean (observations : List Observation) : ℚ :=
  ((eligible observations).map value).sum / (eligible observations).length

def exactDistance (observations : List Observation) (item : Observation) : ℚ :=
  |value item - exactMean observations|

/-- No operation of the evaluation rounds: the partial sums, the mean and the distances from it have
no more digits than the context keeps. -/
structure ComputesExactly (observations : List Observation) : Prop where
  sums : defaultContext.ExactSums ((eligible observations).map value)
  mean : defaultContext.Exact (exactMean observations)
  difference : ∀ item ∈ eligible observations,
    defaultContext.Exact (value item - exactMean observations)
  distance : ∀ item ∈ eligible observations,
    defaultContext.Exact (exactDistance observations item)

theorem ComputesExactly.measured (h : ComputesExactly observations) :
    Measured observations (exactMean observations) (exactDistance observations) where
  mean_eq hne := by
    have hlength : ((eligible observations).length : ℚ) ≠ 0 := by
      simpa using hne
    rw [DecimalContext.mean, DecimalContext.sum_eq_of_exactSums h.sums, List.length_map]
    exact DecimalContext.div_eq_of_exact hlength h.mean
  distance_eq item hitem := by
    rw [DecimalContext.distance, DecimalContext.sub_eq_of_exact (h.difference item hitem)]
    exact h.distance item hitem

/-- The distances of an exact evaluation. -/
theorem residuals_of_computesExactly (h : ComputesExactly observations) :
    residuals defaultContext observations =
      .ok (rowsAt observations (exactDistance observations)) :=
  residuals_eq_ok_iff.mpr ⟨_, _, h.measured, rfl⟩

/-! ## The order of the observations -/

theorem perm_eligible (h : observations.Perm observations') :
    (eligible observations).Perm (eligible observations') := h.filter _

theorem exactMean_eq_of_perm (h : observations.Perm observations') :
    exactMean observations = exactMean observations' := by
  have heligible := perm_eligible h
  rw [exactMean, exactMean, (heligible.map value).sum_eq, heligible.length_eq]

theorem perm_rowsAt (h : observations.Perm observations') :
    (rowsAt observations (exactDistance observations)).Perm
      (rowsAt observations' (exactDistance observations')) := by
  have hdistance : exactDistance observations = exactDistance observations' := by
    funext item
    rw [exactDistance, exactDistance, exactMean_eq_of_perm h]
  rw [rowsAt, rowsAt, hdistance]
  exact (perm_eligible h).map _

theorem sortedIds_eq_of_perm {ids ids' : List Digest} (h : ids.Perm ids') :
    sortedIds ids = sortedIds ids' :=
  List.insertionSort_eq_of_perm id (fun _ _ _ _ => Iff.rfl) (fun _ _ _ _ => id) h

theorem sortedRows_eq_of_perm {xs ys : List ExclusionRow} (hnodup : (xs.map (·.edgeId)).Nodup)
    (h : xs.Perm ys) : sortedRows xs = sortedRows ys :=
  List.insertionSort_eq_of_perm ExclusionRow.edgeId (fun _ _ _ _ => Iff.rfl)
    (fun _ hx _ hy heq => List.inj_on_of_nodup_map hnodup hx hy heq) h

theorem perm_successRows (hobservations : observations.Perm observations')
    (hrows : rows.Perm rows') : (successRows operation observations rows).Perm
      (successRows operation observations' rows') :=
  (hobservations.filterMap _).append ((hrows.filter _).map _)

theorem perm_failureRows (h : observations.Perm observations') :
    (failureRows operation observations).Perm (failureRows operation observations') := h.map _

theorem perm_keptEdges (h : rows.Perm rows') :
    (keptEdges operation rows).Perm (keptEdges operation rows') := (h.filter _).map _

theorem rankingOf_eq_of_perm (hnodup : (keptEdges operation rows).Nodup) (h : rows.Perm rows') :
    rankingOf operation rows = rankingOf operation rows' := by
  rw [rankingOf, rankingOf]
  congr 1
  refine List.insertionSort_eq_of_perm (fun x : Observation × ℚ => toLex (x.2, x.1.edgeId))
    (fun _ _ _ _ => Iff.rfl) (fun x hx y hy heq => ?_) (h.filter _)
  exact List.inj_on_of_nodup_map hnodup hx hy (congrArg (fun k => (ofLex k).2) heq)

/-- The operation sorts everything that it returns. -/
theorem operate_eq_of_perm (hof : RowsOf observations rows)
    (hnodup : (observations.map (·.edgeId)).Nodup) (hobservations : observations.Perm observations')
    (hrows : rows.Perm rows') :
    operate operation observations rows = operate operation observations' rows' := by
  have hsplit := (perm_edges operation hof).nodup_iff.mpr hnodup
  have hfew : TooFew operation rows ↔ TooFew operation rows' := by
    rw [TooFew, TooFew, (show (kept operation rows).Perm _ from hrows.filter _).length_eq]
    rfl
  by_cases h : TooFew operation rows
  · rw [operate_of_tooFew h, operate_of_tooFew (hfew.mp h), sortedRows_eq_of_perm
      (map_edgeId_failureRows ▸ hnodup) (perm_failureRows hobservations)]
  · rw [operate_of_not_tooFew h, operate_of_not_tooFew (hfew.not.mp h),
      sortedIds_eq_of_perm (perm_keptEdges hrows),
      rankingOf_eq_of_perm hsplit.of_append_left hrows,
      sortedRows_eq_of_perm hsplit.of_append_right (perm_successRows hobservations hrows)]

/-! ## The diagnostics -/

theorem provided_eq_self (h : (observations.map (·.edgeId)).Nodup) :
    provided observations = observations := by
  induction observations with
  | nil => rfl
  | cons item items ih =>
    rw [List.map_cons, List.nodup_cons] at h
    rw [provided, if_neg h.1, ih h.2]

variable {parameterSet : ConsensusParameterSet} {contractValidation : ConsensusContractValidation}
  {parameterValidation : ConsensusParameterValidationResult}

theorem closureDiagnostics_eq_nil_iff :
    closureDiagnostics round parameterSet operation observations = [] ↔
      ParameterClosure round parameterSet operation ∧ ProjectionClosure round observations ∧
        (∀ item ∈ observations, Bound round item) ∧
        observations.length + 1 ≤ operation.traceMaxEvents := by
  by_cases hprojection : ProjectionClosure round observations
  · rw [closureDiagnostics, provided_eq_self hprojection.1]
    simp [hprojection, List.filter_eq_nil_iff]
  · simp [closureDiagnostics, hprojection]

theorem Unblocked.of_perm
    (h : Unblocked round parameterSet contractValidation parameterValidation operation observations)
    (hperm : observations.Perm observations') :
    Unblocked round parameterSet contractValidation parameterValidation operation
      observations' where
  validation := by
    have hne : observations' ≠ [] := fun hnil => h.observations_ne (hnil ▸ hperm).eq_nil
    have hvalidation := h.validation
    simp only [validationDiagnostics, h.observations_ne, hne] at hvalidation ⊢
    exact hvalidation
  closure := by
    have hedges := hperm.map (·.edgeId)
    obtain ⟨hparameter, ⟨hnodup, hsame⟩, hbound, hbudget⟩ :=
      closureDiagnostics_eq_nil_iff.mp h.closure
    refine closureDiagnostics_eq_nil_iff.mpr ⟨hparameter, ⟨hedges.nodup_iff.mp hnodup, ?_⟩, ?_, ?_⟩
    · intro edgeId hedge
      rw [← hedges.mem_iff]
      exact hsame edgeId ((hedges.append_right _).mem_iff.mpr hedge)
    · exact fun item hitem => hbound item (hperm.mem_iff.mpr hitem)
    · exact hperm.length_eq ▸ hbudget

/-! ## The exact law -/

/-- The outcome and the exclusions by the distances of the rationals. A failure excludes every edge
for the reason of no ranking. -/
structure ExactlyDecided (operation : ConsensusOperationClosureV2) (observations : List Observation)
    (outcome : ConsensusOutcomeV2) (excluded : List (Digest × Digest)) : Prop where
  outcome_iff : outcome = .failure ↔
    (within operation observations (exactDistance observations)).length <
      operation.minimumParticipants
  residual_iff : outcome = .success → ∀ item ∈ eligible observations,
    (item.edgeId, operation.residualReasonId) ∈ excluded ↔
      exactDecimal operation.maxAbsResidual < exactDistance observations item
  no_ranking : outcome = .failure → ∀ edge reason, (edge, reason) ∈ excluded ↔
    edge ∈ observations.map (·.edgeId) ∧ reason = operation.noRankingReasonId

def reasons (result : OperationResult) : List (Digest × Digest) :=
  result.excluded.map fun row => (row.edgeId, row.reasonId)

theorem tooFew_rowsAt_iff {distance : Observation → ℚ} :
    TooFew operation (rowsAt observations distance) ↔
      (within operation observations distance).length < operation.minimumParticipants := by
  rw [TooFew, kept_rowsAt, List.length_map]

theorem mem_reasons_successRows {distance : Observation → ℚ} {item : Observation}
    (hnodup : (observations.map (·.edgeId)).Nodup) (hitem : item ∈ eligible observations) :
    (item.edgeId, operation.residualReasonId) ∈ (sortedRows (successRows operation observations
      (rowsAt observations distance))).map (fun row => (row.edgeId, row.reasonId)) ↔
      exactDecimal operation.maxAbsResidual < distance item := by
  have hmem := (List.mem_filter.mp hitem).1
  have hsame {other : Observation} (hother : other ∈ observations)
      (hedge : other.edgeId = item.edgeId) : other = item :=
    List.inj_on_of_nodup_map hnodup hother hmem hedge
  rw [mem_map_sortedRows, successRows, List.map_append, List.mem_append]
  constructor
  · rintro (h | h)
    · obtain ⟨row, hrow, heq⟩ := List.mem_map.mp h
      obtain ⟨other, hother, hreason⟩ := List.mem_filterMap.mp hrow
      obtain ⟨reason, hsome, rfl⟩ := Option.map_eq_some_iff.mp hreason
      obtain rfl := hsame hother (Prod.mk.inj heq).1
      have heligible : other.eligibilityReasonId = none :=
        of_decide_eq_true (List.mem_filter.mp hitem).2
      rw [hsome] at heligible
      exact absurd heligible (by simp)
    · obtain ⟨row, hrow, heq⟩ := List.mem_map.mp h
      obtain ⟨dropped, hdropped, rfl⟩ := List.mem_map.mp hrow
      obtain ⟨hrowsAt, hbound⟩ := List.mem_filter.mp hdropped
      obtain ⟨other, hother, rfl⟩ := List.mem_map.mp hrowsAt
      obtain rfl := hsame (List.mem_filter.mp hother).1 (Prod.mk.inj heq).1
      exact of_decide_eq_true hbound
  · intro hbound
    refine .inr (List.mem_map.mpr ⟨⟨item.edgeId, operation.residualReasonId,
      item.eligibilityEvidenceId⟩, List.mem_map.mpr ⟨(item, distance item), ?_, rfl⟩, rfl⟩)
    exact List.mem_filter.mpr ⟨List.mem_map_of_mem hitem, decide_eq_true hbound⟩

theorem exactlyDecided_operate (hnodup : (observations.map (·.edgeId)).Nodup) :
    ExactlyDecided operation observations
      (operate operation observations (rowsAt observations (exactDistance observations))).outcome
      (reasons
        (operate operation observations (rowsAt observations (exactDistance observations)))) := by
  by_cases hfew : TooFew operation (rowsAt observations (exactDistance observations))
  · rw [operate_of_tooFew hfew, reasons]
    exact {
      outcome_iff := iff_of_true rfl (tooFew_rowsAt_iff.mp hfew)
      residual_iff := fun h => by cases h
      no_ranking := fun _ edge reason => by
        rw [mem_map_sortedRows, failureRows, List.map_map]
        simp only [List.mem_map, Function.comp_apply, Prod.mk.injEq]
        grind }
  · rw [operate_of_not_tooFew hfew, reasons]
    exact {
      outcome_iff := iff_of_false (fun h => by cases h) (tooFew_rowsAt_iff.not.mp hfew)
      residual_iff := fun _ item hitem => mem_reasons_successRows hnodup hitem
      no_ranking := fun h => by cases h }

/-! ## The decision -/

theorem map_eq_map_of {α β γ δ : Type} {f : α → γ} {g : β → γ} {p : α → δ} {q : β → δ}
    (h : ∀ a b, f a = g b → p a = q b) {xs : List α} {ys : List β} (heq : xs.map f = ys.map g) :
    xs.map p = ys.map q := by
  induction xs generalizing ys with
  | nil =>
    obtain rfl : ys = [] := by simpa using heq.symm
    rfl
  | cons x xs ih =>
    obtain _ | ⟨y, ys⟩ := ys
    · simp at heq
    · rw [List.map_cons, List.map_cons, List.cons.injEq] at heq
      rw [List.map_cons, List.map_cons, h x y heq.1, ih heq.2]

omit [FloatOps F] in
theorem exclusionDoc_inj {row : ExclusionRow} {exclusion : Exclusion}
    (h : (row.doc F).sortKeys = exclusion.doc.sortKeys) :
    (exclusion.edgeId, exclusion.reasonId) = (row.edgeId, row.reasonId) := by
  have hnames (edgeId reasonId : Digest) (evidence : List Digest) :
      ([(text "edge_id", idDoc edgeId), (text "reason_id", idDoc reasonId),
        (text "evidence_ids", idsDoc evidence)] : Members F).map Prod.fst =
        exclusionFields.map text := rfl
  have hdocs := (Doc.sortKeys_obj_eq_iff_map (hnames row.edgeId row.reasonId [row.evidenceId])
    (hnames exclusion.edgeId exclusion.reasonId exclusion.evidenceIds) nodup_exclusionFields).mp h
  simp only [List.map_cons, List.cons.injEq, sortKeys_eq_idDoc, idDoc_inj] at hdocs
  rw [hdocs.1, hdocs.2.1]

theorem name_inj {o o' : ConsensusOutcomeV2} (h : o.name = o'.name) : o = o' := by
  cases o <;> cases o' <;> first | rfl | exact absurd h (by decide)

/-- A decision that is assembled has the outcome and the reasons of the result. -/
theorem reasons_of_assemble {result : OperationResult} {d : ConsensusDecisionV2}
    (h : assemble F (decisionMembers F round operation observations result) = .ok d) :
    d.outcome = result.outcome ∧
      d.excluded.map (fun row => (row.edgeId, row.reasonId)) = reasons result := by
  have hdocs := (Doc.sortKeys_obj_eq_iff_map (names_decisionMembers ..) (names_members d)
    nodup_decisionMemberNames).mp ((assemble_eq_ok (names_decisionMembers ..)
      (uniqueNames_decisionMembers ..)).mp h)
  simp only [decisionMembers, ConsensusDecisionV2.members, List.map_cons, List.cons.injEq,
    sortKeys_eq_strDoc, Doc.str.injEq, sortKeys_arr_eq_iff, List.map_map] at hdocs
  obtain ⟨-, -, -, -, houtcome, -, -, hexcluded, -⟩ := hdocs
  exact ⟨(name_inj houtcome).symm, map_eq_map_of (fun _ _ h => exclusionDoc_inj h.symm)
    hexcluded.symm⟩

/-- The evaluator returns a decision with this outcome and these reasons. -/
def Decides (F : Type) [FloatOps F] (round : ConsensusRoundInputV2)
    (parameterSet : ConsensusParameterSet) (contractValidation : ConsensusContractValidation)
    (parameterValidation : ConsensusParameterValidationResult)
    (operation : ConsensusOperationClosureV2) (observations : List Observation)
    (outcome : ConsensusOutcomeV2) (excluded : List (Digest × Digest)) : Prop :=
  ∃ evaluation decision, evaluateConsensusV2Reference F round parameterSet contractValidation
    parameterValidation (some operation) observations = .ok evaluation ∧
      evaluation.decision = some decision ∧ decision.outcome = outcome ∧
      decision.excluded.map (fun row => (row.edgeId, row.reasonId)) = excluded

theorem decides_of_rows {parameterSet : ConsensusParameterSet}
    {contractValidation : ConsensusContractValidation}
    {parameterValidation : ConsensusParameterValidationResult}
    (h : Unblocked round parameterSet contractValidation parameterValidation operation observations)
    (hrows : residuals defaultContext observations = .ok rows)
    (hids : TooFew operation rows ∨ RankedById operation rows) :
    Decides F round parameterSet contractValidation parameterValidation operation observations
      (operate operation observations rows).outcome
      (reasons (operate operation observations rows)) := by
  obtain ⟨evaluation, decision, heval, -, hdecision⟩ :=
    (evaluates_iff_rows (F := F) h).mpr ⟨rows, hrows, hids⟩
  refine ⟨evaluation, decision, heval, hdecision, ?_⟩
  rw [evaluate_eq_of_unblocked h, hrows] at heval
  obtain ⟨rows', hlift, heval⟩ := Except.bind_eq_ok.mp heval
  obtain rfl := Except.ok.inj (liftDecimal_eq_ok.mp hlift)
  obtain ⟨d, hd, heval⟩ := Except.bind_eq_ok.mp heval
  obtain rfl := Except.ok.inj heval
  obtain rfl : d = decision := by simpa [evaluated] using hdecision
  exact reasons_of_assemble hd

theorem evaluate_eq_of_computesExactly {parameterSet : ConsensusParameterSet}
    {contractValidation : ConsensusContractValidation}
    {parameterValidation : ConsensusParameterValidationResult}
    (h : Unblocked round parameterSet contractValidation parameterValidation operation observations)
    (hexact : ComputesExactly observations) :
    evaluateConsensusV2Reference F round parameterSet contractValidation parameterValidation
      (some operation) observations = (do
        let decision ← assemble F (decisionMembers F round operation observations
          (operate operation observations (rowsAt observations (exactDistance observations))))
        pure (evaluated round parameterSet operation observations decision)) := by
  rw [evaluate_eq_of_unblocked h, residuals_of_computesExactly hexact]
  rfl

/-- When no operation rounds, the evaluator decides by the law of the rationals, whatever the order
of the observations. -/
theorem evaluate_of_computesExactly {parameterSet : ConsensusParameterSet}
    {contractValidation : ConsensusContractValidation}
    {parameterValidation : ConsensusParameterValidationResult}
    (h : Unblocked round parameterSet contractValidation parameterValidation operation observations)
    (hexact : ComputesExactly observations) :
    (∀ evaluation decision, evaluateConsensusV2Reference F round parameterSet contractValidation
        parameterValidation (some operation) observations = .ok evaluation →
      evaluation.decision = some decision →
      ExactlyDecided operation observations decision.outcome
        (decision.excluded.map fun row => (row.edgeId, row.reasonId))) ∧
    ∀ observations', observations.Perm observations' → ComputesExactly observations' →
      evaluateConsensusV2Reference F round parameterSet contractValidation parameterValidation
        (some operation) observations' =
      evaluateConsensusV2Reference F round parameterSet contractValidation parameterValidation
        (some operation) observations := by
  constructor
  · intro evaluation decision heval hdecision
    rw [evaluate_eq_of_computesExactly h hexact] at heval
    obtain ⟨d, hd, heval⟩ := Except.bind_eq_ok.mp heval
    obtain rfl := Except.ok.inj heval
    obtain rfl : d = decision := by simpa [evaluated] using hdecision
    obtain ⟨houtcome, hreasons⟩ := reasons_of_assemble hd
    rw [houtcome, hreasons]
    exact exactlyDecided_operate h.nodup
  · intro observations' hperm hexact'
    have hedges : sortedIds (observations.map (·.edgeId)) =
        sortedIds (observations'.map (·.edgeId)) := sortedIds_eq_of_perm (hperm.map _)
    have hof : RowsOf observations (rowsAt observations (exactDistance observations)) :=
      rowsOf_residuals (residuals_of_computesExactly hexact)
    rw [evaluate_eq_of_computesExactly h hexact,
      evaluate_eq_of_computesExactly (h.of_perm hperm) hexact',
      operate_eq_of_perm hof h.nodup hperm (perm_rowsAt hperm)]
    simp only [decisionMembers, evaluated, hedges]

/-! ## Three edges -/

/-- The values 0, 0 and 1, with a mean of a third. -/
def thirds : List Observation :=
  [sampleProjection 1 ⟨text "0", isDecimal_zero⟩, sampleProjection 2 ⟨text "0", isDecimal_zero⟩,
    sampleProjection 3 ⟨text "1", isDecimal_one⟩]

/-- A bound between a third and a third of 28 digits. -/
def thirdsOperation : ConsensusOperationClosureV2 :=
  sampleOperation 1 ⟨text "0.33333333333333333333333333333", by decide +kernel⟩ Nat.one_pos
    (by decide +kernel)

/-- The bound 1, with all three edges required. -/
def strictOperation : ConsensusOperationClosureV2 :=
  sampleOperation 3 ⟨text "1", isDecimal_one⟩ (by decide) (by decide +kernel)

/-- A mean that is rounded keeps two edges that are outside the bound, and a failure excludes an
edge that is outside it for another reason. -/
theorem thirds_not_exactlyDecided :
    (Unblocked sampleRound sampleParameterSet validContract validParameters thirdsOperation thirds ∧
      Decides Unit sampleRound sampleParameterSet validContract validParameters thirdsOperation
        thirds .success [(sampleId 3, sampleId 15)] ∧
      ∀ item ∈ eligible thirds,
        exactDecimal thirdsOperation.maxAbsResidual < exactDistance thirds item) ∧
    Unblocked sampleRound sampleParameterSet validContract validParameters strictOperation farLast ∧
      Decides Unit sampleRound sampleParameterSet validContract validParameters strictOperation
        farLast .failure [(sampleId 1, sampleId 14), (sampleId 2, sampleId 14),
          (sampleId 3, sampleId 14)] ∧
      ∃ item ∈ eligible farLast,
        exactDecimal strictOperation.maxAbsResidual < exactDistance farLast item := by
  have hthirds : residuals defaultContext thirds = .ok
      [(sampleProjection 1 ⟨text "0", by decide⟩, 0.3333333333333333333333333333),
        (sampleProjection 2 ⟨text "0", by decide⟩, 0.3333333333333333333333333333),
        (sampleProjection 3 ⟨text "1", by decide⟩, 0.6666666666666666666666666667)] := by
    decide +kernel
  have hfarLast : residuals defaultContext farLast = .ok
      [(sampleProjection 1 ⟨text "0", by decide⟩, 1), (sampleProjection 2 ⟨text "0", by decide⟩, 1),
        (sampleProjection 3 ⟨text "3", by decide⟩, 2)] := by decide +kernel
  have hunblocked : Unblocked sampleRound sampleParameterSet validContract validParameters
      thirdsOperation thirds := ⟨by decide +kernel, by decide +kernel⟩
  have hunblocked' : Unblocked sampleRound sampleParameterSet validContract validParameters
      strictOperation farLast := ⟨by decide +kernel, by decide +kernel⟩
  refine ⟨⟨hunblocked, ?_, by decide +kernel⟩, hunblocked', ?_, by decide +kernel⟩
  · have hdecides := decides_of_rows (F := Unit) hunblocked hthirds (.inr (by decide +kernel))
    rwa [show operate thirdsOperation thirds _ = ⟨.success, [sampleId 1, sampleId 2],
      [sampleId 1, sampleId 2], [⟨sampleId 3, sampleId 15, sampleId 7⟩]⟩ by decide +kernel]
      at hdecides
  · have hdecides := decides_of_rows (F := Unit) hunblocked' hfarLast (.inl (by decide +kernel))
    rwa [show operate strictOperation farLast _ = ⟨.failure, [], [],
      [⟨sampleId 1, sampleId 14, sampleId 7⟩, ⟨sampleId 2, sampleId 14, sampleId 7⟩,
        ⟨sampleId 3, sampleId 14, sampleId 7⟩]⟩ by decide +kernel] at hdecides

theorem farLast_reverse :
    evaluateConsensusV2Reference Unit sampleRound sampleParameterSet validContract validParameters
        (some wideOperation) farLast.reverse =
      evaluateConsensusV2Reference Unit sampleRound sampleParameterSet validContract
        validParameters (some wideOperation) farLast :=
  (evaluate_of_computesExactly ⟨by decide +kernel, by decide +kernel⟩
    ⟨by decide +kernel, by decide +kernel, by decide +kernel, by decide +kernel⟩).2 farLast.reverse
    farLast.reverse_perm.symm
    ⟨by decide +kernel, by decide +kernel, by decide +kernel, by decide +kernel⟩

end TruthFingerprint.ConsensusV2
