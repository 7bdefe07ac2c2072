import Mathlib
import TruthFingerprint.ConsensusV2.ReferenceLemmas

/-!
# When the reference evaluator returns

An evaluation that is not blocked returns a decision exactly when no decimal operation overflows
and, unless too few edges stay within the bound, the edges that stay are at distances from the mean
that do not decrease with their ids (`evaluates_iff`): the evaluator ranks by distance, and the
contract of the decision wants a ranking by id.
-/

namespace TruthFingerprint.ConsensusV2

open Python

variable {F : Type} [FloatOps F] {round : ConsensusRoundInputV2}
  {operation : ConsensusOperationClosureV2} {observations : List Observation}
  {rows : List (Observation × ℚ)}

/-! ## The ranking -/

/-- Among the edges that stay, a smaller id is never farther from the mean. -/
def RankedById (operation : ConsensusOperationClosureV2) (rows : List (Observation × ℚ)) : Prop :=
  ∀ x ∈ kept operation rows, ∀ y ∈ kept operation rows, x.1.edgeId < y.1.edgeId → x.2 ≤ y.2

instance : Decidable (RankedById operation rows) :=
  inferInstanceAs (Decidable (∀ x ∈ kept operation rows, ∀ y ∈ kept operation rows, _))

/-- The ranking is in the order of the ids when the distances are. -/
theorem pairwise_rankingOf_iff (hnodup : (keptEdges operation rows).Nodup) :
    (rankingOf operation rows).Pairwise (· < ·) ↔ RankedById operation rows := by
  let key (x : Observation × ℚ) : ℚ ×ₗ Digest := toLex (x.2, x.1.edgeId)
  have hsorted : ((kept operation rows).insertionSort (key · ≤ key ·)).Pairwise (key · ≤ key ·) :=
    List.pairwise_insertionSort_of_key key fun _ _ _ _ => Iff.rfl
  have hperm := List.perm_insertionSort (key · ≤ key ·) (kept operation rows)
  have hdistinct := (hperm.map fun x : Observation × ℚ => x.1.edgeId).nodup_iff.mpr hnodup
  rw [List.Nodup, List.pairwise_map] at hdistinct
  rw [rankingOf, List.pairwise_map]
  constructor
  · intro hranking
    let agree (x y : Observation × ℚ) : Prop :=
      (x.1.edgeId < y.1.edgeId → x.2 ≤ y.2) ∧ (y.1.edgeId < x.1.edgeId → y.2 ≤ x.2)
    have hsymm : Std.Symm agree := ⟨fun _ _ h => ⟨h.2, h.1⟩⟩
    have hpairs : ((kept operation rows).insertionSort (key · ≤ key ·)).Pairwise agree := by
      refine (hsorted.and hranking).imp fun h => ⟨fun _ => ?_, fun hgt => ?_⟩
      · rcases Prod.Lex.le_iff.mp h.1 with h | ⟨h, -⟩
        · exact h.le
        · exact h.le
      · exact absurd hgt h.2.asymm
    have hall := hpairs.forall_of_forall
      fun x _ => ⟨fun h => absurd h (lt_irrefl _), fun h => absurd h (lt_irrefl _)⟩
    exact fun x hx y hy => (hall (hperm.mem_iff.mpr hx) (hperm.mem_iff.mpr hy)).1
  · intro hids
    refine (hsorted.and hdistinct).imp_of_mem fun {x y} hx hy h => ?_
    obtain ⟨hle, hne⟩ := h
    rcases Prod.Lex.le_iff.mp hle with h | ⟨-, h⟩
    · rcases lt_or_gt_of_ne hne with hlt | hgt
      · exact hlt
      · exact absurd (hids y (hperm.mem_iff.mp hy) x (hperm.mem_iff.mp hx) hgt) (not_le.mpr h)
    · exact lt_of_le_of_ne h hne

/-! ## The evaluation -/

/-- A lawful result is decided when its ranking is in the order of the ids. -/
theorem exists_assemble_iff {result : OperationResult} (hne : observations ≠ [])
    (hnodup : (observations.map (·.edgeId)).Nodup)
    (hlawful : Lawful (observations.map (·.edgeId)) result) :
    (∃ d, assemble F (decisionMembers F round operation observations result) = .ok d) ↔
      result.ranking.Pairwise (· < ·) := by
  have hassemble (d : ConsensusDecisionV2) := assemble_eq_ok (d := d)
    (names_decisionMembers (F := F) round operation observations result)
    (uniqueNames_decisionMembers round operation observations result)
  constructor
  · rintro ⟨d, hd⟩
    have hdocs := (Doc.sortKeys_obj_eq_iff_map (names_decisionMembers ..)
      (names_members d) nodup_decisionMemberNames).mp ((hassemble d).mp hd)
    simp only [decisionMembers, ConsensusDecisionV2.members, List.map_cons, List.cons.injEq,
      sortKeys_eq_idsDoc, idsDoc_inj] at hdocs
    obtain ⟨-, -, -, -, -, -, -, -, hranking, -⟩ := hdocs
    exact hranking ▸ d.ranking_sorted
  · intro hranking
    refine ⟨decisionOf round operation observations result hne hnodup hlawful hranking, ?_⟩
    rw [hassemble, members_decisionOf]

variable {parameterSet : ConsensusParameterSet} {contractValidation : ConsensusContractValidation}
  {parameterValidation : ConsensusParameterValidationResult}

/-- No diagnostic blocks the evaluation. -/
structure Unblocked (round : ConsensusRoundInputV2) (parameterSet : ConsensusParameterSet)
    (contractValidation : ConsensusContractValidation)
    (parameterValidation : ConsensusParameterValidationResult)
    (operation : ConsensusOperationClosureV2) (observations : List Observation) : Prop where
  validation : validationDiagnostics contractValidation parameterValidation (some operation)
    observations = []
  closure : closureDiagnostics round parameterSet operation observations = []

theorem Unblocked.observations_ne
    (h : Unblocked round parameterSet contractValidation parameterValidation operation observations) :
    observations ≠ [] := by
  have hvalidation := h.validation
  rw [validationDiagnostics, List.append_eq_nil_iff] at hvalidation
  rintro rfl
  simp at hvalidation

theorem Unblocked.nodup
    (h : Unblocked round parameterSet contractValidation parameterValidation operation observations) :
    (observations.map (·.edgeId)).Nodup := by
  have hclosure := h.closure
  by_contra hnot
  have hprojection : ¬ProjectionClosure round observations := fun hp => hnot hp.1
  simp [closureDiagnostics, hprojection] at hclosure

/-- The evaluator returns what the operation and the assembly of the decision return. -/
theorem evaluate_eq_of_unblocked
    (h : Unblocked round parameterSet contractValidation parameterValidation operation observations) :
    evaluateConsensusV2Reference F round parameterSet contractValidation parameterValidation
      (some operation) observations = (do
        let rows ← liftDecimal (residuals defaultContext observations)
        let decision ← assemble F (decisionMembers F round operation observations
          (operate operation observations rows))
        pure (evaluated round parameterSet operation observations decision)) := by
  simp only [evaluateConsensusV2Reference, h.validation, h.closure, ne_eq, not_true_eq_false,
    if_false]

/-- The evaluator returns a decision. -/
def Evaluates (F : Type) [FloatOps F] (round : ConsensusRoundInputV2)
    (parameterSet : ConsensusParameterSet) (contractValidation : ConsensusContractValidation)
    (parameterValidation : ConsensusParameterValidationResult)
    (operation : ConsensusOperationClosureV2) (observations : List Observation) : Prop :=
  ∃ evaluation decision, evaluateConsensusV2Reference F round parameterSet contractValidation
    parameterValidation (some operation) observations = .ok evaluation ∧
      evaluation.status = .evaluated ∧ evaluation.decision = some decision

theorem liftDecimal_eq_ok {α : Type} {r : Except DecimalSignal α} {a : α} :
    liftDecimal r = .ok a ↔ r = .ok a := by
  cases r <;> simp [liftDecimal, Except.mapError]

theorem evaluates_iff_rows
    (h : Unblocked round parameterSet contractValidation parameterValidation operation observations) :
    Evaluates F round parameterSet contractValidation parameterValidation operation observations ↔
      ∃ rows, residuals defaultContext observations = .ok rows ∧
        (TooFew operation rows ∨ RankedById operation rows) := by
  have hassemble {rows : List (Observation × ℚ)}
      (hrows : residuals defaultContext observations = .ok rows) :
      (∃ d, assemble F (decisionMembers F round operation observations
        (operate operation observations rows)) = .ok d) ↔
        TooFew operation rows ∨ RankedById operation rows := by
    have hof := rowsOf_residuals hrows
    rw [exists_assemble_iff h.observations_ne h.nodup (lawful_operate hof h.nodup)]
    by_cases hfew : TooFew operation rows
    · rw [operate_of_tooFew hfew]
      exact iff_of_true .nil (.inl hfew)
    · have hkept := ((perm_edges operation hof).nodup_iff.mpr h.nodup).of_append_left
      rw [operate_of_not_tooFew hfew, pairwise_rankingOf_iff hkept]
      simp [hfew]
  constructor
  · rintro ⟨evaluation, d, heval, -⟩
    rw [evaluate_eq_of_unblocked h] at heval
    obtain ⟨rows, hrows, heval⟩ := Except.bind_eq_ok.mp heval
    obtain ⟨d, hd, -⟩ := Except.bind_eq_ok.mp heval
    rw [liftDecimal_eq_ok] at hrows
    exact ⟨rows, hrows, (hassemble hrows).mp ⟨d, hd⟩⟩
  · rintro ⟨rows, hrows, hids⟩
    obtain ⟨d, hd⟩ := (hassemble hrows).mpr hids
    refine ⟨evaluated round parameterSet operation observations d, d, ?_, rfl, rfl⟩
    rw [evaluate_eq_of_unblocked h]
    exact Except.bind_eq_ok.mpr
      ⟨rows, liftDecimal_eq_ok.mpr hrows, Except.bind_eq_ok.mpr ⟨d, hd, rfl⟩⟩

/-- An unblocked evaluation that returns at all returns a decision. -/
theorem evaluates_of_eq_ok {evaluation : ConsensusReferenceEvaluation}
    (h : Unblocked round parameterSet contractValidation parameterValidation operation observations)
    (heval : evaluateConsensusV2Reference F round parameterSet contractValidation
      parameterValidation (some operation) observations = .ok evaluation) :
    Evaluates F round parameterSet contractValidation parameterValidation operation
      observations := by
  refine ⟨evaluation, ?_⟩
  rw [evaluate_eq_of_unblocked h] at heval ⊢
  obtain ⟨rows, -, hdecision⟩ := Except.bind_eq_ok.mp heval
  obtain ⟨decision, -, hpure⟩ := Except.bind_eq_ok.mp hdecision
  obtain rfl := Except.ok.inj hpure
  exact ⟨decision, heval, rfl, rfl⟩

/-! ## The condition on the inputs -/

/-- The decimal operations on the eligible values do not overflow, and have these results. -/
structure Measured (observations : List Observation) (mean : ℚ) (distance : Observation → ℚ) :
    Prop where
  mean_eq : eligible observations ≠ [] →
    defaultContext.mean ((eligible observations).map value) = .ok mean
  distance_eq : ∀ item ∈ eligible observations,
    defaultContext.distance (value item) mean = .ok (distance item)

/-- The eligible observations at these distances. -/
def rowsAt (observations : List Observation) (distance : Observation → ℚ) :
    List (Observation × ℚ) := (eligible observations).map fun item => (item, distance item)

theorem residuals_eq_ok_iff :
    residuals defaultContext observations = .ok rows ↔
      ∃ mean distance, Measured observations mean distance ∧
        rows = rowsAt observations distance := by
  constructor
  · intro h
    unfold residuals at h
    simp only at h
    split_ifs at h with hnil
    · refine ⟨0, 0, ⟨fun hne => absurd hnil hne, by simp [hnil]⟩, ?_⟩
      rw [rowsAt, hnil, ← Except.ok.inj h]
      rfl
    · obtain ⟨mean, hmean, h⟩ := Except.bind_eq_ok.mp h
      let distance (item : Observation) : ℚ :=
        match defaultContext.distance (value item) mean with
        | .ok d => d
        | .error _ => 0
      have hdistance : ∀ item ∈ eligible observations,
          defaultContext.distance (value item) mean = .ok (distance item) := by
        intro item hitem
        obtain ⟨row, hrow⟩ := List.exists_of_mapM_eq_ok h item hitem
        obtain ⟨d, hd, -⟩ := Except.bind_eq_ok.mp hrow
        simp only [distance, hd]
      refine ⟨mean, distance, ⟨fun _ => hmean, hdistance⟩, ?_⟩
      rw [List.mapM_eq_ok (g := fun item => (item, distance item)) fun item hitem => by
        rw [hdistance item hitem]; rfl] at h
      exact (Except.ok.inj h).symm
  · rintro ⟨mean, distance, ⟨hmean, hdistance⟩, rfl⟩
    unfold residuals
    simp only
    split_ifs with hnil
    · rw [rowsAt, hnil]
      rfl
    · refine Except.bind_eq_ok.mpr ⟨mean, hmean hnil, ?_⟩
      exact List.mapM_eq_ok fun item hitem => by
        rw [hdistance item hitem]
        rfl

/-- The eligible observations within the bound. -/
def within (operation : ConsensusOperationClosureV2) (observations : List Observation)
    (distance : Observation → ℚ) : List Observation :=
  (eligible observations).filter fun item => distance item ≤ exactDecimal operation.maxAbsResidual

/-- Too few observations are within the bound, or their distances do not decrease with their ids. -/
def OrderedById (operation : ConsensusOperationClosureV2) (observations : List Observation)
    (distance : Observation → ℚ) : Prop :=
  (within operation observations distance).length < operation.minimumParticipants ∨
    ∀ x ∈ within operation observations distance, ∀ y ∈ within operation observations distance,
      x.edgeId < y.edgeId → distance x ≤ distance y

instance (distance : Observation → ℚ) :
    Decidable (OrderedById operation observations distance) :=
  inferInstanceAs (Decidable (_ ∨ (∀ x ∈ within operation observations distance,
    ∀ y ∈ within operation observations distance, _)))

theorem kept_rowsAt {distance : Observation → ℚ} :
    kept operation (rowsAt observations distance) =
      (within operation observations distance).map fun item => (item, distance item) := by
  rw [kept, rowsAt, List.filter_map, within]
  rfl

theorem orderedById_iff {distance : Observation → ℚ} :
    TooFew operation (rowsAt observations distance) ∨
      RankedById operation (rowsAt observations distance) ↔
      OrderedById operation observations distance := by
  rw [TooFew, RankedById, kept_rowsAt, OrderedById, List.length_map]
  simp only [List.forall_mem_map]

/-- An unblocked evaluation returns a decision exactly when the decimal operations do not overflow
and the edges that stay are ordered by distance as by id. -/
theorem evaluates_iff
    (h : Unblocked round parameterSet contractValidation parameterValidation operation observations) :
    Evaluates F round parameterSet contractValidation parameterValidation operation observations ↔
      ∃ mean distance, Measured observations mean distance ∧
        OrderedById operation observations distance := by
  rw [evaluates_iff_rows h]
  constructor
  · rintro ⟨rows, hrows, hids⟩
    obtain ⟨mean, distance, hmeasured, rfl⟩ := residuals_eq_ok_iff.mp hrows
    exact ⟨mean, distance, hmeasured, orderedById_iff.mp hids⟩
  · rintro ⟨mean, distance, hmeasured, hids⟩
    exact ⟨_, residuals_eq_ok_iff.mpr ⟨mean, distance, hmeasured, rfl⟩, orderedById_iff.mpr hids⟩

/-! ## Three edges -/

def sampleBasis : ComparisonBasis where
  basisId := sampleId 0
  schemaVersion := text "Basis.v2"
  canonicalBytes := text "basis-v2"
  kind := .sameProfileRawCurrent
  profileIds := [sampleId 4]
  uncertaintyParameterIds := []
  schemaVersion_ne := by decide
  ascii := by decide +kernel
  profiles_sorted := List.pairwise_singleton _ _
  uncertainty_sorted := .nil
  closure := ⟨rfl, rfl⟩

def sampleSource (edge : Fin 16) : RoundObservation :=
  ⟨sampleId edge, sampleId 5, sampleId 6, sampleId 4, 1, sampleId 7, by decide⟩

/-- A round of the edges 1, 2 and 3. -/
def sampleRound : ConsensusRoundInputV2 where
  experimentId := sampleId 8
  runId := sampleId 9
  roundId := sampleId 10
  qualificationResultId := sampleId 11
  comparisonBasis := sampleBasis
  qualityPolicyIds := [sampleId 12]
  parameterIds := []
  observations := [sampleSource 1, sampleSource 2, sampleSource 3]
  quality_ne := by simp
  quality_sorted := List.pairwise_singleton _ _
  parameters_sorted := .nil
  observations_ne := by simp
  edges_sorted := by decide +kernel
  profile_closure := by decide +kernel
  parameter_closure := by simp [sampleBasis]

def sampleOperation (minimum : Nat) (bound : DecimalString) (hminimum : 0 < minimum)
    (hbound : 0 ≤ exactDecimal bound) : ConsensusOperationClosureV2 where
  conformanceVectorIds := [sampleId 13]
  minimumParticipants := minimum
  maxAbsResidual := bound
  traceMaxEvents := 4
  noRankingReasonId := sampleId 14
  residualReasonId := sampleId 15
  vector_ne := by simp
  vector_sorted := List.pairwise_singleton _ _
  minimum_pos := hminimum
  trace_pos := by decide
  residual_nonneg := hbound

def sampleParameterSet : ConsensusParameterSet where
  parameterSetId := (sampleId 0).val
  comparisonBasisId := (sampleId 0).val
  profileId := (sampleId 4).val
  qualityPolicyId := (sampleId 12).val
  residualPolicyId := (digestOf meanCurrentResidualV1).val
  residualPolicyCanonicalBytesSha256 := (digestOf meanCurrentResidualV1).val
  residualPolicyConformanceId := (digestOf (sampleId 13).val).val

/-- A valid observation of a value. -/
def sampleProjection (edge : Fin 16) (value : DecimalString) : Observation :=
  ⟨sampleId edge, sampleId 5, sampleId 6, value, none, sampleId 7⟩

/-- The bound 5, which every value of the examples is within. -/
def wideOperation : ConsensusOperationClosureV2 :=
  sampleOperation 1 ⟨text "5", by decide⟩ (by decide) (by decide +kernel)

def validContract : ConsensusContractValidation := ⟨true, []⟩

def validParameters : ConsensusParameterValidationResult := ⟨text "valid", []⟩

theorem isDecimal_zero : DecimalText.isDecimal (text "0") := by decide

theorem isDecimal_one : DecimalText.isDecimal (text "1") := by decide

theorem isDecimal_three : DecimalText.isDecimal (text "3") := by decide

/-- The values 3, 0 and 0: the edge with the smallest id is farthest from the mean. -/
def farFirst : List Observation :=
  [sampleProjection 1 ⟨text "3", isDecimal_three⟩, sampleProjection 2 ⟨text "0", isDecimal_zero⟩,
    sampleProjection 3 ⟨text "0", isDecimal_zero⟩]

/-- The values 0, 0 and 3: the edge with the largest id is farthest from the mean. -/
def farLast : List Observation :=
  [sampleProjection 1 ⟨text "0", isDecimal_zero⟩, sampleProjection 2 ⟨text "0", isDecimal_zero⟩,
    sampleProjection 3 ⟨text "3", isDecimal_three⟩]

/-- The evaluator raises on the values 3, 0 and 0. -/
theorem farFirst_raises :
    Unblocked sampleRound sampleParameterSet validContract validParameters wideOperation farFirst ∧
      ∀ evaluation, evaluateConsensusV2Reference Unit sampleRound sampleParameterSet validContract
        validParameters (some wideOperation) farFirst ≠ .ok evaluation := by
  have hunblocked : Unblocked sampleRound sampleParameterSet validContract validParameters
      wideOperation farFirst := ⟨by decide +kernel, by decide +kernel⟩
  refine ⟨hunblocked, fun evaluation heval => ?_⟩
  obtain ⟨rows, hrows, hids⟩ := (evaluates_iff_rows hunblocked).mp (evaluates_of_eq_ok hunblocked heval)
  have hresiduals : residuals defaultContext farFirst = .ok
      [(sampleProjection 1 ⟨text "3", by decide⟩, 2), (sampleProjection 2 ⟨text "0", by decide⟩, 1),
        (sampleProjection 3 ⟨text "0", by decide⟩, 1)] := by decide +kernel
  rw [hresiduals] at hrows
  obtain rfl := Except.ok.inj hrows
  exact absurd hids (by decide +kernel)

/-- It returns a decision on the values 0, 0 and 3. -/
theorem farLast_evaluates :
    Evaluates Unit sampleRound sampleParameterSet validContract validParameters wideOperation
      farLast :=
  (evaluates_iff ⟨by decide +kernel, by decide +kernel⟩).mpr
    ⟨1, fun item => |value item - 1|, ⟨fun _ => by decide +kernel, by decide +kernel⟩,
      by decide +kernel⟩

end TruthFingerprint.ConsensusV2
