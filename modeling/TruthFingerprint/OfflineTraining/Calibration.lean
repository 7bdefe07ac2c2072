import Mathlib
import TruthFingerprint.OfflineTraining.Curves

/-!
# Calibration of thresholds

The search for a threshold is over the candidates, which split the scores in every way that a
threshold can (`exists_cut`). So what is best among them is best among all thresholds: the lowest
candidate that respects a bound of the false positive rate flags as many normal units as any
threshold that respects it, and the candidate with the greatest F1 has the greatest of all
(`calibration_optimal`).
-/

namespace TruthFingerprint.OfflineTraining

open RankSums RocCurves

variable {K : Type} [Field K] [LinearOrder K] [IsStrictOrderedRing K]

/-! ## A bound of the false positive rate -/

section Bound

variable {ops : FloatNeighbours K} {scores : List K} {bound : K} {t c : K}

theorem flaggedShare_nonneg (scores : List K) (t : K) : 0 ≤ flaggedShare scores t := by
  rw [flaggedShare]
  positivity

omit [Field K] [IsStrictOrderedRing K] in
theorem countP_ge_anti (h : t ≤ c) : scores.countP (c ≤ ·) ≤ scores.countP (t ≤ ·) :=
  List.countP_mono_left fun _ _ hx => decide_eq_true (h.trans (of_decide_eq_true hx))

/-- A threshold splits the scores as some candidate does. -/
theorem exists_candidate (ops : FloatNeighbours K) (hne : scores ≠ []) (t : K) :
    ∃ c ∈ candidateThresholds ops scores, ∀ x ∈ scores, t ≤ x ↔ c ≤ x := by
  obtain ⟨low, cuts, hcandidates, hchain, hfirst, hlast⟩ := candidateThresholds_cuts ops hne
  rw [hcandidates]
  exact exists_cut hchain (fun x hx => (hfirst x hx).le) hlast t

/-- A threshold above all scores respects every bound. -/
theorem exists_attainable (ops : FloatNeighbours K) (hne : scores ≠ []) (hbound : 0 ≤ bound) :
    ∃ c ∈ candidateThresholds ops scores, flaggedShare scores c ≤ bound := by
  obtain ⟨low, cuts, hcandidates, -, -, hlast⟩ := candidateThresholds_cuts ops hne
  rw [hcandidates]
  refine ⟨_, List.getLast_mem (List.cons_ne_nil low cuts), ?_⟩
  have hnone : scores.countP ((low :: cuts).getLast (List.cons_ne_nil _ _) ≤ ·) = 0 :=
    List.countP_eq_zero.mpr fun x hx => by simpa using hlast x hx
  rw [flaggedShare, hnone, Nat.cast_zero, zero_div]
  exact hbound

/-- The lowest candidate that respects the bound, with its rate -/
theorem thresholdAtOrBelowFpr_eq (ops : FloatNeighbours K) (hne : scores ≠ []) (hbound : 0 ≤ bound) :
    ∃ c, thresholdAtOrBelowFpr ops scores bound = some (c, flaggedShare scores c) ∧
      flaggedShare scores c ≤ bound + rateSlack ∧
      ∀ c' ∈ candidateThresholds ops scores, flaggedShare scores c' ≤ bound + rateSlack → c ≤ c' := by
  have hslack : (0 : K) ≤ rateSlack := by
    rw [rateSlack]
    positivity
  obtain ⟨c₀, hc₀, hshare⟩ := exists_attainable ops hne (add_nonneg hbound hslack)
  rw [thresholdAtOrBelowFpr]
  cases hbest : (((candidateThresholds ops scores).map fun candidate =>
      (candidate, flaggedShare scores candidate)).filter
        (·.2 ≤ bound + rateSlack)).argmin (·.1) with
  | none =>
    rw [List.argmin_eq_none, List.filter_eq_nil_iff] at hbest
    exact absurd (decide_eq_true hshare) (hbest _ (List.mem_map_of_mem hc₀))
  | some best =>
    have hmem := List.mem_filter.mp (List.argmin_mem hbest)
    obtain ⟨c, hc, rfl⟩ := List.mem_map.mp hmem.1
    refine ⟨c, rfl, of_decide_eq_true hmem.2, fun c' hc' hshare' => ?_⟩
    have hin : (c', flaggedShare scores c') ∈ ((candidateThresholds ops scores).map fun candidate =>
        (candidate, flaggedShare scores candidate)).filter (·.2 ≤ bound + rateSlack) :=
      List.mem_filter.mpr ⟨List.mem_map_of_mem hc', decide_eq_true hshare'⟩
    exact List.le_of_mem_argmin hin hbest

/-- Every threshold that flags more scores exceeds the bound. -/
theorem flaggedShare_of_more (hne : scores ≠ [])
    (hlowest : ∀ c' ∈ candidateThresholds ops scores, flaggedShare scores c' ≤ bound → c ≤ c')
    (hmore : scores.countP (c ≤ ·) < scores.countP (t ≤ ·)) : bound < flaggedShare scores t := by
  obtain ⟨c', hc', hsplit⟩ := exists_candidate ops hne t
  have hcount : scores.countP (t ≤ ·) = scores.countP (c' ≤ ·) :=
    List.countP_congr fun x hx => by simpa using hsplit x hx
  by_contra hle
  rw [not_lt, flaggedShare, hcount] at hle
  exact absurd (countP_ge_anti (hlowest c' hc' hle)) (not_le.mpr (hcount ▸ hmore))

end Bound

/-! ## The greatest F1 -/

section GreatestF1

variable {ops : FloatNeighbours K} {rows : List (K × Bool)} {t c v : K}

omit [Field K] [IsStrictOrderedRing K] in
/-- Thresholds that split the scores alike have the same counts. -/
theorem confusion_congr (h : ∀ x ∈ rows.map (·.1), t ≤ x ↔ c ≤ x) :
    confusion rows t = confusion rows c := by
  have hge : ∀ row ∈ rows, (t ≤ row.1 ↔ c ≤ row.1) :=
    fun row hrow => h _ (List.mem_map_of_mem hrow)
  have hlt : ∀ row ∈ rows, (row.1 < t ↔ row.1 < c) := fun row hrow => by
    rw [← not_le, ← not_le, hge row hrow]
  simp only [confusion, ConfusionMatrix.mk.injEq]
  refine ⟨?_, ?_, ?_, ?_⟩
  · exact List.countP_congr fun row hrow => by simp [hlt row hrow]
  · exact List.countP_congr fun row hrow => by simp [hge row hrow]
  · exact List.countP_congr fun row hrow => by simp [hlt row hrow]
  · exact List.countP_congr fun row hrow => by simp [hge row hrow]

omit [IsStrictOrderedRing K] in
theorem metrics_congr (ops : FloatNeighbours K) (h : confusion rows t = confusion rows c) :
    (operatingMetrics ops rows t).f1 = (operatingMetrics ops rows c).f1 ∧
      (operatingMetrics ops rows t).falsePositiveRate =
        (operatingMetrics ops rows c).falsePositiveRate := by
  simp only [operatingMetrics, h, and_self]

theorem safeRatio_nonneg {n d r : K} (hn : 0 ≤ n) (hd : 0 ≤ d) (h : safeRatio n d = some r) :
    0 ≤ r := by
  rw [safeRatio] at h
  split_ifs at h
  · exact Option.some.inj h ▸ div_nonneg hn hd

theorem f1_nonneg (h : (operatingMetrics ops rows t).f1 = some v) : 0 ≤ v := by
  simp only [operatingMetrics] at h
  cases hprecision : safeRatio ((confusion rows t).tp : K)
      ((confusion rows t).tp + (confusion rows t).fp) with
  | none => simp [f1Score, hprecision] at h
  | some p =>
    cases hrecall : safeRatio ((confusion rows t).tp : K)
        ((confusion rows t).tp + (confusion rows t).fn) with
    | none => simp [f1Score, hprecision, hrecall] at h
    | some r =>
      have hp := safeRatio_nonneg (by positivity) (by positivity) hprecision
      have hr := safeRatio_nonneg (by positivity) (by positivity) hrecall
      simp only [f1Score, hprecision, hrecall] at h
      split_ifs at h
      · rw [← Option.some.inj h]
        positivity

/-- A threshold that flags an attack has an F1. -/
theorem exists_f1 (ops : FloatNeighbours K) (h : (confusion rows t).tp ≠ 0) :
    ∃ v, (operatingMetrics ops rows t).f1 = some v := by
  have htp : (0 : K) < (confusion rows t).tp := Nat.cast_pos.mpr (Nat.pos_of_ne_zero h)
  have hratio : ∀ n : ℕ, ∃ r : K, 0 < r ∧
      safeRatio ((confusion rows t).tp : K) ((confusion rows t).tp + n) = some r := by
    intro n
    have hpos : (0 : K) < (confusion rows t).tp + n := by positivity
    exact ⟨_, div_pos htp hpos, if_neg hpos.ne'⟩
  obtain ⟨p, hp, hprecision⟩ := hratio (confusion rows t).fp
  obtain ⟨r, hr, hrecall⟩ := hratio (confusion rows t).fn
  refine ⟨2 * p * r / (p + r), ?_⟩
  simp only [operatingMetrics, f1Score, hprecision, hrecall]
  exact if_neg (add_pos hp hr).ne'

/-- Some candidate flags every row. -/
theorem exists_candidate_all (ops : FloatNeighbours K) (hattack : ∃ row ∈ rows, row.2 = true) :
    ∃ c ∈ candidateThresholds ops (rows.map (·.1)), (confusion rows c).tp ≠ 0 := by
  obtain ⟨row, hrow, htruth⟩ := hattack
  have hmem : row.1 ∈ rows.map (·.1) := List.mem_map_of_mem hrow
  obtain ⟨low, cuts, hcandidates, -, hfirst, -⟩ :=
    candidateThresholds_cuts ops (List.ne_nil_of_mem hmem)
  refine ⟨low, hcandidates ▸ List.mem_cons_self, ?_⟩
  have hpos : 0 < (confusion rows low).tp :=
    List.countP_pos_iff.mpr ⟨row, hrow, by simp [htruth, (hfirst _ hmem).le]⟩
  exact hpos.ne'

/-- The best of the candidates has the greatest F1 of all thresholds, and of these the smallest
false positive rate. -/
theorem best_f1Rank (hattack : ∃ row ∈ rows, row.2 = true)
    (hnormal : ∃ row ∈ rows, row.2 = false) {best : K × K × K}
    (h : ((candidateThresholds ops (rows.map (·.1))).map (f1Rank ops rows)).argmax f1Key =
      some best) :
    ∃ f1 rate, (operatingMetrics ops rows best.2.2).f1 = some f1 ∧
      (operatingMetrics ops rows best.2.2).falsePositiveRate = some rate ∧ ∀ t,
        (∀ v, (operatingMetrics ops rows t).f1 = some v → v ≤ f1) ∧
        ((operatingMetrics ops rows t).f1 = some f1 →
          ∃ r, (operatingMetrics ops rows t).falsePositiveRate = some r ∧ rate ≤ r) := by
  obtain ⟨b, hb, rfl⟩ := List.mem_map.mp (List.argmax_mem h)
  have hne : rows.map (·.1) ≠ [] :=
    List.ne_nil_of_mem (List.mem_map_of_mem (f := Prod.fst) hattack.choose_spec.1)
  have hrate := fun t => falsePositiveRate_eq ops (normalScores_ne_nil_iff.mpr hnormal) t
  -- what the search compares
  have hbest : ∀ c ∈ candidateThresholds ops (rows.map (·.1)),
      f1Key (f1Rank ops rows c) ≤ f1Key (f1Rank ops rows b) :=
    fun c hc => List.le_of_mem_argmax (List.mem_map_of_mem hc) h
  have hf1 : ∀ c ∈ candidateThresholds ops (rows.map (·.1)),
      (operatingMetrics ops rows c).f1.getD (-1) ≤ (operatingMetrics ops rows b).f1.getD (-1) := by
    intro c hc
    rcases Prod.Lex.toLex_le_toLex.mp (hbest c hc) with hlt | ⟨heq, -⟩
    · exact le_of_lt hlt
    · exact le_of_eq heq
  obtain ⟨f1, hb1⟩ : ∃ f1, (operatingMetrics ops rows b).f1 = some f1 := by
    obtain ⟨c, hc, htp⟩ := exists_candidate_all ops hattack
    obtain ⟨v, hv⟩ := exists_f1 ops htp
    have hle := hf1 c hc
    cases hb1 : (operatingMetrics ops rows b).f1 with
    | none =>
      rw [hv, hb1, Option.getD_some, Option.getD_none] at hle
      linarith [f1_nonneg hv]
    | some f1 => exact ⟨f1, rfl⟩
  refine ⟨f1, _, hb1, hrate b, fun t => ?_⟩
  obtain ⟨c, hc, hsplit⟩ := exists_candidate ops hne t
  obtain ⟨hsame, hsameRate⟩ := metrics_congr ops (confusion_congr hsplit)
  constructor
  · intro v hv
    have hle := hf1 c hc
    rwa [← hsame, hv, hb1, Option.getD_some, Option.getD_some] at hle
  · intro ht
    refine ⟨_, hrate t, ?_⟩
    rcases Prod.Lex.toLex_le_toLex.mp (hbest c hc) with hlt | ⟨-, hle⟩
    · simp [f1Rank, ← hsame, ht, hb1] at hlt
    · rcases Prod.Lex.toLex_le_toLex.mp hle with hlt | ⟨heq, -⟩
      · simp only [f1Rank, ← hsameRate, hrate, Option.getD_some] at hlt
        exact (neg_lt_neg_iff.mp hlt).le
      · simp only [f1Rank, ← hsameRate, hrate, Option.getD_some] at heq
        exact (neg_inj.mp heq).ge

end GreatestF1

/-! ## Calibration -/

section Calibrated

variable {ops : FloatNeighbours K} {scores : List (Option K)} {truths : List TruthLabel}
  {rows : List (K × Bool)} {quantile targetFpr : K} {sensitivityQuantiles : List K}

/-- What is asked of the sensitivity quantiles -/
def QuantilesValid (sensitivityQuantiles : List K) : Prop :=
  sensitivityQuantiles ≠ [] ∧ sensitivityQuantiles.Nodup ∧
    ∀ value ∈ sensitivityQuantiles, 0 < value ∧ value < 1

omit [IsStrictOrderedRing K] in
/-- The value of a calibration is the threshold of its method. -/
theorem calibrateThreshold_eq {method : String} {threshold : K} {objective : String × Option K}
    (h : validatedBinaryArrays scores truths = .ok rows) (hnormals : normalScores rows ≠ [])
    (hquantiles : QuantilesValid sensitivityQuantiles)
    (hmethod : methodThreshold ops rows method quantile targetFpr = .ok (threshold, objective)) :
    ∃ calibration, calibrateThreshold ops scores truths method quantile targetFpr
        sensitivityQuantiles = .ok calibration ∧ calibration.value = threshold := by
  obtain ⟨hne, hnodup, hrange⟩ := hquantiles
  have hvalid : ¬(sensitivityQuantiles = [] ∨ ¬sensitivityQuantiles.Nodup ∨
      ¬∀ value ∈ sensitivityQuantiles, 0 < value ∧ value < 1) := by
    rintro (hnil | hdup | hout)
    · exact hne hnil
    · exact hdup hnodup
    · exact hout hrange
  exact ⟨_, Except.bind_eq_ok.mpr ⟨rows, h, (if_neg hnormals).trans <|
    (if_neg hvalid).trans <| Except.bind_eq_ok.mpr ⟨_, hmethod, rfl⟩⟩, rfl⟩

/-- The threshold of a target flags as many normal units as the target allows. The one of the
greatest F1 has the greatest of all thresholds, and the smallest false positive rate with it. -/
theorem calibration_optimal (h : validatedBinaryArrays scores truths = .ok rows)
    (hnormal : ∃ row ∈ rows, row.2 = false) (hquantiles : QuantilesValid sensitivityQuantiles) :
    (0 < targetFpr → targetFpr < 1 → ∃ calibration,
      calibrateThreshold ops scores truths "target-fpr" quantile targetFpr
        sensitivityQuantiles = .ok calibration ∧
      flaggedShare (normalScores rows) calibration.value ≤ targetFpr + rateSlack ∧
      ∀ t, (normalScores rows).countP (calibration.value ≤ ·) <
          (normalScores rows).countP (t ≤ ·) →
        targetFpr + rateSlack < flaggedShare (normalScores rows) t) ∧
    ((∃ row ∈ rows, row.2 = true) → ∃ calibration f1 rate,
      calibrateThreshold ops scores truths "max-f1" quantile targetFpr sensitivityQuantiles =
        .ok calibration ∧
      (operatingMetrics ops rows calibration.value).f1 = some f1 ∧
      (operatingMetrics ops rows calibration.value).falsePositiveRate = some rate ∧ ∀ t,
        (∀ v, (operatingMetrics ops rows t).f1 = some v → v ≤ f1) ∧
        ((operatingMetrics ops rows t).f1 = some f1 →
          ∃ r, (operatingMetrics ops rows t).falsePositiveRate = some r ∧ rate ≤ r)) := by
  have hnormals := normalScores_ne_nil_iff.mpr hnormal
  constructor
  · intro hpos hone
    obtain ⟨c, hc, hshare, hlowest⟩ := thresholdAtOrBelowFpr_eq ops hnormals hpos.le
    have hmethod : methodThreshold ops rows "target-fpr" quantile targetFpr =
        .ok (c, "attained_validation_normal_fpr", some (flaggedShare (normalScores rows) c)) := by
      simp [methodThreshold, hpos, hone, hc]
    obtain ⟨calibration, hcalibration, rfl⟩ := calibrateThreshold_eq h hnormals hquantiles hmethod
    exact ⟨calibration, hcalibration, hshare, fun t => flaggedShare_of_more hnormals hlowest⟩
  · intro hattack
    have hattacks := attackScores_ne_nil_iff.mpr hattack
    cases hbest : ((candidateThresholds ops (rows.map (·.1))).map (f1Rank ops rows)).argmax
        f1Key with
    | none =>
      obtain ⟨c, hc, -⟩ := exists_candidate_all ops hattack
      rw [List.argmax_eq_none, List.map_eq_nil_iff] at hbest
      simp [hbest] at hc
    | some best =>
      have hmethod : methodThreshold ops rows "max-f1" quantile targetFpr =
          .ok (best.2.2, "validation_f1", some best.1) := by
        simp [methodThreshold, hattacks, hbest]
      obtain ⟨calibration, hcalibration, hvalue⟩ :=
        calibrateThreshold_eq h hnormals hquantiles hmethod
      obtain ⟨f1, rate, hf1, hrate, hoptimal⟩ := best_f1Rank hattack hnormal hbest
      exact ⟨calibration, f1, rate, hcalibration, hvalue ▸ hf1, hvalue ▸ hrate, hoptimal⟩

end Calibrated

/-- The calibrations of four rows with a tie -/
theorem sampleScores_calibrated : ∃ calibration calibration' f1 rate,
    calibrateThreshold sampleNeighbours sampleScores sampleTruths "target-fpr" (99 / 100) (1 / 2)
        [9 / 10] = .ok calibration ∧
      flaggedShare (normalScores sampleRows) calibration.value ≤ 1 / 2 + rateSlack ∧
      calibrateThreshold sampleNeighbours sampleScores sampleTruths "max-f1" (99 / 100) (1 / 2)
        [9 / 10] = .ok calibration' ∧
      (operatingMetrics sampleNeighbours sampleRows calibration'.value).f1 = some f1 ∧
      (operatingMetrics sampleNeighbours sampleRows calibration'.value).falsePositiveRate =
        some rate := by
  have hquantiles : QuantilesValid [(9 : ℚ) / 10] :=
    ⟨List.cons_ne_nil _ _, List.nodup_singleton _, by decide +kernel⟩
  obtain ⟨htarget, hf1⟩ := @calibration_optimal _ _ _ _ sampleNeighbours _ _ _ (99 / 100) (1 / 2)
    _ sampleRows_validated (by decide +kernel) hquantiles
  obtain ⟨calibration, hcalibration, hshare, -⟩ := htarget (by norm_num) (by norm_num)
  obtain ⟨calibration', f1, rate, hcalibration', hvalue, hrate, -⟩ := hf1 (by decide +kernel)
  exact ⟨calibration, calibration', f1, rate, hcalibration, hshare, hcalibration', hvalue, hrate⟩

end TruthFingerprint.OfflineTraining
