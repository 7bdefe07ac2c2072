import Mathlib
import TruthFingerprint.Lib.RankSums

/-!
# Academic metrics

The metrics of scores against binary truths: operating points at a threshold, rankings, the points
of curves and the calibration of a threshold. They are computed in an ordered field. The next
representable number below or above one, and square roots, are parameters.
-/

namespace TruthFingerprint.OfflineTraining

open RankSums

local instance atLeastTwo_metrics : Nat.AtLeastTwo 2 := ⟨le_rfl⟩

local instance atLeastTwo_slack : Nat.AtLeastTwo 10 := ⟨by decide⟩

/-- What the metrics use of floats beyond arithmetic -/
structure FloatNeighbours (K : Type) [LT K] where
  /-- `math.nextafter(x, -math.inf)` -/
  below : K → K
  /-- `math.nextafter(x, math.inf)` -/
  above : K → K
  sqrt : K → K
  below_lt : ∀ x, below x < x
  lt_above : ∀ x, x < above x

/-- The neighbours of 1 and 3 as doubles, and square roots of squares, for examples -/
def sampleNeighbours : FloatNeighbours ℚ where
  below x := x - 1 / 2 ^ 53
  above x := x + 1 / 2 ^ 51
  sqrt := Rat.sqrt
  below_lt x := sub_lt_self x (by positivity)
  lt_above x := lt_add_of_pos_right x (by positivity)

/-! ## Arrays -/

/-- A truth as it is supplied. A float is none when it is not finite. -/
inductive TruthLabel where
  | boolean (b : Bool)
  | integer (i : ℤ)
  | floating (x : Option ℚ)
  | other

/-- One for an attack, zero for a normal unit -/
def binaryLabel (i : ℤ) : Except String Bool :=
  if i = 0 then .ok false
  else if i = 1 then .ok true
  else .error "truths must contain only binary labels 0 and 1."

def normalizedTruth (index : ℕ) : TruthLabel → Except String Bool
  | .boolean _ => .error s!"truths[{index}] must not be Boolean."
  | .integer i => binaryLabel i
  | .floating none => .error s!"truths[{index}] is non-finite."
  | .floating (some x) =>
    if x.den = 1 then binaryLabel x.num else .error s!"truths[{index}] is fractional."
  | .other => .error s!"truths[{index}] must be an integer-valued numeric label."

variable {K : Type} [Field K] [LinearOrder K]

/-- `_validated_binary_arrays`: the rows of both arrays. A score is none when it is not finite. -/
def validatedBinaryArrays (scores : List (Option K)) (truths : List TruthLabel) :
    Except String (List (K × Bool)) := do
  let normalized ← truths.zipIdx.mapM fun (value, index) => normalizedTruth index value
  if scores.isEmpty then .error "scores must not be empty."
  else if scores.length ≠ normalized.length then .error "scores and truths must align."
  else
    match scores.mapM id with
    | none => .error "scores must all be finite."
    | some values => .ok (values.zip normalized)

def attackScores (rows : List (K × Bool)) : List K := (rows.filter (·.2)).map (·.1)

def normalScores (rows : List (K × Bool)) : List K := (rows.filter (!·.2)).map (·.1)

/-! ## Operating points -/

/-- `_safe_ratio` -/
def safeRatio (numerator denominator : K) : Option K :=
  if denominator = 0 then none else some (numerator / denominator)

structure ConfusionMatrix where
  tn : ℕ
  fp : ℕ
  fn : ℕ
  tp : ℕ

structure OperatingMetrics (K : Type) where
  threshold : K
  total : ℕ
  normal : ℕ
  attack : ℕ
  confusionMatrix : ConfusionMatrix
  accuracy : Option K
  precision : Option K
  recallRate : Option K
  specificity : Option K
  f1 : Option K
  falsePositiveRate : Option K
  falseNegativeRate : Option K
  balancedAccuracy : Option K
  mcc : Option K
  alertRate : K
  undefined : List String

/-- The counts of the rows at a threshold -/
def confusion (rows : List (K × Bool)) (threshold : K) : ConfusionMatrix where
  tn := rows.countP fun row => !row.2 && row.1 < threshold
  fp := rows.countP fun row => !row.2 && threshold ≤ row.1
  fn := rows.countP fun row => row.2 && row.1 < threshold
  tp := rows.countP fun row => row.2 && threshold ≤ row.1

/-- The harmonic mean of precision and recall -/
def f1Score (precision recallRate : Option K) : Option K :=
  match precision, recallRate with
  | some p, some r => if p + r = 0 then none else some (2 * p * r / (p + r))
  | _, _ => none

/-- `binary_operating_metrics` of validated arrays -/
def operatingMetrics (ops : FloatNeighbours K) (rows : List (K × Bool)) (threshold : K) :
    OperatingMetrics K :=
  let c := confusion rows threshold
  let tp : K := c.tp
  let tn : K := c.tn
  let fp : K := c.fp
  let fn : K := c.fn
  let precision := safeRatio tp (tp + fp)
  let recallRate := safeRatio tp (tp + fn)
  let specificity := safeRatio tn (tn + fp)
  let falsePositiveRate := safeRatio fp (fp + tn)
  let falseNegativeRate := safeRatio fn (fn + tp)
  let f1 := f1Score precision recallRate
  let accuracy := safeRatio (tp + tn) (tp + tn + fp + fn)
  let balancedAccuracy := recallRate.bind fun r => specificity.map fun s => (r + s) / 2
  let mcc := safeRatio (tp * tn - fp * fn)
    (ops.sqrt ((tp + fp) * (tp + fn) * (tn + fp) * (tn + fn)))
  { threshold
    total := rows.length
    normal := rows.countP (!·.2)
    attack := rows.countP (·.2)
    confusionMatrix := c
    accuracy, precision, recallRate, specificity, f1, falsePositiveRate, falseNegativeRate
    balancedAccuracy, mcc
    alertRate := (rows.countP (threshold ≤ ·.1) : K) / rows.length
    undefined :=
      ([("precision", precision), ("recall", recallRate), ("specificity", specificity),
        ("false_positive_rate", falsePositiveRate), ("false_negative_rate", falseNegativeRate),
        ("f1", f1), ("accuracy", accuracy), ("balanced_accuracy", balancedAccuracy),
        ("mcc", mcc)].filter fun entry => entry.2.isNone).map (·.1) }

/-! ## Rankings -/

/-- The ranks of runs by the indices of their elements, from a place on -/
def rankRuns (start : ℕ) : List (List (K × ℕ)) → List (ℕ × K)
  | [] => []
  | run :: rest =>
    let finish := start + run.length
    let averageRank : K := ((start + 1 : ℕ) + (finish : K)) / 2
    run.map (fun item => (item.2, averageRank)) ++ rankRuns finish rest

/-- `_average_ranks` -/
def averageRanks (values : List K) : List K :=
  let order := values.zipIdx.insertionSort (·.1 ≤ ·.1)
  let ranks := rankRuns 0 (runs (·.1) order)
  (List.range values.length).map fun index => (ranks.lookup index).getD 0

/-- What the average precision accumulates -/
structure PrecisionSum (K : Type) where
  tp : ℕ
  fp : ℕ
  averagePrecision : K

/-- A group of tied scores advances the recall. -/
def PrecisionSum.advance (positives : ℕ) (sum : PrecisionSum K) (group : List (K × Bool)) :
    PrecisionSum K :=
  let newlyPositive := group.countP (·.2)
  let tp := sum.tp + newlyPositive
  let fp := sum.fp + group.countP (!·.2)
  ⟨tp, fp, sum.averagePrecision + (newlyPositive : K) / positives * (tp / (tp + fp : ℕ))⟩

structure RankingMetrics (K : Type) where
  auroc : Option K
  auprc : Option K
  positivePrevalence : K
  undefined : List (String × String)

/-- `ranking_metrics` of validated arrays -/
def rankingMetricsOf (rows : List (K × Bool)) : RankingMetrics K :=
  let positives := rows.countP (·.2)
  let negatives := rows.countP (!·.2)
  let bothClasses := positives ≠ 0 ∧ negatives ≠ 0
  let ranks := averageRanks (rows.map (·.1))
  let positiveRankSum := (((ranks.zip (rows.map (·.2))).filter (·.2)).map (·.1)).sum
  let groups := runs (·.1) (rows.insertionSort fun x y => -x.1 ≤ -y.1)
  { auroc :=
      if bothClasses then
        some ((positiveRankSum - positives * (positives + 1) / 2) / (positives * negatives))
      else none
    auprc :=
      if positives = 0 then none
      else some (groups.foldl (PrecisionSum.advance positives) ⟨0, 0, 0⟩).averagePrecision
    positivePrevalence := (positives : K) / rows.length
    undefined :=
      (if bothClasses then [] else [("auroc", "both normal and attack support are required")]) ++
      if positives = 0 then [("auprc", "attack support is required")] else [] }

/-- `ranking_metrics` -/
def rankingMetrics (scores : List (Option K)) (truths : List TruthLabel) :
    Except String (RankingMetrics K) :=
  (validatedBinaryArrays scores truths).map rankingMetricsOf

/-! ## Thresholds -/

/-- `np.unique` -/
def unique (scores : List K) : List K := scores.dedup.insertionSort (· ≤ ·)

/-- `_candidate_thresholds` -/
def candidateThresholds (ops : FloatNeighbours K) (scores : List K) : List K :=
  match unique scores with
  | [] => []
  | [value] => [ops.below value, value, ops.above value]
  | first :: second :: rest =>
    let values := first :: second :: rest
    let midpoints := List.zipWith (fun x y => (x + y) / 2) values values.tail
    [ops.below first] ++ midpoints ++ [ops.above (values.getLast (List.cons_ne_nil _ _))]

/-! ## Curves -/

structure RocPoint (K : Type) where
  threshold : K
  falsePositiveRate : Option K
  truePositiveRate : Option K

structure PrecisionRecallPoint (K : Type) where
  threshold : K
  precision : Option K
  recallRate : Option K

structure CurvePoints (K : Type) where
  roc : List (RocPoint K)
  precisionRecall : List (PrecisionRecallPoint K)

/-- `np.linspace(0, last, count, dtype=int)` -/
def linspace (last count : ℕ) : List ℕ := (List.range count).map fun i => i * last / (count - 1)

/-- The candidates, or evenly spaced ones of them when they are too many -/
def sampledThresholds (candidates : List K) (maxPoints : ℕ) : List K :=
  if maxPoints < candidates.length then
    (linspace (candidates.length - 1) maxPoints).map (candidates.getD · 0)
  else candidates

/-- `curve_points` -/
def curvePoints (ops : FloatNeighbours K) (scores : List (Option K)) (truths : List TruthLabel)
    (maxPoints : ℤ) : Except String (CurvePoints K) :=
  if maxPoints < 2 then .error "max_points must be an integer of at least two."
  else do
    let rows ← validatedBinaryArrays scores truths
    let candidates := sampledThresholds (candidateThresholds ops (rows.map (·.1))) maxPoints.toNat
    let values := candidates.reverse.map (operatingMetrics ops rows)
    .ok {
      roc := values.map fun v => ⟨v.threshold, v.falsePositiveRate, v.recallRate⟩
      precisionRecall := values.map fun v => ⟨v.threshold, v.precision, v.recallRate⟩ }

/-! ## Calibration -/

/-- The slack `1e-15` of a rate -/
def rateSlack : K := 1 / 10 ^ 15

/-- The share of the scores that a threshold flags -/
def flaggedShare (scores : List K) (threshold : K) : K :=
  (scores.countP (threshold ≤ ·) : K) / scores.length

/-- `_threshold_at_or_below_fpr`: the lowest candidate that respects the bound, with its rate -/
def thresholdAtOrBelowFpr (ops : FloatNeighbours K) (normalScores : List K) (targetFpr : K) :
    Option (K × K) :=
  let attainable := ((candidateThresholds ops normalScores).map fun candidate =>
    (candidate, flaggedShare normalScores candidate)).filter (·.2 ≤ targetFpr + rateSlack)
  match attainable.argmin (·.1) with
  | some best => some best
  | none => normalScores.max?.map fun value => (ops.above value, 0)

structure SensitivityRow (K : Type) where
  normalQuantile : K
  threshold : K
  attainedNormalFpr : K
  falsePositiveRate : Option K
  recallRate : Option K
  f1 : Option K

structure ThresholdCalibration (K : Type) where
  method : String
  value : K
  direction : String
  total : ℕ
  normal : ℕ
  attack : ℕ
  objectiveName : String
  objectiveValue : Option K
  sensitivity : List (SensitivityRow K)

/-- What a candidate is ranked by for `max-f1`, an undefined F1 last -/
def f1Rank (ops : FloatNeighbours K) (rows : List (K × Bool)) (candidate : K) : K × K × K :=
  let metrics := operatingMetrics ops rows candidate
  (metrics.f1.getD (-1), metrics.falsePositiveRate.getD 1, candidate)

/-- The key of the ranking -/
def f1Key (row : K × K × K) : K ×ₗ K ×ₗ K := toLex (row.1, toLex (-row.2.1, row.2.2))

/-- The threshold of a method with the name and the value of its objective -/
def methodThreshold (ops : FloatNeighbours K) (rows : List (K × Bool)) (method : String)
    (quantile targetFpr : K) : Except String (K × String × Option K) :=
  let attained (bound : K) : Except String (K × String × Option K) :=
    match thresholdAtOrBelowFpr ops (normalScores rows) bound with
    | none => .error "Threshold calibration requires validation normal units."
    | some (threshold, fpr) => .ok (threshold, "attained_validation_normal_fpr", some fpr)
  if method = "normal-quantile" then
    if 0 < quantile ∧ quantile < 1 then attained (1 - quantile)
    else .error "quantile must be strictly between zero and one."
  else if method = "target-fpr" then
    if 0 < targetFpr ∧ targetFpr < 1 then attained targetFpr
    else .error "target_fpr must be strictly between zero and one."
  else if method = "max-f1" then
    if attackScores rows = [] then .error "max-f1 calibration requires validation attacks."
    else
      let ranked := (candidateThresholds ops (rows.map (·.1))).map (f1Rank ops rows)
      match ranked.argmax f1Key with
      | none => .error "max() arg is an empty sequence"
      | some best => .ok (best.2.2, "validation_f1", some best.1)
  else .error "Unsupported threshold calibration method."

/-- `calibrate_threshold`, without the identity of the result -/
def calibrateThreshold (ops : FloatNeighbours K) (scores : List (Option K))
    (truths : List TruthLabel) (method : String) (quantile targetFpr : K)
    (sensitivityQuantiles : List K) : Except String (ThresholdCalibration K) := do
  let rows ← validatedBinaryArrays scores truths
  if normalScores rows = [] then
    .error "Threshold calibration requires validation normal units."
  else if sensitivityQuantiles = [] ∨ ¬sensitivityQuantiles.Nodup ∨
      ¬∀ value ∈ sensitivityQuantiles, 0 < value ∧ value < 1 then
    .error "sensitivity_quantiles must be unique finite values strictly between zero and one."
  else do
    let (threshold, objectiveName, objectiveValue) ←
      methodThreshold ops rows method quantile targetFpr
    let sensitivity := sensitivityQuantiles.filterMap fun q =>
      (thresholdAtOrBelowFpr ops (normalScores rows) (1 - q)).map fun (candidate, attained) =>
        let metrics := operatingMetrics ops rows candidate
        { normalQuantile := q
          threshold := candidate
          attainedNormalFpr := attained
          falsePositiveRate := metrics.falsePositiveRate
          recallRate := metrics.recallRate
          f1 := metrics.f1 }
    .ok {
      method
      value := threshold
      direction := "higher-is-more-anomalous"
      total := rows.length
      normal := (normalScores rows).length
      attack := (attackScores rows).length
      objectiveName
      objectiveValue
      sensitivity }

end TruthFingerprint.OfflineTraining
