import Mathlib
import TruthFingerprint.Lib.SignFlips
import TruthFingerprint.Lib.Sorting
import TruthFingerprint.OfflineTraining.AcademicMetrics

/-!
# Paired comparison

Two mappings of trials to values are compared by the differences of the trials that they share, and
the difference is tested by flipping signs. The arithmetic is that of an ordered field; square roots
and the signs that are drawn at random are parameters.
-/

namespace TruthFingerprint.OfflineTraining

open SignFlips

local instance atLeastTwo_tolerance : Nat.AtLeastTwo 10 := ⟨by decide⟩

structure PairedComparison (K : Type) where
  pairedTrials : ℕ
  meanDifference : Option K
  sdDifference : Option K
  cohenDz : Option K
  pValue : Option K
  method : Option String
  status : String
  undefined : Option String
  leftRandomness : Option String
  rightRandomness : Option String

variable {K : Type} [Field K] [LinearOrder K]

/-- `mean` -/
def meanOf (values : List K) : K := values.sum / values.length

/-- The trials of both mappings, sorted -/
def sharedKeys (left right : List (ℤ × K)) : List ℤ :=
  ((left.map Prod.fst).filter (· ∈ right.map Prod.fst)).insertionSort (· ≤ ·)

def pairedDifferences (left right : List (ℤ × K)) : List K :=
  (sharedKeys left right).map fun key => (left.lookup key).getD 0 - (right.lookup key).getD 0

/-- `1e-15` -/
def flipTolerance : K := 1 / 10 ^ 15

/-- The share of all sign flips with a mean as extreme as the one observed -/
def exactPValue (differences : List K) : K :=
  let permutations := signVectors differences.length
  (permutations.countP fun signs =>
      |meanOf differences| - flipTolerance ≤ |meanOf (signed differences signs)| : ℕ) /
    permutations.length

/-- The share of the flips that are drawn -/
def monteCarloPValue (differences : List K) (draws : List (List K)) : K :=
  ((draws.countP fun signs => |meanOf differences| ≤ |meanOf (signed differences signs)| : ℕ) + 1) /
    (draws.length + 1)

/-- The sample deviation, `np.std(..., ddof=1)` -/
def sampleDeviation (ops : FloatNeighbours K) (values : List K) : K :=
  ops.sqrt ((values.map fun value => (value - meanOf values) ^ 2).sum / (values.length - 1))

/-- The outcome when one side is deterministic -/
def descriptiveComparison (left right : List (ℤ × K)) (leftRandomness rightRandomness : String) :
    PairedComparison K :=
  let leftValues := left.map Prod.snd
  let rightValues := right.map Prod.snd
  { pairedTrials := 0
    meanDifference :=
      if leftValues.isEmpty || rightValues.isEmpty then none
      else some (meanOf leftValues - meanOf rightValues)
    sdDifference := none
    cohenDz := none
    pValue := none
    method := some "descriptive difference only"
    status := "descriptive-only"
    undefined := some ("inferential pairing requires genuine matched stochastic trials on both " ++
      "sides; deterministic estimates are never replicated across seed identifiers")
    leftRandomness := some leftRandomness
    rightRandomness := some rightRandomness }

section Comparison

variable (ops : FloatNeighbours K)

/-- The outcome of the differences. `draws` are the signs that are drawn for so many differences. -/
def compareDifferences (draws : ℕ → List (List K)) (differences : List K) : PairedComparison K :=
  if differences.length < 2 then
    { pairedTrials := differences.length
      meanDifference := if differences.isEmpty then none else some (meanOf differences)
      sdDifference := none
      cohenDz := none
      pValue := none
      method := none
      status := "undefined"
      undefined := some "at least two paired trials are required"
      leftRandomness := none
      rightRandomness := none }
  else
    let meanDifference := meanOf differences
    let sdDifference := sampleDeviation ops differences
    let numericalZero := max |meanDifference| 1 * (1 / 10 ^ 12)
    { pairedTrials := differences.length
      meanDifference := some meanDifference
      sdDifference := some sdDifference
      cohenDz :=
        if |sdDifference| ≤ numericalZero then none else some (meanDifference / sdDifference)
      pValue := some <|
        if differences.length ≤ 16 then exactPValue differences
        else monteCarloPValue differences (draws differences.length)
      method := some <|
        if differences.length ≤ 16 then "exact paired sign-flip permutation"
        else "Monte Carlo paired sign-flip permutation"
      status := "inferential"
      undefined := none
      leftRandomness := none
      rightRandomness := none }

/-- `choices seed size draw` are the signs of a draw. -/
def pairedComparison (choices : ℤ → ℕ → ℕ → List K) (left right : List (ℤ × K)) (seed : ℤ)
    (monteCarloReplicates : ℤ) (leftRandomness rightRandomness : String) :
    Except String (PairedComparison K) :=
  if leftRandomness ∉ ["seeded", "deterministic"] then
    .error "left_randomness must be 'seeded' or 'deterministic'."
  else if rightRandomness ∉ ["seeded", "deterministic"] then
    .error "right_randomness must be 'seeded' or 'deterministic'."
  else if monteCarloReplicates < 1 then .error "monte_carlo_replicates must be positive."
  else if leftRandomness = "deterministic" ∨ rightRandomness = "deterministic" then
    .ok (descriptiveComparison left right leftRandomness rightRandomness)
  else
    let draws (size : ℕ) := (List.range monteCarloReplicates.toNat).map (choices seed size)
    .ok (compareDifferences ops draws (pairedDifferences left right))

end Comparison

/-! ## Validity -/

section Validity

variable [IsStrictOrderedRing K] {ops : FloatNeighbours K} {choices : ℤ → ℕ → ℕ → List K}
  {left right : List (ℤ × K)} {seed monteCarloReplicates : ℤ} {differences : List K}

omit [LinearOrder K] [IsStrictOrderedRing K] in
theorem length_signed {signs : List K} (h : signs ∈ signVectors differences.length) :
    (signed differences signs).length = differences.length := by
  rw [signed, List.length_zipWith, length_of_mem_signVectors h, Nat.min_self]

omit [IsStrictOrderedRing K] in
/-- The p-value of the comparison of seeded trials -/
theorem pValue_pairedComparison (hreplicates : 1 ≤ monteCarloReplicates)
    (hmin : 2 ≤ (pairedDifferences left right).length)
    (hmax : (pairedDifferences left right).length ≤ 16) :
    ∃ comparison, pairedComparison ops choices left right seed monteCarloReplicates "seeded"
        "seeded" = .ok comparison ∧
      comparison.pValue = some (exactPValue (pairedDifferences left right)) := by
  refine ⟨compareDifferences ops (fun size => (List.range monteCarloReplicates.toNat).map
    (choices seed size)) (pairedDifferences left right), ?_, ?_⟩
  · rw [pairedComparison, if_neg (by decide), if_neg (by decide), if_neg (by omega),
      if_neg (by decide)]
  · rw [compareDifferences, if_neg (by omega), if_pos hmax]

omit [IsStrictOrderedRing K] in
/-- Flipped differences have the p-value of the flip among all flips, up to the tolerance. -/
theorem exactPValue_signed {signs : List K} (h : signs ∈ signVectors differences.length) :
    exactPValue (signed differences signs) =
      ((signVectors differences.length).countP fun other =>
        |meanOf (signed differences signs)| - flipTolerance ≤
          |meanOf (signed differences other)| : ℕ) / 2 ^ differences.length := by
  rw [exactPValue]
  simp only [length_signed h, length_signVectors, Nat.cast_pow, Nat.cast_ofNat, signed_signed]
  have hperm := (perm_map_signed h).countP_eq fun other : List K =>
    decide (|meanOf (signed differences signs)| - flipTolerance ≤
      |meanOf (signed differences other)|)
  rw [← hperm, List.countP_map]
  rfl

/-- Few flips have a small p-value. -/
theorem countP_exactPValue_le (differences : List K) {level : K} (hlevel : 0 ≤ level) :
    ((signVectors differences.length).countP fun signs =>
      exactPValue (signed differences signs) ≤ level : ℕ) ≤ level * 2 ^ differences.length := by
  have hpos : (0 : K) < 2 ^ differences.length := by positivity
  have htolerance : (0 : K) ≤ flipTolerance := by
    rw [flipTolerance]
    positivity
  refine le_trans (Nat.cast_le.mpr (List.countP_mono_left fun signs hsigns hsmall => ?_))
    (countP_countP_le (signVectors differences.length)
      (fun signs => |meanOf (signed differences signs)|) (mul_nonneg hlevel hpos.le))
  have hsmall := of_decide_eq_true hsmall
  rw [exactPValue_signed hsigns, div_le_iff₀ hpos] at hsmall
  -- The tolerance only adds flips to those that are at least as extreme.
  have hmore : (signVectors differences.length).countP (fun other =>
        |meanOf (signed differences signs)| ≤ |meanOf (signed differences other)|) ≤
      (signVectors differences.length).countP fun other =>
        |meanOf (signed differences signs)| - flipTolerance ≤
          |meanOf (signed differences other)| := by
    refine List.countP_mono_left fun other _ hle => decide_eq_true ?_
    exact (sub_le_self _ htolerance).trans (of_decide_eq_true hle)
  exact decide_eq_true ((Nat.cast_le.mpr hmore).trans hsmall)

/-! ## The two sides exchanged -/

omit [Field K] [LinearOrder K] [IsStrictOrderedRing K] in
theorem sharedKeys_comm (hleft : (left.map Prod.fst).Nodup) (hright : (right.map Prod.fst).Nodup) :
    sharedKeys right left = sharedKeys left right := by
  refine List.insertionSort_eq_of_perm id (fun _ _ _ _ => Iff.rfl) (fun _ _ _ _ h => h) ?_
  rw [List.perm_ext_iff_of_nodup (hright.filter _) (hleft.filter _)]
  intro key
  simp only [List.mem_filter, decide_eq_true_eq]
  exact and_comm

omit [LinearOrder K] [IsStrictOrderedRing K] in
theorem pairedDifferences_comm (hleft : (left.map Prod.fst).Nodup)
    (hright : (right.map Prod.fst).Nodup) :
    pairedDifferences right left = (pairedDifferences left right).map (-·) := by
  rw [pairedDifferences, pairedDifferences, sharedKeys_comm hleft hright, List.map_map]
  exact List.map_congr_left fun key _ => (neg_sub _ _).symm

omit [LinearOrder K] [IsStrictOrderedRing K] in
theorem meanOf_map_neg (values : List K) : meanOf (values.map (-·)) = -meanOf values := by
  have hsum : (values.map (-·)).sum = -values.sum := (List.sum_neg _).symm
  rw [meanOf, meanOf, List.length_map, hsum, neg_div]

omit [IsStrictOrderedRing K] in
theorem exactPValue_map_neg (differences : List K) :
    exactPValue (differences.map (-·)) = exactPValue differences := by
  rw [exactPValue, exactPValue]
  simp only [List.length_map, map_neg_signed, meanOf_map_neg, abs_neg]

omit [IsStrictOrderedRing K] in
theorem monteCarloPValue_map_neg (differences : List K) (draws : List (List K)) :
    monteCarloPValue (differences.map (-·)) draws = monteCarloPValue differences draws := by
  rw [monteCarloPValue, monteCarloPValue]
  simp only [map_neg_signed, meanOf_map_neg, abs_neg]

/-- The p-value is the same and the mean difference has the other sign. -/
structure Mirrored (comparison swapped : PairedComparison K) : Prop where
  pValue : swapped.pValue = comparison.pValue
  meanDifference : swapped.meanDifference = comparison.meanDifference.map (-·)

omit [IsStrictOrderedRing K] in
theorem mirrored_differences (draws : ℕ → List (List K)) (differences : List K) :
    Mirrored (compareDifferences ops draws differences)
      (compareDifferences ops draws (differences.map (-·))) := by
  by_cases hfew : differences.length < 2
  · rw [compareDifferences, compareDifferences, List.length_map, if_pos hfew, if_pos hfew]
    refine ⟨rfl, ?_⟩
    cases differences with
    | nil => rfl
    | cons x rest => exact congrArg some (meanOf_map_neg (x :: rest))
  · rw [compareDifferences, compareDifferences, List.length_map, if_neg hfew, if_neg hfew]
    refine ⟨?_, congrArg some (meanOf_map_neg differences)⟩
    by_cases hsize : differences.length ≤ 16
    · simp only [if_pos hsize, exactPValue_map_neg]
    · simp only [if_neg hsize, monteCarloPValue_map_neg]

omit [LinearOrder K] [IsStrictOrderedRing K] in
theorem mirrored_descriptive (left right : List (ℤ × K))
    (leftRandomness rightRandomness : String) :
    Mirrored (descriptiveComparison left right leftRandomness rightRandomness)
      (descriptiveComparison right left rightRandomness leftRandomness) := by
  refine ⟨rfl, ?_⟩
  rw [descriptiveComparison, descriptiveComparison]
  dsimp only
  rw [Bool.or_comm]
  split_ifs
  · rfl
  · exact congrArg some (neg_sub _ _).symm

omit [IsStrictOrderedRing K] in
theorem mirrored_pairedComparison (hleft : (left.map Prod.fst).Nodup)
    (hright : (right.map Prod.fst).Nodup) {leftRandomness rightRandomness : String}
    {comparison : PairedComparison K}
    (h : pairedComparison ops choices left right seed monteCarloReplicates leftRandomness
      rightRandomness = .ok comparison) :
    ∃ swapped, pairedComparison ops choices right left seed monteCarloReplicates rightRandomness
        leftRandomness = .ok swapped ∧ Mirrored comparison swapped := by
  rw [pairedComparison] at h
  split_ifs at h with hl hr hreplicates hdeterministic
  · cases h
    refine ⟨_, ?_, mirrored_descriptive left right leftRandomness rightRandomness⟩
    rw [pairedComparison, if_neg (not_not.mpr hr), if_neg (not_not.mpr hl), if_neg hreplicates,
      if_pos hdeterministic.symm]
  · cases h
    refine ⟨_, ?_, mirrored_differences _ _⟩
    rw [pairedComparison, if_neg (not_not.mpr hr), if_neg (not_not.mpr hl), if_neg hreplicates,
      if_neg fun hor => hdeterministic hor.symm, pairedDifferences_comm hleft hright]

/-! ## The test -/

/-- The p-value of an outcome is within a level. -/
def significantAt (level : K) : Except String (PairedComparison K) → Bool
  | .ok comparison => comparison.pValue.any (· ≤ level)
  | .error _ => false

/-- Of all sign flips of some differences, at most the share of the level is significant at it. -/
theorem pairedComparison_valid (ops : FloatNeighbours K) (choices : ℤ → ℕ → ℕ → List K) :
    (∀ (differences : List K) (left right : List K → List (ℤ × K)) (seed replicates : ℤ),
      2 ≤ differences.length → differences.length ≤ 16 → 1 ≤ replicates →
      (∀ signs ∈ signVectors differences.length,
        pairedDifferences (left signs) (right signs) = signed differences signs) →
      (∀ signs ∈ signVectors differences.length, ∃ comparison p,
        pairedComparison ops choices (left signs) (right signs) seed replicates "seeded" "seeded" =
          .ok comparison ∧ comparison.pValue = some p) ∧
      ∀ level, 0 ≤ level → level ≤ 1 →
        ((signVectors differences.length).countP fun signs => significantAt level
          (pairedComparison ops choices (left signs) (right signs) seed replicates "seeded"
            "seeded") : ℕ) ≤ level * 2 ^ differences.length) ∧
    ∀ (left right : List (ℤ × K)) (seed replicates : ℤ) (leftRandomness rightRandomness : String)
      (comparison : PairedComparison K), (left.map Prod.fst).Nodup → (right.map Prod.fst).Nodup →
      pairedComparison ops choices left right seed replicates leftRandomness rightRandomness =
        .ok comparison →
      ∃ swapped, pairedComparison ops choices right left seed replicates rightRandomness
          leftRandomness = .ok swapped ∧ swapped.pValue = comparison.pValue ∧
        swapped.meanDifference = comparison.meanDifference.map (-·) := by
  refine ⟨fun differences left right seed replicates hmin hmax hreplicates hdifferences => ?_,
    fun left right seed replicates leftRandomness rightRandomness comparison hleft hright h => ?_⟩
  · have hpValue (signs : List K) (hsigns : signs ∈ signVectors differences.length) :
        ∃ comparison, pairedComparison ops choices (left signs) (right signs) seed replicates
            "seeded" "seeded" = .ok comparison ∧
          comparison.pValue = some (exactPValue (signed differences signs)) := by
      have hlength := length_signed hsigns
      rw [← hdifferences signs hsigns] at hlength ⊢
      exact pValue_pairedComparison hreplicates (by omega) (by omega)
    refine ⟨fun signs hsigns => ?_, fun level hlevel _ => ?_⟩
    · obtain ⟨comparison, hok, hp⟩ := hpValue signs hsigns
      exact ⟨comparison, _, hok, hp⟩
    · refine le_trans (Nat.cast_le.mpr (List.countP_mono_left fun signs hsigns hcounted => ?_))
        (countP_exactPValue_le differences hlevel)
      obtain ⟨comparison, hok, hp⟩ := hpValue signs hsigns
      rwa [hok, significantAt, hp, Option.any_some] at hcounted
  · obtain ⟨swapped, hok, hmirrored⟩ := mirrored_pairedComparison hleft hright h
    exact ⟨swapped, hok, hmirrored.pValue, hmirrored.meanDifference⟩

end Validity

/-- Trials of some values -/
def sampleTrials (values : List ℚ) : List (ℤ × ℚ) :=
  values.zipIdx.map fun entry => (entry.2, entry.1)

/-- Two trials, and none of whose flips is significant at a third. -/
theorem sampleTrials_valid :
    ((signVectors 2).countP fun signs => significantAt (1 / 3 : ℚ) (pairedComparison
      sampleNeighbours (fun _ _ _ => []) (sampleTrials (signed [1, 2] signs)) (sampleTrials [0, 0])
      0 20000 "seeded" "seeded") : ℕ) ≤ (1 / 3 : ℚ) * 2 ^ 2 ∧
    ∃ comparison swapped : PairedComparison ℚ,
      pairedComparison sampleNeighbours (fun _ _ _ => []) (sampleTrials [1, 2])
        (sampleTrials [0, 0]) 0 20000 "seeded" "seeded" = .ok comparison ∧
      pairedComparison sampleNeighbours (fun _ _ _ => []) (sampleTrials [0, 0])
        (sampleTrials [1, 2]) 0 20000 "seeded" "seeded" = .ok swapped ∧
      swapped.pValue = comparison.pValue := by
  obtain ⟨hvalid, hmirrored⟩ := pairedComparison_valid sampleNeighbours fun _ _ _ => []
  obtain ⟨hp, hlevel⟩ := hvalid [1, 2] (fun signs => sampleTrials (signed [1, 2] signs))
    (fun _ => sampleTrials [0, 0]) 0 20000 (by decide) (by decide) (by decide) (by decide +kernel)
  refine ⟨hlevel (1 / 3) (by norm_num) (by norm_num), ?_⟩
  obtain ⟨comparison, p, hok, -⟩ := hp [1, 1] (by decide +kernel)
  have hsigned : signed [1, 2] [1, 1] = ([1, 2] : List ℚ) := by decide +kernel
  rw [hsigned] at hok
  obtain ⟨swapped, hswapped, hpValue, -⟩ := hmirrored (sampleTrials [1, 2]) (sampleTrials [0, 0]) 0
    20000 "seeded" "seeded" comparison (by decide +kernel) (by decide +kernel) hok
  exact ⟨comparison, swapped, hok, hswapped, hpValue⟩

end TruthFingerprint.OfflineTraining
