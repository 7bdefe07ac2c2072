import Mathlib
import TruthFingerprint.Lib.RocCurves
import TruthFingerprint.OfflineTraining.Rankings

/-!
# Curves

The candidate thresholds are cuts between all different scores, one below and one above them
(`candidateThresholds_cuts`). Rates at a threshold are shares at a cut, so that the published curve
begins at (0, 0), ends at (1, 1) and never falls, and without sampling covers the published area
(`roc_auroc`).
-/

namespace TruthFingerprint.OfflineTraining

open RankSums RocCurves

variable {K : Type} [Field K] [LinearOrder K]

/-! ## Candidates -/

omit [Field K] in
theorem mem_unique {scores : List K} {x : K} : x ∈ unique scores ↔ x ∈ scores := by
  rw [unique, List.mem_insertionSort, List.mem_dedup]

omit [Field K] in
theorem unique_sorted (scores : List K) : (unique scores).Pairwise (· < ·) := by
  have hnodup : (unique scores).Nodup :=
    (List.perm_insertionSort _ _).nodup_iff.mpr (List.nodup_dedup scores)
  have hsorted : (unique scores).Pairwise (· ≤ ·) := List.pairwise_insertionSort _ _
  exact hsorted.imp₂ (fun _ _ hle hne => lt_of_le_of_ne hle hne) hnodup

omit [LinearOrder K] in
theorem cutsAfter_eq (above : K → K) (a : K) (values : List K) :
    cutsAfter above a values = List.zipWith (fun x y => (x + y) / 2) (a :: values) values ++
      [above ((a :: values).getLast (List.cons_ne_nil _ _))] := by
  induction values generalizing a with
  | nil => rfl
  | cons b values ih =>
    rw [cutsAfter, ih, List.zipWith_cons_cons, List.cons_append,
      List.getLast_cons (List.cons_ne_nil b values)]

variable [IsStrictOrderedRing K]

/-- The candidates are narrow cuts that begin below all scores and end above them. -/
theorem candidateThresholds_cuts (ops : FloatNeighbours K) {scores : List K} (hne : scores ≠ []) :
    ∃ low cuts, candidateThresholds ops scores = low :: cuts ∧
      (low :: cuts).IsChain (Narrow scores) ∧ (∀ x ∈ scores, low < x) ∧
      ∀ x ∈ scores, x < (low :: cuts).getLast (List.cons_ne_nil _ _) := by
  have hsorted := unique_sorted scores
  have hmem : ∀ x ∈ scores, x ∈ unique scores := fun x hx => mem_unique.mpr hx
  rw [candidateThresholds]
  cases hunique : unique scores with
  | nil =>
    obtain ⟨x, hx⟩ := List.exists_mem_of_ne_nil scores hne
    simpa [hunique] using hmem x hx
  | cons a values =>
    rw [hunique] at hsorted hmem
    have hfrom : ∀ x ∈ scores, a ≤ x := by
      intro x hx
      rcases List.mem_cons.mp (hmem x hx) with rfl | hx
      · exact le_rfl
      · exact ((List.pairwise_cons.mp hsorted).1 x hx).le
    cases values with
    | nil =>
      have hone : ∀ x ∈ scores, x = a := fun x hx => List.mem_singleton.mp (hmem x hx)
      refine ⟨ops.below a, [a, ops.above a], rfl, ?_, ?_, ?_⟩
      · refine .cons_cons ⟨ops.below_lt a, ?_⟩ (.cons_cons ⟨ops.lt_above a, ?_⟩ (.singleton _))
        · intro x hx y hy _ _ _ _
          rw [hone x hx, hone y hy]
        · intro x hx y hy _ _ _ _
          rw [hone x hx, hone y hy]
      · intro x hx
        exact hone x hx ▸ ops.below_lt x
      · intro x hx
        simpa [hone x hx] using ops.lt_above a
    | cons b values =>
      have hcuts := cutsAfter_eq ops.above a (b :: values)
      refine ⟨ops.below a, cutsAfter ops.above a (b :: values), ?_, ?_, ?_, ?_⟩
      · rw [hcuts]
        rfl
      · exact isChain_cutsAfter ops.lt_above hsorted
          (fun x hx => (List.mem_cons.mp (hmem x hx)).imp_left le_of_eq) (ops.below_lt a).le
          fun x hx _ => hfrom x hx
      · exact fun x hx => (ops.below_lt a).trans_le (hfrom x hx)
      · intro x hx
        rw [List.getLast_cons (cutsAfter_ne_nil _ _ _)]
        exact lt_getLast_cutsAfter ops.lt_above hsorted x (hmem x hx)

/-! ## Rates -/

section Rates

variable {rows : List (K × Bool)}

omit [Field K] [IsStrictOrderedRing K] [LinearOrder K] in
theorem attackScores_ne_nil_iff : attackScores rows ≠ [] ↔ ∃ row ∈ rows, row.2 = true := by
  rw [attackScores, ne_eq, List.map_eq_nil_iff, List.filter_eq_nil_iff]
  push Not
  rfl

omit [Field K] [IsStrictOrderedRing K] [LinearOrder K] in
theorem normalScores_ne_nil_iff : normalScores rows ≠ [] ↔ ∃ row ∈ rows, row.2 = false := by
  rw [normalScores, ne_eq, List.map_eq_nil_iff, List.filter_eq_nil_iff]
  push Not
  simp

omit [Field K] [IsStrictOrderedRing K] [LinearOrder K] in
theorem countP_normalScores (p : K → Bool) :
    rows.countP (fun row => !row.2 && p row.1) = (normalScores rows).countP p := by
  rw [normalScores, List.countP_map, List.countP_filter]
  exact List.countP_congr fun row _ => by simp [and_comm]

omit [Field K] [IsStrictOrderedRing K] [LinearOrder K] in
theorem countP_attackScores (p : K → Bool) :
    rows.countP (fun row => row.2 && p row.1) = (attackScores rows).countP p := by
  rw [attackScores, List.countP_map, List.countP_filter]
  exact List.countP_congr fun row _ => by simp [and_comm]

omit [Field K] [IsStrictOrderedRing K] in
theorem countP_ge_add_lt (l : List K) (t : K) :
    l.countP (t ≤ ·) + l.countP (· < t) = l.length := by
  rw [← List.countP_eq_length.mpr fun x (_ : x ∈ l) => rfl]
  exact (countP_eq_add (fun x _ => by simp [le_or_gt]) fun x _ h => by simpa using h).symm

omit [Field K] [IsStrictOrderedRing K] in
/-- The counts at a threshold are counts of the attacks and of the normal units. -/
theorem confusion_eq (rows : List (K × Bool)) (t : K) : confusion rows t =
    ⟨(normalScores rows).countP (· < t), (normalScores rows).countP (t ≤ ·),
      (attackScores rows).countP (· < t), (attackScores rows).countP (t ≤ ·)⟩ := by
  rw [confusion, countP_normalScores fun x => x < t, countP_normalScores fun x => t ≤ x,
    countP_attackScores fun x => x < t, countP_attackScores fun x => t ≤ x]

/-- A share of a list that is not empty -/
theorem safeRatio_share {l : List K} (hl : l ≠ []) (t : K) :
    safeRatio (l.countP (t ≤ ·) : K) (l.countP (t ≤ ·) + l.countP (· < t)) =
      some ((l.countP (t ≤ ·) : K) / l.length) := by
  have hne : (l.length : K) ≠ 0 := Nat.cast_ne_zero.mpr (List.length_pos_of_ne_nil hl).ne'
  rw [← Nat.cast_add, countP_ge_add_lt, safeRatio, if_neg hne]

/-- The rates of the normal units and of the attacks are shares at the threshold. -/
theorem falsePositiveRate_eq (ops : FloatNeighbours K) (hnormal : normalScores rows ≠ []) (t : K) :
    (operatingMetrics ops rows t).falsePositiveRate =
      some (((normalScores rows).countP (t ≤ ·) : K) / (normalScores rows).length) := by
  rw [operatingMetrics, confusion_eq]
  exact safeRatio_share hnormal t

theorem recallRate_eq (ops : FloatNeighbours K) (hattack : attackScores rows ≠ []) (t : K) :
    (operatingMetrics ops rows t).recallRate =
      some (((attackScores rows).countP (t ≤ ·) : K) / (attackScores rows).length) := by
  rw [operatingMetrics, confusion_eq]
  exact safeRatio_share hattack t

end Rates

/-! ## Sampled candidates -/

section Sampled

variable {candidates : List K} {count maxPoints last : ℕ}

theorem linspace_sorted (last count : ℕ) : (linspace last count).Pairwise (· ≤ ·) := by
  rw [linspace, List.pairwise_map]
  exact List.pairwise_lt_range.imp fun {i j} hij =>
    Nat.div_le_div_right (Nat.mul_le_mul_right _ hij.le)

theorem le_of_mem_linspace {i : ℕ} (h : i ∈ linspace last count) : i ≤ last := by
  obtain ⟨k, hk, rfl⟩ := List.mem_map.mp h
  have hk := List.mem_range.mp hk
  rcases Nat.eq_zero_or_pos (count - 1) with hzero | hpos
  · rw [hzero, Nat.div_zero]
    exact Nat.zero_le _
  · calc k * last / (count - 1) ≤ (count - 1) * last / (count - 1) :=
          Nat.div_le_div_right (Nat.mul_le_mul_right _ (by omega))
      _ = last := Nat.mul_div_cancel_left _ hpos

theorem head?_linspace (hcount : 2 ≤ count) : (linspace last count).head? = some 0 := by
  obtain ⟨n, rfl⟩ : ∃ n, count = n + 1 := ⟨count - 1, by omega⟩
  simp [linspace, List.range_succ_eq_map]

theorem getLast?_linspace (hcount : 2 ≤ count) : (linspace last count).getLast? = some last := by
  obtain ⟨n, rfl⟩ : ∃ n, count = n + 1 := ⟨count - 1, by omega⟩
  have hdiv : n * last / n = last := Nat.mul_div_cancel_left _ (by omega)
  simp [linspace, List.range_succ, hdiv]

omit [LinearOrder K] [IsStrictOrderedRing K] in
/-- A sample keeps both ends. -/
theorem sampledThresholds_ends (hmax : 2 ≤ maxPoints) (hne : candidates ≠ []) :
    (sampledThresholds candidates maxPoints).head? = candidates.head? ∧
      (sampledThresholds candidates maxPoints).getLast? = candidates.getLast? := by
  have hpos := List.length_pos_of_ne_nil hne
  rw [sampledThresholds]
  split_ifs
  · rw [List.head?_map, head?_linspace hmax, List.getLast?_map, getLast?_linspace hmax,
      List.head?_eq_getElem?, List.getLast?_eq_getElem?, List.getElem?_eq_getElem hpos,
      List.getElem?_eq_getElem (by omega)]
    simp [hpos]
  · exact ⟨rfl, rfl⟩

omit [IsStrictOrderedRing K] in
theorem sampledThresholds_sorted (h : candidates.Pairwise (· ≤ ·)) (hne : candidates ≠ []) :
    (sampledThresholds candidates maxPoints).Pairwise (· ≤ ·) := by
  have hpos := List.length_pos_of_ne_nil hne
  rw [sampledThresholds]
  split_ifs
  · rw [List.pairwise_map]
    refine (linspace_sorted _ _).imp_of_mem fun {i j} hi hj hij => ?_
    have hi : i < candidates.length := by have := le_of_mem_linspace hi; omega
    have hj : j < candidates.length := by have := le_of_mem_linspace hj; omega
    rw [List.getD_eq_getElem _ _ hi, List.getD_eq_getElem _ _ hj]
    rcases hij.eq_or_lt with rfl | hlt
    · exact le_rfl
    · exact List.pairwise_iff_getElem.mp h i j hi hj hlt
  · exact h

end Sampled

/-! ## The published curve -/

section Published

variable {ops : FloatNeighbours K} {scores : List (Option K)} {truths : List TruthLabel}
  {rows : List (K × Bool)} {maxPoints : ℤ}

/-- The points of the curve, both rates defined -/
def PublishedAt (curves : CurvePoints K) (points : List (K × K)) : Prop :=
  curves.roc.map (fun p => (p.falsePositiveRate, p.truePositiveRate)) =
    points.map fun p => (some p.1, some p.2)

theorem curvePoints_eq (ops : FloatNeighbours K) (h : validatedBinaryArrays scores truths = .ok rows)
    (hattack : attackScores rows ≠ []) (hnormal : normalScores rows ≠ []) (hmax : 2 ≤ maxPoints) :
    ∃ curves, curvePoints ops scores truths maxPoints = .ok curves ∧ PublishedAt curves
      ((sampledThresholds (candidateThresholds ops (rows.map (·.1))) maxPoints.toNat).reverse.map
        (cutPoint (attackScores rows) (normalScores rows))) := by
  refine ⟨_, (if_neg (not_lt.mpr hmax)).trans (Except.bind_eq_ok.mpr ⟨rows, h, rfl⟩), ?_⟩
  rw [PublishedAt]
  simp only [List.map_map]
  refine List.map_congr_left fun t _ => ?_
  exact Prod.ext (falsePositiveRate_eq ops hnormal t) (recallRate_eq ops hattack t)

/-- The candidates of the rows, as cuts of the attacks and the normal units -/
theorem rowCandidates_cuts (ops : FloatNeighbours K) (hne : rows ≠ []) :
    ∃ low cuts, candidateThresholds ops (rows.map (·.1)) = low :: cuts ∧
      (low :: cuts).IsChain (Narrow (attackScores rows ++ normalScores rows)) ∧
      (∀ x ∈ attackScores rows ++ normalScores rows, low < x) ∧
      ∀ x ∈ attackScores rows ++ normalScores rows,
        x < (low :: cuts).getLast (List.cons_ne_nil _ _) := by
  have hmem : ∀ x ∈ attackScores rows ++ normalScores rows, x ∈ rows.map (·.1) :=
    fun x hx => (attackScores_append_normalScores rows).mem_iff.mp hx
  obtain ⟨low, cuts, hcandidates, hchain, hfirst, hlast⟩ :=
    candidateThresholds_cuts ops (by simpa using hne : rows.map (·.1) ≠ [])
  refine ⟨low, cuts, hcandidates, hchain.imp fun x y hnarrow => ⟨hnarrow.1, ?_⟩,
    fun x hx => hfirst x (hmem x hx), fun x hx => hlast x (hmem x hx)⟩
  exact fun x hx y hy => hnarrow.2 x (hmem x hx) y (hmem y hy)

omit [Field K] [IsStrictOrderedRing K] in
theorem pairwise_of_isChain_narrow {l cuts : List K} (h : cuts.IsChain (Narrow l)) :
    cuts.Pairwise (· < ·) :=
  List.isChain_iff_pairwise.mp (h.imp fun _ _ hnarrow => hnarrow.1)

/-- The published curve begins at (0, 0), ends at (1, 1) and does not fall. When no candidate is
left out, the area under it is the published one. -/
theorem roc_auroc (h : validatedBinaryArrays scores truths = .ok rows)
    (hattack : ∃ row ∈ rows, row.2 = true) (hnormal : ∃ row ∈ rows, row.2 = false)
    (hmax : 2 ≤ maxPoints) :
    ∃ curves points, curvePoints ops scores truths maxPoints = .ok curves ∧
      PublishedAt curves points ∧ points.head? = some (0, 0) ∧ points.getLast? = some (1, 1) ∧
      points.Pairwise (fun p q => p.1 ≤ q.1 ∧ p.2 ≤ q.2) ∧
      ((candidateThresholds ops (rows.map (·.1))).length ≤ maxPoints →
        ∃ metrics, rankingMetrics scores truths = .ok metrics ∧
          metrics.auroc = some (trapezoidArea points)) := by
  have hattacks := attackScores_ne_nil_iff.mpr hattack
  have hnormals := normalScores_ne_nil_iff.mpr hnormal
  have hrows : rows ≠ [] := List.ne_nil_of_mem hattack.choose_spec.1
  obtain ⟨curves, hcurves, hpublished⟩ := curvePoints_eq ops h hattacks hnormals hmax
  obtain ⟨low, cuts, hcandidates, hchain, hfirst, hlast⟩ := rowCandidates_cuts ops hrows
  have hsorted : (candidateThresholds ops (rows.map (·.1))).Pairwise (· < ·) :=
    hcandidates ▸ pairwise_of_isChain_narrow hchain
  have hne : candidateThresholds ops (rows.map (·.1)) ≠ [] := by simp [hcandidates]
  obtain ⟨hhead, hend⟩ := sampledThresholds_ends (by omega : 2 ≤ maxPoints.toNat) hne
  refine ⟨curves, _, hcurves, hpublished, ?_, ?_, ?_, ?_⟩
  · -- above all scores
    have hzero := cutPoint_eq_zero (fun x hx => hlast x (List.mem_append_left _ hx))
      fun x hx => hlast x (List.mem_append_right _ hx)
    rw [List.head?_map, List.head?_reverse, hend, hcandidates,
      List.getLast?_eq_some_getLast (List.cons_ne_nil _ _), Option.map_some, hzero]
  · -- below all scores
    have hone := cutPoint_eq_one hattacks hnormals
      (fun x hx => (hfirst x (List.mem_append_left _ hx)).le)
      fun x hx => (hfirst x (List.mem_append_right _ hx)).le
    rw [List.getLast?_map, List.getLast?_reverse, hhead, hcandidates, List.head?_cons,
      Option.map_some, hone]
  · rw [List.pairwise_map, List.pairwise_reverse]
    exact (sampledThresholds_sorted (hsorted.imp le_of_lt) hne).imp fun hle => cutPoint_le hle
  · intro hfew
    refine ⟨_, rankingMetrics_of_validated h, (auroc_eq hattack hnormal).trans ?_⟩
    have hall : sampledThresholds (candidateThresholds ops (rows.map (·.1))) maxPoints.toNat =
        low :: cuts := by
      rw [sampledThresholds, if_neg (by omega), hcandidates]
    have hreverse : (low :: cuts).reverse =
        (low :: cuts).getLast (List.cons_ne_nil _ _) :: ((low :: cuts).dropLast).reverse := by
      conv_lhs => rw [← List.dropLast_append_getLast (List.cons_ne_nil low cuts)]
      rw [List.reverse_append, List.reverse_singleton, List.singleton_append]
    have hdescending := List.isChain_reverse.mpr hchain
    rw [hreverse] at hdescending
    have hbelow : ∀ x ∈ normalScores rows,
        (((low :: cuts).getLast (List.cons_ne_nil _ _) :: ((low :: cuts).dropLast).reverse).getLast
          (List.cons_ne_nil _ _)) ≤ x := by
      intro x hx
      have hlow := (hfirst x (List.mem_append_right _ hx)).le
      have hend : (low :: cuts).reverse.getLast (by simp) = low := by simp
      simp only [hreverse] at hend
      rwa [hend]
    rw [hall, hreverse, area_eq_mannWhitney hattacks hnormals hdescending
      (fun x hx => hlast x (List.mem_append_right _ hx)) hbelow]

end Published

/-- The curve of four rows with a tie covers the area of their ranking. -/
theorem sampleScores_roc : ∃ curves points,
    curvePoints sampleNeighbours sampleScores sampleTruths 201 = .ok curves ∧
      PublishedAt curves points ∧ points.head? = some (0, 0) ∧ points.getLast? = some (1, 1) ∧
      ∃ metrics, rankingMetrics sampleScores sampleTruths = .ok metrics ∧
        metrics.auroc = some (trapezoidArea points) := by
  obtain ⟨curves, points, hcurves, hpublished, hhead, hend, -, harea⟩ :=
    roc_auroc sampleRows_validated (by decide +kernel)
      (by decide +kernel) (by decide : (2 : ℤ) ≤ 201)
  exact ⟨curves, points, hcurves, hpublished, hhead, hend, harea (by decide +kernel)⟩

end TruthFingerprint.OfflineTraining
