import Mathlib
import TruthFingerprint.Lib.Dict
import TruthFingerprint.Lib.Loops
import TruthFingerprint.Lib.Sorting
import TruthFingerprint.OfflineTraining.AcademicMetrics

/-!
# The area under the curve as a ranking

The ranks that the loop over runs of equal scores assigns are mean places (`averageRanks_eq`). What
the ranks of the attacks add up to is what they win over the normal units, so that the published
area is the share of pairs that are ranked right (`auroc_mannWhitney`).
-/

namespace TruthFingerprint.OfflineTraining

open RankSums

variable {K : Type}

/-! ## Validated arrays -/

/-- Whether a truth is accepted does not depend on its index. -/
theorem normalizedTruth_eq_ok {index : ℕ} {label : TruthLabel} {truth : Bool} :
    normalizedTruth index label = .ok truth ↔ normalizedTruth 0 label = .ok truth := by
  obtain b | i | (_ | x) | _ := label
  · simp [normalizedTruth]
  · rfl
  · simp [normalizedTruth]
  · rw [normalizedTruth, normalizedTruth]
    split_ifs
    · rfl
    · simp
  · simp [normalizedTruth]

/-- A finite score and an accepted truth make a row. -/
def Reads (entry : Option K × TruthLabel) (row : K × Bool) : Prop :=
  entry.1 = some row.1 ∧ normalizedTruth 0 entry.2 = .ok row.2

theorem normalizedTruths_eq_ok (start : ℕ) {truths : List TruthLabel} {normalized : List Bool} :
    ((truths.zipIdx start).mapM fun entry => normalizedTruth entry.2 entry.1) = .ok normalized ↔
      List.Forall₂ (fun label truth => normalizedTruth 0 label = .ok truth) truths normalized := by
  rw [List.mapM_eq_ok_iff]
  simp only [normalizedTruth_eq_ok]
  rw [← List.forall₂_map_left_iff (f := Prod.fst)
    (R := fun label truth => normalizedTruth 0 label = .ok truth), List.zipIdx_map_fst]

theorem finiteScores_eq_some {scores : List (Option K)} {values : List K} :
    scores.mapM id = some values ↔ scores = values.map some := by
  rw [List.mapM_eq_some_iff]
  constructor
  · intro h
    induction h with
    | nil => rfl
    | cons hx _ ih => rw [List.map_cons, ← ih, ← hx, id]
  · rintro rfl
    exact List.forall₂_map_left_iff.mpr (List.forall₂_same.mpr fun _ _ => rfl)

/-- Arrays are accepted when they are not empty, align, and every row is read. -/
theorem validatedBinaryArrays_eq_ok {scores : List (Option K)} {truths : List TruthLabel}
    {rows : List (K × Bool)} :
    validatedBinaryArrays scores truths = .ok rows ↔ scores ≠ [] ∧ scores.length = truths.length ∧
      List.Forall₂ Reads (scores.zip truths) rows := by
  rw [validatedBinaryArrays]
  constructor
  · intro h
    obtain ⟨normalized, hnormalized, h⟩ := Except.bind_eq_ok.mp h
    have htruths := (normalizedTruths_eq_ok 0).mp hnormalized
    split_ifs at h with hempty hlength
    have hlength := not_not.mp hlength
    cases hvalues : scores.mapM id with
    | none => simp [hvalues] at h
    | some values =>
      obtain rfl : values.zip normalized = rows := by simpa [hvalues] using h
      obtain rfl := finiteScores_eq_some.mp hvalues
      refine ⟨by simpa using hempty, hlength.trans htruths.length_eq.symm, ?_⟩
      rw [List.length_map] at hlength
      refine List.forall₂_iff_get.mpr ⟨?_, fun i hi hi' => ?_⟩
      · simp [htruths.length_eq]
      · have hi : i < truths.length := by simp at hi; omega
        have htruth := htruths.get hi (htruths.length_eq ▸ hi)
        simpa [Reads] using htruth
  · rintro ⟨hne, hlength, hreads⟩
    have hscores : List.Forall₂ (fun score row => score = some row.1) scores rows := by
      rw [← List.map_fst_zip hlength.le, List.forall₂_map_left_iff]
      exact hreads.imp fun _ _ h => h.1
    have htruths : List.Forall₂ (fun label row => normalizedTruth 0 label = .ok row.2) truths
        rows := by
      rw [← List.map_snd_zip hlength.ge, List.forall₂_map_left_iff]
      exact hreads.imp fun _ _ h => h.2
    have hvalues : scores.mapM id = some (rows.map (·.1)) := by
      rw [finiteScores_eq_some, List.map_map]
      exact List.forall₂_eq_eq_eq ▸ (List.forall₂_map_right_iff.mpr hscores)
    have hnormalized := (normalizedTruths_eq_ok 0).mpr
      (List.forall₂_map_right_iff (f := Prod.snd)
        (R := fun label truth => normalizedTruth 0 label = .ok truth) |>.mpr htruths)
    refine Except.bind_eq_ok.mpr ⟨rows.map Prod.snd, hnormalized, ?_⟩
    have hempty : ¬scores.isEmpty := by simpa using hne
    have haligned : ¬scores.length ≠ (rows.map Prod.snd).length := by
      simp [hscores.length_eq]
    rw [if_neg hempty, if_neg haligned, hvalues]
    exact congrArg Except.ok (List.zip_of_prod rfl rfl).symm

/-! ## Ranks -/

variable [Field K] [LinearOrder K]

omit [LinearOrder K] in
theorem map_fst_rankRuns (start : ℕ) (groups : List (List (K × ℕ))) :
    (rankRuns start groups).map Prod.fst = groups.flatten.map Prod.snd := by
  induction groups generalizing start with
  | nil => rfl
  | cons run rest ih =>
    rw [rankRuns, List.map_append, ih, List.map_map, List.flatten_cons, List.map_append]
    rfl

variable [IsStrictOrderedRing K]

/-- In sorted items every rank is the mean place of a value, counted from the start on. -/
theorem rank_of_mem {items : List (K × ℕ)} (h : items.Pairwise fun x y => x.1 ≤ y.1) {start : ℕ}
    {rank : ℕ × K} (hrank : rank ∈ rankRuns start (runs (·.1) items)) :
    ∃ value, (value, rank.1) ∈ items ∧
      rank.2 = start + midrank (items.map (·.1)) value := by
  fun_induction runs (fun x : K × ℕ => x.1) items generalizing start with
  | case1 => simp [rankRuns] at hrank
  | case2 item items ih =>
    have hequal : ∀ x ∈ item :: items.takeWhile (·.1 = item.1), x.1 = item.1 := by
      intro x hx
      rcases List.mem_cons.mp hx with rfl | hx
      · rfl
      · exact key_eq_of_mem_takeWhile hx
    have hgreater : ∀ x ∈ items.dropWhile (·.1 = item.1), item.1 < x.1 :=
      fun x hx => lt_of_mem_dropWhile h hx
    have hitems : (item :: items).map (·.1) =
        (item :: items.takeWhile (·.1 = item.1)).map (·.1) ++
          (items.dropWhile (·.1 = item.1)).map (·.1) := by
      rw [← List.map_append, List.cons_append, List.takeWhile_append_dropWhile]
    have hlength : ((item :: items.takeWhile (·.1 = item.1)).map (·.1)).length =
        (item :: items.takeWhile (·.1 = item.1)).length := List.length_map _
    rw [rankRuns, List.mem_append, List.mem_map] at hrank
    rw [hitems]
    rcases hrank with ⟨x, hx, rfl⟩ | hrank
    · -- an item of the first run
      refine ⟨item.1, ?_, ?_⟩
      · have hmem : x ∈ item :: items := List.mem_cons.mpr ((List.mem_cons.mp hx).imp_right
          fun hx => (List.takeWhile_prefix _).subset hx)
        have hx' : (item.1, x.2) = x := Prod.ext (hequal x hx).symm rfl
        exact hx'.symm ▸ hmem
      · rw [midrank_of_equal (List.forall_mem_map.mpr hequal) (List.forall_mem_map.mpr hgreater),
          hlength]
        push_cast
        ring
    · -- an item after it
      have hsorted := (List.pairwise_cons.mp h).2.sublist
        (List.dropWhile_suffix (·.1 = item.1)).sublist
      obtain ⟨value, hmem, hvalue⟩ := ih hsorted hrank
      refine ⟨value, List.mem_cons_of_mem _ ((List.dropWhile_suffix _).subset hmem), ?_⟩
      have hless : ∀ x ∈ item :: items.takeWhile (·.1 = item.1), x.1 < value :=
        fun x hx => (hequal x hx).trans_lt (hgreater _ hmem)
      rw [hvalue, midrank_of_less (List.forall_mem_map.mpr hless), hlength, Nat.cast_add, add_assoc]

/-- The ranks of values are their mean places. -/
theorem averageRanks_eq (values : List K) : averageRanks values = values.map (midrank values) := by
  let order := values.zipIdx.insertionSort (·.1 ≤ ·.1)
  let ranks := rankRuns 0 (runs (·.1) order)
  have hperm : order.Perm values.zipIdx := List.perm_insertionSort _ _
  have hsorted : order.Pairwise fun x y => x.1 ≤ y.1 :=
    List.pairwise_insertionSort_of_key (r := fun x y : K × ℕ => x.1 ≤ y.1) (·.1)
      fun _ _ _ _ => Iff.rfl
  have hkeys : (ranks.map Prod.fst).Perm (List.range values.length) := by
    rw [map_fst_rankRuns, flatten_runs]
    exact (hperm.map _).trans (by rw [List.zipIdx_map_snd, List.range_eq_range'])
  have hvalues : (order.map (·.1)).Perm values :=
    (hperm.map _).trans (by rw [List.zipIdx_map_fst])
  have hlookup : ∀ (index : ℕ) value, values[index]? = some value →
      ranks.lookup index = some (midrank values value) := by
    intro index value hvalue
    have hindex : index < values.length := (List.getElem?_eq_some_iff.mp hvalue).1
    have hnodup : (ranks.map Prod.fst).Nodup := hkeys.nodup_iff.mpr List.nodup_range
    obtain ⟨rank, hrank⟩ := Option.isSome_iff_exists.mp
      (Dict.lookup_isSome_iff.mpr (hkeys.mem_iff.mpr (List.mem_range.mpr hindex)))
    obtain ⟨value', hmem, hrankValue⟩ :=
      rank_of_mem hsorted ((Dict.lookup_eq_some_iff hnodup).mp hrank)
    have hvalue' : values[index]? = some value' :=
      List.mk_mem_zipIdx_iff_getElem?.mp (hperm.mem_iff.mp hmem)
    obtain rfl := Option.some.inj (hvalue.symm.trans hvalue')
    have hmidrank : midrank (order.map (·.1)) value = midrank values value := by
      rw [midrank, midrank, hvalues.countP_eq, hvalues.countP_eq]
    have hrankValue : rank = ((0 : ℕ) : K) + midrank (order.map (·.1)) value := hrankValue
    rw [hrank, hrankValue, Nat.cast_zero, zero_add, hmidrank]
  refine List.ext_getElem (by simp [averageRanks]) fun index h h' => ?_
  have hindex : index < values.length := by simpa using h'
  have hvalue := hlookup index _ (List.getElem?_eq_getElem hindex)
  simp only [averageRanks, List.getElem_map, List.getElem_range]
  rw [hvalue, Option.getD_some]

/-! ## The area under the curve -/

omit [Field K] [IsStrictOrderedRing K] [LinearOrder K] in
theorem length_attackScores (rows : List (K × Bool)) :
    (attackScores rows).length = rows.countP (·.2) := by
  rw [attackScores, List.length_map, List.countP_eq_length_filter]

omit [Field K] [IsStrictOrderedRing K] [LinearOrder K] in
theorem length_normalScores (rows : List (K × Bool)) :
    (normalScores rows).length = rows.countP (!·.2) := by
  rw [normalScores, List.length_map, List.countP_eq_length_filter]

omit [Field K] [IsStrictOrderedRing K] [LinearOrder K] in
theorem attackScores_append_normalScores (rows : List (K × Bool)) :
    (attackScores rows ++ normalScores rows).Perm (rows.map (·.1)) := by
  rw [attackScores, normalScores, ← List.map_append]
  exact (List.filter_append_perm (fun row : K × Bool => row.2) rows).map _

/-- The ranks that the truths select are those of the attacks. -/
theorem positiveRanks_eq (rows : List (K × Bool)) :
    (((averageRanks (rows.map (·.1))).zip (rows.map (·.2))).filter (·.2)).map (·.1) =
      (attackScores rows).map (midrank (attackScores rows ++ normalScores rows)) := by
  have hperm := attackScores_append_normalScores rows
  have hmidrank : ∀ x, midrank (attackScores rows ++ normalScores rows) x =
      midrank (rows.map (·.1)) x := by
    intro x
    rw [midrank, midrank, hperm.countP_eq, hperm.countP_eq]
  rw [averageRanks_eq, List.map_map, List.zip_map', List.filter_map, List.map_map, attackScores,
    List.map_map]
  exact List.map_congr_left fun row _ => (hmidrank row.1).symm

/-- With both classes the area is the share of the pairs that are ranked right. -/
theorem auroc_eq {rows : List (K × Bool)} (hattack : ∃ row ∈ rows, row.2 = true)
    (hnormal : ∃ row ∈ rows, row.2 = false) :
    (rankingMetricsOf rows).auroc = some (mannWhitney (attackScores rows) (normalScores rows)) := by
  have hpositives : rows.countP (·.2) ≠ 0 := by
    obtain ⟨row, hrow, htruth⟩ := hattack
    exact (List.countP_pos_iff.mpr ⟨row, hrow, htruth⟩).ne'
  have hnegatives : rows.countP (!·.2) ≠ 0 := by
    obtain ⟨row, hrow, htruth⟩ := hnormal
    exact (List.countP_pos_iff.mpr ⟨row, hrow, by simp [htruth]⟩).ne'
  simp only [rankingMetricsOf]
  rw [if_pos ⟨hpositives, hnegatives⟩, positiveRanks_eq, sum_midrank, mannWhitney_eq,
    length_attackScores, length_normalScores, add_sub_cancel_right]

section Arrays

variable {scores : List (Option K)} {truths : List TruthLabel} {rows rows' : List (K × Bool)}

omit [IsStrictOrderedRing K] in
theorem rankingMetrics_of_validated (h : validatedBinaryArrays scores truths = .ok rows) :
    rankingMetrics scores truths = .ok (rankingMetricsOf rows) := by
  rw [rankingMetrics, h]
  rfl

omit [Field K] [IsStrictOrderedRing K] [LinearOrder K] in
theorem exists_truth_map {f : K → K} {truth : Bool} (h : ∃ row ∈ rows, row.2 = truth) :
    ∃ row ∈ rows.map fun row => (f row.1, row.2), row.2 = truth := by
  obtain ⟨row, hrow, htruth⟩ := h
  exact ⟨_, List.mem_map_of_mem hrow, htruth⟩

theorem auroc_perm (h : rows'.Perm rows) (hattack : ∃ row ∈ rows, row.2 = true)
    (hnormal : ∃ row ∈ rows, row.2 = false) :
    (rankingMetricsOf rows').auroc = (rankingMetricsOf rows).auroc := by
  have hmem : ∀ {truth : Bool}, (∃ row ∈ rows, row.2 = truth) → ∃ row ∈ rows', row.2 = truth :=
    fun ⟨row, hrow, htruth⟩ => ⟨row, h.mem_iff.mpr hrow, htruth⟩
  rw [auroc_eq hattack hnormal, auroc_eq (hmem hattack) (hmem hnormal)]
  exact congrArg some (mannWhitney_perm ((h.filter _).map _) ((h.filter _).map _))

omit [Field K] [IsStrictOrderedRing K] [LinearOrder K] in
theorem attackScores_map (f : K → K) (rows : List (K × Bool)) :
    attackScores (rows.map fun row => (f row.1, row.2)) = (attackScores rows).map f := by
  rw [attackScores, attackScores, List.filter_map, List.map_map, List.map_map]
  rfl

omit [Field K] [IsStrictOrderedRing K] [LinearOrder K] in
theorem normalScores_map (f : K → K) (rows : List (K × Bool)) :
    normalScores (rows.map fun row => (f row.1, row.2)) = (normalScores rows).map f := by
  rw [normalScores, normalScores, List.filter_map, List.map_map, List.map_map]
  rfl

omit [Field K] [IsStrictOrderedRing K] [LinearOrder K] in
theorem mem_scores_of_mem_attackScores {x : K} (h : x ∈ attackScores rows) :
    x ∈ rows.map (·.1) :=
  (attackScores_append_normalScores rows).mem_iff.mp (List.mem_append_left _ h)

omit [Field K] [IsStrictOrderedRing K] [LinearOrder K] in
theorem mem_scores_of_mem_normalScores {x : K} (h : x ∈ normalScores rows) :
    x ∈ rows.map (·.1) :=
  (attackScores_append_normalScores rows).mem_iff.mp (List.mem_append_right _ h)

theorem auroc_map {f : K → K} (hf : StrictMonoOn f {x | x ∈ rows.map (·.1)})
    (hattack : ∃ row ∈ rows, row.2 = true) (hnormal : ∃ row ∈ rows, row.2 = false) :
    (rankingMetricsOf (rows.map fun row => (f row.1, row.2))).auroc =
      (rankingMetricsOf rows).auroc := by
  rw [auroc_eq hattack hnormal, auroc_eq (exists_truth_map hattack) (exists_truth_map hnormal),
    attackScores_map, normalScores_map, mannWhitney_map]
  intro x hx y hy
  have hx := mem_scores_of_mem_attackScores hx
  have hy := mem_scores_of_mem_normalScores hy
  exact ⟨hf.lt_iff_lt hy hx, hf.injOn.eq_iff hy hx⟩

theorem auroc_neg (hattack : ∃ row ∈ rows, row.2 = true) (hnormal : ∃ row ∈ rows, row.2 = false) :
    (rankingMetricsOf (rows.map fun row => (-row.1, row.2))).auroc =
      (rankingMetricsOf rows).auroc.map (1 - ·) := by
  have hne : ∀ {p : K × Bool → Bool}, (∃ row ∈ rows, p row) → (rows.filter p).map (·.1) ≠ [] := by
    rintro p ⟨row, hrow, hp⟩ hnil
    rw [List.map_eq_nil_iff, List.filter_eq_nil_iff] at hnil
    exact hnil row hrow hp
  rw [auroc_eq hattack hnormal, auroc_eq (exists_truth_map hattack) (exists_truth_map hnormal),
    attackScores_map, normalScores_map, Option.map_some]
  refine congrArg some (mannWhitney_neg (hne hattack) (hne ?_))
  obtain ⟨row, hrow, htruth⟩ := hnormal
  exact ⟨row, hrow, by simp [htruth]⟩

omit [Field K] [IsStrictOrderedRing K] [LinearOrder K] in
/-- Rows that are supplied in another order are read in another order. -/
theorem validated_perm (h : validatedBinaryArrays scores truths = .ok rows)
    {scores' : List (Option K)} {truths' : List TruthLabel}
    (hperm : (scores'.zip truths').Perm (scores.zip truths))
    (hlength : scores'.length = truths'.length) :
    ∃ rows', validatedBinaryArrays scores' truths' = .ok rows' ∧ rows'.Perm rows := by
  obtain ⟨hne, halign, hreads⟩ := validatedBinaryArrays_eq_ok.mp h
  obtain ⟨rows', hreads', hrows⟩ := List.perm_comp_forall₂ hperm hreads
  refine ⟨rows', validatedBinaryArrays_eq_ok.mpr ⟨?_, hlength, hreads'⟩, hrows⟩
  have hsize := hperm.length_eq
  rw [List.length_zip, List.length_zip, ← hlength, ← halign, min_self, min_self] at hsize
  exact List.ne_nil_of_length_pos (hsize ▸ List.length_pos_of_ne_nil hne)

omit [Field K] [IsStrictOrderedRing K] [LinearOrder K] in
theorem validated_map (h : validatedBinaryArrays scores truths = .ok rows) (f : K → K) :
    validatedBinaryArrays (scores.map (Option.map f)) truths =
      .ok (rows.map fun row => (f row.1, row.2)) := by
  obtain ⟨hne, halign, hreads⟩ := validatedBinaryArrays_eq_ok.mp h
  refine validatedBinaryArrays_eq_ok.mpr ⟨by simpa using hne, by simpa using halign, ?_⟩
  rw [List.zip_map_left, List.forall₂_map_left_iff, List.forall₂_map_right_iff]
  exact hreads.imp fun _ _ ⟨hscore, htruth⟩ => ⟨congrArg (Option.map f) hscore, htruth⟩

omit [Field K] [IsStrictOrderedRing K] [LinearOrder K] in
theorem scores_eq_of_validated (h : validatedBinaryArrays scores truths = .ok rows) :
    scores = rows.map (some ·.1) := by
  obtain ⟨-, halign, hreads⟩ := validatedBinaryArrays_eq_ok.mp h
  have hscores : List.Forall₂ (fun score row => score = some row.1) scores rows := by
    rw [← List.map_fst_zip halign.le, List.forall₂_map_left_iff]
    exact hreads.imp fun _ _ h => h.1
  exact List.forall₂_eq_eq_eq ▸ List.forall₂_map_right_iff.mpr hscores

/-- The published area is the share of the pairs of an attack and a normal unit in which the attack
is scored higher, ties counted half. It depends neither on the order of the rows nor on the scale
of the scores, and negated scores give the complement. -/
theorem auroc_mannWhitney (h : validatedBinaryArrays scores truths = .ok rows)
    (hattack : ∃ row ∈ rows, row.2 = true) (hnormal : ∃ row ∈ rows, row.2 = false) :
    ∃ metrics, rankingMetrics scores truths = .ok metrics ∧
      metrics.auroc = some (mannWhitney (attackScores rows) (normalScores rows)) ∧
      (∀ scores' truths', (scores'.zip truths').Perm (scores.zip truths) →
        scores'.length = truths'.length → ∃ metrics', rankingMetrics scores' truths' = .ok metrics' ∧
          metrics'.auroc = metrics.auroc) ∧
      (∀ f : K → K, StrictMonoOn f {x | some x ∈ scores} →
        ∃ metrics', rankingMetrics (scores.map (Option.map f)) truths = .ok metrics' ∧
          metrics'.auroc = metrics.auroc) ∧
      ∃ metrics', rankingMetrics (scores.map (Option.map Neg.neg)) truths = .ok metrics' ∧
        metrics'.auroc = metrics.auroc.map (1 - ·) := by
  refine ⟨_, rankingMetrics_of_validated h, auroc_eq hattack hnormal, ?_, ?_, ?_⟩
  · intro scores' truths' hperm hlength
    obtain ⟨rows', h', hrows⟩ := validated_perm h hperm hlength
    exact ⟨_, rankingMetrics_of_validated h', auroc_perm hrows hattack hnormal⟩
  · intro f hf
    refine ⟨_, rankingMetrics_of_validated (validated_map h f), auroc_map ?_ hattack hnormal⟩
    refine hf.mono fun x hx => ?_
    obtain ⟨row, hrow, rfl⟩ := List.mem_map.mp hx
    have hscore : some row.1 ∈ scores := by
      rw [scores_eq_of_validated h]
      exact List.mem_map_of_mem hrow
    exact hscore
  · exact ⟨_, rankingMetrics_of_validated (validated_map h Neg.neg), auroc_neg hattack hnormal⟩

end Arrays

/-! ## A tie -/

def sampleScores : List (Option ℚ) := [some 1, some 2, some 3, some 2]

def sampleTruths : List TruthLabel := [.integer 0, .floating (some 1), .integer 1, .integer 0]

def sampleRows : List (ℚ × Bool) := [(1, false), (2, true), (3, true), (2, false)]

theorem sampleRows_validated : validatedBinaryArrays sampleScores sampleTruths = .ok sampleRows :=
  Except.eq_ok_of_toOption (by decide +kernel)

/-- Of the four pairs three are ranked right and one is tied. -/
theorem sampleScores_auroc : ∃ metrics,
    rankingMetrics sampleScores sampleTruths = .ok metrics ∧ metrics.auroc = some (7 / 8) := by
  obtain ⟨metrics, hmetrics, hauroc, -⟩ := auroc_mannWhitney sampleRows_validated
    (by decide +kernel) (by decide +kernel)
  refine ⟨metrics, hmetrics, hauroc.trans ?_⟩
  decide +kernel

end TruthFingerprint.OfflineTraining
