import TruthFingerprint.Lib.EvenGrid
import TruthFingerprint.OfflineTraining.Preprocessing

/-!
# Thinning of windows

A unit that is longer than a window is cut at every `stride`-th row and at its last possible start.
Of too many starts those are kept that stand on an even grid, which has the first start and, with
two windows, the last (`slidingWindows_spec`).
-/

namespace TruthFingerprint.OfflineTraining

open EvenGrid (positions mapM_positions)

section Starts

variable {length sequenceLength stride start : ℕ}

/-- The starts are the multiples of the stride, and the last one where it is not one of them. -/
theorem windowStarts_eq : windowStarts length sequenceLength stride =
    (List.range ((length - sequenceLength) / stride + 1)).map (· * stride) ++
      if stride ∣ length - sequenceLength then [] else [length - sequenceLength] := by
  have hlast : ((List.range ((length - sequenceLength) / stride + 1)).map (· * stride)).getLast? =
      some ((length - sequenceLength) / stride * stride) := by
    rw [List.range_succ, List.map_append, List.map_singleton, List.getLast?_concat]
  rw [windowStarts]
  simp only [hlast, Option.some.injEq]
  by_cases hdvd : stride ∣ length - sequenceLength
  · rw [if_pos (Nat.div_mul_cancel hdvd), if_pos hdvd, List.append_nil]
  · rw [if_neg fun h => hdvd ⟨_, (h.symm.trans (Nat.mul_comm _ _))⟩, if_neg hdvd]

theorem mem_windowStarts (hstride : 0 < stride) :
    start ∈ windowStarts length sequenceLength stride ↔
      start ≤ length - sequenceLength ∧ (stride ∣ start ∨ start = length - sequenceLength) := by
  have hmultiple : start ∈ (List.range ((length - sequenceLength) / stride + 1)).map (· * stride) ↔
      start ≤ length - sequenceLength ∧ stride ∣ start := by
    simp only [List.mem_map, List.mem_range, Nat.lt_succ_iff, Nat.le_div_iff_mul_le hstride]
    constructor
    · rintro ⟨k, hk, rfl⟩
      exact ⟨hk, Nat.dvd_mul_left stride k⟩
    · rintro ⟨hle, k, rfl⟩
      exact ⟨k, by rwa [Nat.mul_comm], Nat.mul_comm k stride⟩
  rw [windowStarts_eq, List.mem_append, hmultiple]
  split_ifs with hdvd
  · have hself : start = length - sequenceLength → stride ∣ start := fun h => h ▸ hdvd
    simp only [List.not_mem_nil, or_false]
    exact and_congr_right fun _ => ⟨.inl, fun h => h.elim id hself⟩
  · rw [List.mem_singleton, and_or_left]
    exact or_congr_right ⟨fun h => ⟨h.le, h⟩, And.right⟩

theorem pairwise_windowStarts (length sequenceLength : ℕ) (hstride : 0 < stride) :
    (windowStarts length sequenceLength stride).Pairwise (· < ·) := by
  have hmultiples : ((List.range ((length - sequenceLength) / stride + 1)).map
      (· * stride)).Pairwise (· < ·) := by
    rw [List.pairwise_map]
    exact List.pairwise_lt_range.imp fun hlt => Nat.mul_lt_mul_of_pos_right hlt hstride
  rw [windowStarts_eq]
  split_ifs with hdvd
  · rwa [List.append_nil]
  · refine List.pairwise_append.mpr ⟨hmultiples, List.pairwise_singleton _ _, ?_⟩
    intro start hstart tail htail
    rw [List.mem_singleton.mp htail]
    obtain ⟨k, hk, rfl⟩ := List.mem_map.mp hstart
    have hle : k * stride ≤ length - sequenceLength :=
      (Nat.le_div_iff_mul_le hstride).mp (Nat.lt_succ_iff.mp (List.mem_range.mp hk))
    exact lt_of_le_of_ne hle fun h => hdvd ⟨k, (h.symm.trans (Nat.mul_comm _ _))⟩

theorem length_windowStarts_pos (hstride : 0 < stride) :
    0 < (windowStarts length sequenceLength stride).length :=
  List.length_pos_of_mem ((mem_windowStarts hstride).mpr ⟨Nat.zero_le _, .inl (dvd_zero stride)⟩)

theorem windowStarts_first : (windowStarts length sequenceLength stride)[0]? = some 0 := by
  rw [windowStarts_eq, List.range_succ_eq_map]
  simp

theorem windowStarts_last :
    (windowStarts length sequenceLength stride)[
      (windowStarts length sequenceLength stride).length - 1]? = some (length - sequenceLength) := by
  rw [← List.getLast?_eq_getElem?, windowStarts_eq]
  split_ifs with hdvd
  · rw [List.append_nil, List.range_succ, List.map_append, List.map_singleton,
      List.getLast?_concat, Nat.div_mul_cancel hdvd]
  · rw [List.getLast?_concat]

/-- With a stride that is no longer than the windows every row is in one of them. -/
theorem exists_windowStart (hstride : 0 < stride) (hle : stride ≤ sequenceLength) {row : ℕ}
    (hrow : row < length) (hlength : sequenceLength ≤ length) :
    ∃ start ∈ windowStarts length sequenceLength stride,
      start ≤ row ∧ row < start + sequenceLength := by
  by_cases htail : length - sequenceLength ≤ row
  · exact ⟨_, (mem_windowStarts hstride).mpr ⟨le_rfl, .inr rfl⟩, htail, by omega⟩
  · have hdiv := Nat.div_mul_le_self row stride
    have hnext := Nat.lt_div_mul_add (a := row) hstride
    refine ⟨row / stride * stride, (mem_windowStarts hstride).mpr ⟨by omega, .inl ?_⟩, hdiv,
      by omega⟩
    exact Nat.dvd_mul_left stride _

end Starts

/-! ## The chosen starts -/

variable {F : Type} {numpy : Numpy F} {starts : List ℕ} {maxWindows : ℕ}

theorem chosenStarts_spec (maxWindows : ℕ) (hnumpy : numpy.linspace = positions)
    (hsorted : starts.Pairwise (· < ·)) :
    ∃ chosen, chosenStarts numpy starts maxWindows = some chosen ∧ chosen.Pairwise (· < ·) ∧
      chosen.length = min maxWindows starts.length ∧ (∀ start ∈ chosen, start ∈ starts) ∧
      (∀ start, starts[0]? = some start → 0 < maxWindows → start ∈ chosen) ∧
      (∀ start, starts[starts.length - 1]? = some start → 2 ≤ maxWindows → start ∈ chosen) ∧
      (starts.length ≤ maxWindows → chosen = starts) := by
  rw [chosenStarts]
  split_ifs with hfew
  · exact ⟨starts, rfl, hsorted, (min_eq_right hfew).symm, fun _ h => h,
      fun _ h _ => List.mem_of_getElem? h, fun _ h _ => List.mem_of_getElem? h, fun _ => rfl⟩
  · have hlt : maxWindows ≤ starts.length := (not_le.mp hfew).le
    obtain ⟨chosen, hchosen, hpairwise, hlength, hsubset, hfirst, hlast⟩ :=
      mapM_positions hsorted hlt
    have hkept : chosen.dedup.insertionSort (· ≤ ·) = chosen := by
      rw [List.dedup_eq_self.mpr (hpairwise.imp ne_of_lt)]
      exact (hpairwise.imp le_of_lt).insertionSort_eq
    refine ⟨chosen, ?_, hpairwise, by rw [hlength, min_eq_left hlt], hsubset, hfirst, hlast,
      fun h => absurd h hfew⟩
    rw [hnumpy, hchosen, Option.map_some, hkept]

/-! ## Windows -/

variable [FloatArith F] {values : Rows F} {sequenceLength stride width : ℕ}

/-- What is put behind the rows of a unit that is too short -/
def paddingRow (row : List (FeatureValue F)) : List (FeatureValue F) :=
  List.replicate row.length
    (if (row.head?.map FeatureValue.isName).getD false then .name padToken else .number 0.0)

theorem padded_of_width (hwidth : 0 < width) (hrows : ∀ row ∈ values, row.length = width)
    {first : List (FeatureValue F)} (hfirst : values.head? = some first) (sequenceLength : ℕ) :
    padded values sequenceLength = some (values ++
      List.replicate (sequenceLength - values.length) (paddingRow first)) := by
  have hlength := hrows first (List.mem_of_head? hfirst)
  rw [padded, hfirst]
  cases first with
  | nil => exact absurd hlength hwidth.ne
  | cons value rest =>
    have hall : (values.all fun row => row.length = rest.length + 1) := by
      rw [List.all_eq_true]
      exact fun row hrow => decide_eq_true ((hrows row hrow).trans hlength.symm)
    simp only [hall, if_true]
    rfl

/-- The windows of a unit. Its rows are numbered from zero. -/
structure WindowsOf (values : Rows F) (sequenceLength stride maxWindows : ℕ)
    (windows : List (ℕ × Rows F)) : Prop where
  complete : ∀ window ∈ windows, window.2.length = sequenceLength
  increasing : (windows.map Prod.fst).Pairwise (· < ·)
  bounded : windows.length ≤ maxWindows
  empty : values = [] → windows = []
  short : ∀ first, values.head? = some first → values.length ≤ sequenceLength →
    windows = [(0, values ++ List.replicate (sequenceLength - values.length) (paddingRow first))]
  slices : sequenceLength < values.length → ∀ window ∈ windows,
    window.2 = (values.drop window.1).take sequenceLength
  first : sequenceLength < values.length → 0 ∈ windows.map Prod.fst
  last : sequenceLength < values.length → 2 ≤ maxWindows →
    values.length - sequenceLength ∈ windows.map Prod.fst
  number : sequenceLength < values.length →
    windows.length = min maxWindows (windowStarts values.length sequenceLength stride).length
  covered : sequenceLength < values.length →
    (windowStarts values.length sequenceLength stride).length ≤ maxWindows →
    stride ≤ sequenceLength → ∀ row < values.length, ∃ window ∈ windows,
      window.1 ≤ row ∧ row < window.1 + sequenceLength

/-- The window of a start -/
def windowAt (values : Rows F) (sequenceLength start : ℕ) : ℕ × Rows F :=
  (start, (values.drop start).take sequenceLength)

theorem windowsOf_chosen (hstride : 0 < stride) (hmax : 0 < maxWindows)
    (hlong : sequenceLength < values.length) {chosen : List ℕ}
    (hnumpy : numpy.linspace = positions)
    (h : chosenStarts numpy (windowStarts values.length sequenceLength stride) maxWindows =
      some chosen) :
    WindowsOf values sequenceLength stride maxWindows
      (chosen.map (windowAt values sequenceLength)) := by
  obtain ⟨_, hchosen, hsorted, hlength, hsubset, hfirst, hlast, hall⟩ :=
    chosenStarts_spec maxWindows hnumpy
      (pairwise_windowStarts values.length sequenceLength hstride)
  obtain rfl := Option.some.inj (h.symm.trans hchosen)
  have hstarts : (chosen.map (windowAt values sequenceLength)).map Prod.fst = chosen := by
    rw [List.map_map]
    exact List.map_id chosen
  have hbound : ∀ start ∈ chosen, start ≤ values.length - sequenceLength := fun start hstart =>
    ((mem_windowStarts hstride).mp (hsubset start hstart)).1
  have hne : values ≠ [] := List.ne_nil_of_length_pos (by omega)
  constructor
  case complete =>
    intro window hwindow
    obtain ⟨start, hstart, rfl⟩ := List.mem_map.mp hwindow
    have hle := hbound start hstart
    rw [windowAt, List.length_take, List.length_drop]
    omega
  case increasing => rwa [hstarts]
  case bounded =>
    rw [List.length_map, hlength]
    exact min_le_left _ _
  case empty => exact fun h => absurd h hne
  case short => exact fun _ _ hle => absurd hle (by omega)
  case slices =>
    intro _ window hwindow
    obtain ⟨start, -, rfl⟩ := List.mem_map.mp hwindow
    rfl
  case first =>
    intro _
    rw [hstarts]
    exact hfirst 0 windowStarts_first hmax
  case last =>
    intro _ htwo
    rw [hstarts]
    exact hlast _ windowStarts_last htwo
  case number => exact fun _ => by rw [List.length_map, hlength]
  case covered =>
    intro _ hfew hle row hrow
    obtain ⟨start, hstart, hbefore, hafter⟩ := exists_windowStart hstride hle hrow hlong.le
    refine ⟨windowAt values sequenceLength start, List.mem_map_of_mem ?_, hbefore, hafter⟩
    rwa [hall hfew]

/-- The windows of a unit have the given length, at most the given number of increasing starts, and
the first start; short units are padded, and longer ones cut at their starts. -/
theorem slidingWindows_spec (hnumpy : numpy.linspace = positions)
    (hrows : ∀ row ∈ values, row.length = width)
    (hwidth : values.length ≤ sequenceLength → 0 < width) (hstride : 0 < stride)
    (hmax : 0 < maxWindows) :
    ∃ windows, slidingWindows numpy values sequenceLength stride maxWindows = some windows ∧
      WindowsOf values sequenceLength stride maxWindows windows := by
  cases hvalues : values with
  | nil =>
    exact ⟨[], rfl, by simp, by simp, by simp, fun _ => rfl, by simp, by simp, by simp, by simp,
      by simp, by simp⟩
  | cons firstRow rest =>
    rw [← hvalues]
    have hhead : values.head? = some firstRow := by rw [hvalues, List.head?_cons]
    have hall : (values.all fun row => row.length = firstRow.length) := by
      rw [List.all_eq_true]
      intro row hrow
      exact decide_eq_true ((hrows row hrow).trans (hrows _ (List.mem_of_head? hhead)).symm)
    have hunfold : slidingWindows numpy values sequenceLength stride maxWindows =
        if values.length ≤ sequenceLength then
          (padded values sequenceLength).map fun window => [(0, window)]
        else (chosenStarts numpy (windowStarts values.length sequenceLength stride) maxWindows).map
          fun chosen => chosen.map (windowAt values sequenceLength) := by
      rw [hvalues] at hall ⊢
      rw [slidingWindows, hall]
      rfl
    rw [hunfold]
    split_ifs with hshort
    · rw [padded_of_width (hwidth hshort) hrows hhead, Option.map_some]
      refine ⟨_, rfl, ?_⟩
      constructor
      case complete =>
        intro window hwindow
        rw [List.mem_singleton.mp hwindow, List.length_append, List.length_replicate]
        omega
      case increasing => exact List.pairwise_singleton _ _
      case bounded => exact hmax
      case empty => exact fun h => absurd h (by rw [hvalues]; exact List.cons_ne_nil _ _)
      case short =>
        intro first hfirst _
        rw [Option.some.inj (hhead.symm.trans hfirst)]
      all_goals exact fun hlong => absurd hshort (by omega)
    · obtain ⟨chosen, hchosen, -⟩ := chosenStarts_spec maxWindows hnumpy
        (pairwise_windowStarts values.length sequenceLength hstride)
      rw [hchosen, Option.map_some]
      exact ⟨_, rfl, windowsOf_chosen hstride hmax (not_le.mp hshort) hnumpy hchosen⟩

/-! ## Units of rows with one number -/

/-- What the windowing takes from `numpy`, over the rationals -/
def gridNumpy : Numpy ℚ := ⟨positions, fun _ => none, fun _ => [], fun _ => []⟩

/-- Rows that hold their positions -/
def countingRows (n : ℕ) : Rows ℚ := (List.range n).map fun i => [.number i]

/-- Seven rows have six starts of windows of two rows. Three of them are kept. -/
theorem countingRows_windows :
    ((slidingWindows gridNumpy (countingRows 7) 2 1 3).map (·.map Prod.fst)) = some [0, 2, 5] ∧
      ∃ windows, slidingWindows gridNumpy (countingRows 7) 2 1 3 = some windows ∧
        WindowsOf (countingRows 7) 2 1 3 windows :=
  ⟨by decide +kernel, @slidingWindows_spec ℚ gridNumpy 3 _ (countingRows 7) 2 1 1 rfl
    (by decide +kernel) (fun _ => one_pos) one_pos (by decide)⟩

/-- A unit without rows has no window at all, and short rows without a value are not padded. -/
theorem slidingWindows_not_padded :
    (¬∃ window, slidingWindows gridNumpy [] 2 1 1 = some [(0, window)]) ∧
      slidingWindows gridNumpy [[], []] 2 1 1 = none := by
  constructor
  · rintro ⟨window, hwindow⟩
    exact absurd (Option.some.inj hwindow) (List.cons_ne_nil _ _).symm
  · rfl

end TruthFingerprint.OfflineTraining
