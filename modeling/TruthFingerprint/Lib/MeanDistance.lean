import Mathlib

/-!
# Mean scaled distance between readings

A reading assigns a number to every channel. The distance of two readings is the mean over the
channels of the absolute difference divided by the channel's scale. It is a pseudometric
(`meanMetric`), and it is convex: a point within `r` of every reading of a nonempty list is within
`r` of their average (`meanDist_average_le`).
-/

namespace MeanDistance

variable {κ : Type*} [Fintype κ] {K : Type*} [Field K] [LinearOrder K] [IsStrictOrderedRing K]

/-- The mean over the channels of `|x k - y k| / w k`. -/
def meanDist (w x y : κ → K) : K := (∑ k, |x k - y k| / w k) / Fintype.card κ

/-- The channelwise average of a list of readings. -/
def average (ys : List (κ → K)) (k : κ) : K := (ys.map (· k)).sum / ys.length

variable {w x y z : κ → K}

theorem meanDist_self : meanDist w x x = 0 := by simp [meanDist]

omit [IsStrictOrderedRing K] in
theorem meanDist_comm : meanDist w x y = meanDist w y x := by
  simp only [meanDist, abs_sub_comm]

theorem meanDist_triangle (hw : ∀ k, 0 ≤ w k) :
    meanDist w x z ≤ meanDist w x y + meanDist w y z := by
  have hk : ∀ k, |x k - z k| / w k ≤ |x k - y k| / w k + |y k - z k| / w k := fun k => by
    rw [← add_div]
    exact div_le_div_of_nonneg_right (abs_sub_le _ _ _) (hw k)
  rw [meanDist, meanDist, meanDist, ← add_div, ← Finset.sum_add_distrib]
  exact div_le_div_of_nonneg_right (Finset.sum_le_sum fun k _ => hk k) (Nat.cast_nonneg _)

/-- The mean scaled distance as a pseudometric on readings. -/
def meanMetric (w : κ → K) (hw : ∀ k, 0 ≤ w k) : PseudoMetric (κ → K) K where
  toFun := meanDist w
  refl' _ := meanDist_self
  symm' _ _ := meanDist_comm
  triangle' _ _ _ := meanDist_triangle hw

/-- The sum of the readings, read against as many copies of `a`. -/
theorem abs_length_mul_sub_sum_le (a : K) (vs : List K) :
    |vs.length * a - vs.sum| ≤ (vs.map fun v => |a - v|).sum := by
  induction vs with
  | nil => simp
  | cons v vs ih =>
    simp only [List.length_cons, List.sum_cons, List.map_cons, Nat.cast_add, Nat.cast_one]
    calc |((vs.length : K) + 1) * a - (v + vs.sum)|
        = |(a - v) + (vs.length * a - vs.sum)| := by ring_nf
      _ ≤ |a - v| + |vs.length * a - vs.sum| := abs_add_le _ _
      _ ≤ |a - v| + (vs.map fun v => |a - v|).sum := by gcongr

omit [Fintype κ] in
theorem abs_sub_average_le (ys : List (κ → K)) (hne : ys ≠ []) (k : κ) :
    |x k - average ys k| ≤ (ys.map fun y => |x k - y k|).sum / ys.length := by
  have hlen : (0 : K) < ys.length := Nat.cast_pos.mpr (List.length_pos_iff.mpr hne)
  have heq : x k - average ys k = (ys.length * x k - (ys.map (· k)).sum) / ys.length := by
    rw [average]
    field_simp
  have hsum := abs_length_mul_sub_sum_le (x k) (ys.map (· k))
  rw [List.length_map, List.map_map] at hsum
  rw [heq, abs_div, abs_of_pos hlen]
  exact div_le_div_of_nonneg_right hsum hlen.le

omit [IsStrictOrderedRing K] in
/-- The distances to the readings of a list, channel by channel and then reading by reading. -/
theorem sum_sum_div_eq (ys : List (κ → K)) :
    ∑ k, (ys.map fun y => |x k - y k|).sum / w k =
      (ys.map fun y => ∑ k, |x k - y k| / w k).sum := by
  induction ys with
  | nil => simp
  | cons y ys ih => simp [add_div, Finset.sum_add_distrib, ih]

theorem sum_le_length_mul {r : K} (vs : List K) (h : ∀ v ∈ vs, v ≤ r) :
    vs.sum ≤ vs.length * r := by
  simpa [nsmul_eq_mul] using List.sum_le_card_nsmul vs r h

/-- A reading within `r` of every reading of a list is within `r` of their average. -/
theorem meanDist_average_le {r : K} (hw : ∀ k, 0 ≤ w k) (ys : List (κ → K)) (hne : ys ≠ [])
    (h : ∀ y ∈ ys, meanDist w x y ≤ r) : meanDist w x (average ys) ≤ r := by
  have hlen : (0 : K) < ys.length := Nat.cast_pos.mpr (List.length_pos_iff.mpr hne)
  have hk : ∀ k, |x k - average ys k| / w k ≤
      (ys.map fun y => |x k - y k|).sum / w k / ys.length := fun k => by
    rw [div_right_comm]
    exact div_le_div_of_nonneg_right (abs_sub_average_le ys hne k) (hw k)
  have hmean : (ys.map fun y => meanDist w x y).sum ≤ ys.length * r := by
    simpa using sum_le_length_mul (ys.map fun y => meanDist w x y) (by simpa using h)
  calc meanDist w x (average ys)
      ≤ (∑ k, (ys.map fun y => |x k - y k|).sum / w k / ys.length) / Fintype.card κ :=
        div_le_div_of_nonneg_right (Finset.sum_le_sum fun k _ => hk k) (Nat.cast_nonneg _)
    _ = (ys.map fun y => meanDist w x y).sum / ys.length := by
        rw [← Finset.sum_div, sum_sum_div_eq, div_right_comm]
        congr 1
        simp only [meanDist, div_eq_mul_inv, List.sum_map_mul_right]
    _ ≤ ys.length * r / ys.length := div_le_div_of_nonneg_right hmean hlen.le
    _ = r := by field_simp

end MeanDistance
