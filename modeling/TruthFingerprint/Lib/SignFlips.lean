import Mathlib

/-!
# Sign flips

A vector of signs changes the signs of a vector of values. Composing with one vector of signs
permutes all of them (`perm_map_signed`). A statistic that is compared with its values under all
sign flips is among the greatest ones for few of them (`countP_countP_le`).
-/

namespace SignFlips

section Signs

variable {K : Type} [CommRing K]

/-- All vectors of signs, the first sign varying slowest -/
def signVectors : ℕ → List (List K)
  | 0 => [[]]
  | n + 1 => (signVectors n).map (List.cons (-1)) ++ (signVectors n).map (List.cons 1)

/-- The values with their signs changed -/
def signed (values signs : List K) : List K := List.zipWith (· * ·) values signs

theorem length_signVectors (n : ℕ) : (signVectors n : List (List K)).length = 2 ^ n := by
  induction n with
  | zero => rfl
  | succ n ih =>
    rw [signVectors, List.length_append, List.length_map, List.length_map, ih, pow_succ]
    ring

theorem length_of_mem_signVectors {n : ℕ} {signs : List K} (h : signs ∈ signVectors n) :
    signs.length = n := by
  induction n generalizing signs with
  | zero =>
    rw [List.mem_singleton.mp h]
    rfl
  | succ n ih =>
    rcases List.mem_append.mp h with h | h
    all_goals
      obtain ⟨rest, hrest, rfl⟩ := List.mem_map.mp h
      rw [List.length_cons, ih hrest]

theorem signed_signed (values signs signs' : List K) :
    signed (signed values signs) signs' = signed values (signed signs signs') := by
  induction values generalizing signs signs' with
  | nil => simp [signed]
  | cons x values ih =>
    cases signs with
    | nil => simp [signed]
    | cons s signs =>
      cases signs' with
      | nil => simp [signed]
      | cons s' signs' =>
        have hrest := ih signs signs'
        simp only [signed, List.zipWith_cons_cons] at hrest ⊢
        rw [hrest, mul_assoc]

/-- The negated values have the signs of all flips too. -/
theorem map_neg_signed (values signs : List K) :
    (signed (values.map (-·)) signs) = (signed values signs).map (-·) := by
  rw [signed, signed, List.zipWith_map_left, List.map_zipWith]
  simp only [neg_mul]

/-- A flip after all flips is all of them. -/
theorem perm_map_signed {n : ℕ} {signs : List K} (h : signs ∈ signVectors n) :
    ((signVectors n).map (signed signs)).Perm (signVectors n) := by
  induction n generalizing signs with
  | zero =>
    rw [List.mem_singleton.mp h]
    exact .refl _
  | succ n ih =>
    have hcons (s t : K) (rest : List K) :
        ((signVectors n).map (List.cons t)).map (signed (s :: rest)) =
          ((signVectors n).map (signed rest)).map (List.cons (s * t)) := by
      rw [List.map_map, List.map_map]
      rfl
    rcases List.mem_append.mp h with h | h
    · obtain ⟨rest, hrest, rfl⟩ := List.mem_map.mp h
      rw [signVectors, List.map_append, hcons, hcons, neg_mul_neg, one_mul, mul_one]
      exact (((ih hrest).map _).append ((ih hrest).map _)).trans List.perm_append_comm
    · obtain ⟨rest, hrest, rfl⟩ := List.mem_map.mp h
      rw [signVectors, List.map_append, hcons, hcons, one_mul, one_mul]
      exact ((ih hrest).map _).append ((ih hrest).map _)

end Signs

/-! ## Ranks -/

variable {α K R : Type} [LinearOrder K] [Semiring R] [LinearOrder R] [IsStrictOrderedRing R]

/-- At most `k` elements have at most `k` elements that are not smaller. -/
theorem countP_countP_le (l : List α) (f : α → K) {k : R} (hk : 0 ≤ k) :
    ((l.countP fun s => ((l.countP (f s ≤ f ·) : ℕ) : R) ≤ k : ℕ) : R) ≤ k := by
  by_cases hfew : ∃ s ∈ l, ((l.countP (f s ≤ f ·) : ℕ) : R) ≤ k
  · have hfinite : {s | s ∈ l ∧ ((l.countP (f s ≤ f ·) : ℕ) : R) ≤ k}.Finite :=
      (List.finite_toSet l).subset fun s hs => hs.1
    obtain ⟨s, ⟨hs, hrank⟩, hminimal⟩ := hfinite.exists_minimalFor f _ hfew
    have hleast (t : α) (ht : t ∈ l) (hfewer : ((l.countP (f t ≤ f ·) : ℕ) : R) ≤ k) :
        f s ≤ f t := by
      by_contra hlt
      exact hlt (hminimal ⟨ht, hfewer⟩ (le_of_not_ge hlt))
    -- What is counted is not smaller than the least element that is counted.
    refine le_trans (Nat.cast_le.mpr (List.countP_mono_left fun t ht hcounted => ?_)) hrank
    exact decide_eq_true (hleast t ht (of_decide_eq_true hcounted))
  · rw [List.countP_eq_zero.mpr, Nat.cast_zero]
    · exact hk
    · exact fun s hs hcounted => hfew ⟨s, hs, of_decide_eq_true hcounted⟩

end SignFlips
