import Mathlib

/-!
# Ranks with ties

In a sorted list equal elements stand in runs. An element's rank is the mean of the places of its
run, which is one half more than its wins: the elements below it, and half of those equal to it.
The ranks that a part of a list has in the whole add up to its wins over the rest and a term that
depends on its length only (`sum_midrank`).
-/

namespace RankSums

/-! ## Runs -/

section Runs

variable {α κ : Type*}

/-- The runs of consecutive elements with one key -/
def runs [DecidableEq κ] (key : α → κ) : List α → List (List α)
  | [] => []
  | a :: l => (a :: l.takeWhile (key · = key a)) :: runs key (l.dropWhile (key · = key a))
termination_by l => l.length
decreasing_by exact Nat.lt_succ_of_le (List.dropWhile_suffix _).sublist.length_le

theorem flatten_runs [DecidableEq κ] (key : α → κ) (l : List α) : (runs key l).flatten = l := by
  fun_induction runs key l with
  | case1 => rfl
  | case2 a l ih => rw [List.flatten_cons, ih, List.cons_append, List.takeWhile_append_dropWhile]

theorem key_eq_of_mem_takeWhile [DecidableEq κ] {key : α → κ} {k : κ} {l : List α} {x : α}
    (h : x ∈ l.takeWhile (key · = k)) : key x = k := by
  simpa using List.mem_takeWhile_imp h

/-- What follows the first run of a sorted list is greater. -/
theorem lt_of_mem_dropWhile [LinearOrder κ] {key : α → κ} {a : α} {l : List α}
    (h : (a :: l).Pairwise fun x y => key x ≤ key y) {y : α}
    (hy : y ∈ l.dropWhile (key · = key a)) : key a < key y := by
  obtain ⟨hle, hsorted⟩ := List.pairwise_cons.mp h
  have hmem := (List.dropWhile_suffix (key · = key a)).subset hy
  cases hdrop : l.dropWhile (key · = key a) with
  | nil => simp [hdrop] at hy
  | cons b rest =>
    have hb : b ∈ l := (List.dropWhile_suffix (key · = key a)).subset (by simp [hdrop])
    have hne : key b ≠ key a := by
      have hnot := List.head_dropWhile_not (fun x => decide (key x = key a)) (l := l)
        (by simp [hdrop])
      simpa [hdrop] using hnot
    have hlt : key a < key b := lt_of_le_of_ne (hle b hb) hne.symm
    have hrest := hsorted.sublist (List.dropWhile_suffix (key · = key a)).sublist
    rw [hdrop] at hy hrest
    rcases List.mem_cons.mp hy with rfl | hy
    · exact hlt
    · exact hlt.trans_le ((List.pairwise_cons.mp hrest).1 y hy)

end Runs

/-! ## Wins -/

section Wins

variable {K : Type*} [Field K] [LinearOrder K] [IsStrictOrderedRing K] {x y : K} {l l' : List K}

local instance atLeastTwo_two : Nat.AtLeastTwo 2 := ⟨le_rfl⟩

/-- How many elements are below one, those equal to it counted half -/
def wins (l : List K) (x : K) : K := l.countP (· < x) + l.countP (· = x) / 2

/-- The mean place of an element among the elements of a list -/
def midrank (l : List K) (x : K) : K := l.countP (· < x) + (l.countP (· = x) + 1) / 2

theorem midrank_eq (l : List K) (x : K) : midrank l x = wins l x + 1 / 2 := by
  rw [midrank, wins]
  ring

omit [IsStrictOrderedRing K] in
/-- The mean place in the first run of a sorted list -/
theorem midrank_of_equal (hl : ∀ y ∈ l, y = x) (hl' : ∀ y ∈ l', x < y) :
    midrank (l ++ l') x = (l.length + 1) / 2 := by
  have hbelow : (l ++ l').countP (· < x) = 0 := by
    refine List.countP_eq_zero.mpr fun y hy => ?_
    rcases List.mem_append.mp hy with hy | hy
    · simp [hl y hy]
    · simp [(hl' y hy).le]
  have hequal : l.countP (· = x) = l.length := List.countP_eq_length.mpr fun y hy => by simp [hl y hy]
  have hgreater : l'.countP (· = x) = 0 :=
    List.countP_eq_zero.mpr fun y hy => by simp [(hl' y hy).ne']
  rw [midrank, hbelow, List.countP_append, hequal, hgreater, Nat.cast_zero, zero_add, add_zero]

omit [IsStrictOrderedRing K] in
/-- Smaller elements move the mean place up. -/
theorem midrank_of_less (hl : ∀ y ∈ l, y < x) : midrank (l ++ l') x = l.length + midrank l' x := by
  have hbelow : l.countP (· < x) = l.length := List.countP_eq_length.mpr fun y hy => by simp [hl y hy]
  have hequal : l.countP (· = x) = 0 := List.countP_eq_zero.mpr fun y hy => by simp [(hl y hy).ne]
  rw [midrank, midrank, List.countP_append, List.countP_append, hbelow, hequal, zero_add,
    Nat.cast_add, add_assoc]

theorem wins_nil (x : K) : wins [] x = 0 := by simp [wins]

theorem wins_append (l l' : List K) (x : K) : wins (l ++ l') x = wins l x + wins l' x := by
  simp only [wins, List.countP_append, Nat.cast_add]
  ring

theorem wins_cons (y : K) (l : List K) (x : K) : wins (y :: l) x = wins [y] x + wins l x :=
  wins_append [y] l x

theorem wins_singleton_self (x : K) : wins [x] x = 1 / 2 := by simp [wins]

omit [IsStrictOrderedRing K] in
theorem wins_perm (h : l.Perm l') (x : K) : wins l x = wins l' x := by
  rw [wins, wins, h.countP_eq, h.countP_eq]

/-- Of two elements one wins, or both win a half. -/
theorem wins_singleton_add (x y : K) : wins [y] x + wins [x] y = 1 := by
  rcases lt_trichotomy x y with hlt | rfl | hlt
  · simp [wins, hlt, hlt.ne, hlt.ne', not_lt.mpr hlt.le]
  · rw [wins_singleton_self]
    norm_num
  · simp [wins, hlt, hlt.ne, hlt.ne', not_lt.mpr hlt.le]

/-- The wins of an element and those of the others over it -/
theorem wins_add_sum (l : List K) (x : K) :
    wins l x + (l.map (wins [x])).sum = l.length := by
  induction l with
  | nil => simp [wins]
  | cons y l ih =>
    calc wins (y :: l) x + ((y :: l).map (wins [x])).sum
        = (wins [y] x + wins [x] y) + (wins l x + (l.map (wins [x])).sum) := by
          rw [wins_cons, List.map_cons, List.sum_cons]
          ring
      _ = ((y :: l).length : K) := by
          rw [wins_singleton_add, ih, List.length_cons]
          push_cast
          ring

/-- Among themselves the elements of a list win half of all pairs. -/
theorem sum_wins_self (l : List K) : (l.map (wins l)).sum = l.length ^ 2 / 2 := by
  induction l with
  | nil => simp
  | cons x l ih =>
    have hsplit : (l.map (wins (x :: l))).sum = (l.map (wins [x])).sum + (l.map (wins l)).sum := by
      rw [← List.sum_map_add]
      exact congrArg List.sum (List.map_congr_left fun y _ => wins_cons x l y)
    calc ((x :: l).map (wins (x :: l))).sum
        = wins [x] x + (wins l x + (l.map (wins [x])).sum) + (l.map (wins l)).sum := by
          rw [List.map_cons, List.sum_cons, hsplit, wins_cons]
          ring
      _ = ((x :: l).length : K) ^ 2 / 2 := by
          rw [wins_singleton_self, wins_add_sum, ih, List.length_cons]
          push_cast
          ring

/-- The ranks of the elements of a part add up to their wins over the rest and what its length
gives. -/
theorem sum_midrank (l l' : List K) :
    (l.map (midrank (l ++ l'))).sum =
      (l.map (wins l')).sum + l.length * (l.length + 1) / 2 := by
  have hrank : ∀ x ∈ l, midrank (l ++ l') x = wins l' x + (wins l x + 1 / 2) := by
    intro x _
    rw [midrank_eq, wins_append]
    ring
  rw [List.map_congr_left hrank, List.sum_map_add, List.sum_map_add, sum_wins_self,
    List.map_const', List.sum_replicate, nsmul_eq_mul]
  ring

/-! ## Pairs -/

/-- The share of the pairs in which the element of the first list is greater, ties counted half -/
def mannWhitney (l l' : List K) : K :=
  ((l ×ˢ l').countP (fun pair => pair.2 < pair.1) + (l ×ˢ l').countP (fun pair => pair.2 = pair.1) / 2) /
    (l.length * l'.length)

theorem countP_product {p : K × K → Bool} (l l' : List K) :
    ((l ×ˢ l').countP p : K) = (l.map fun x => (l'.countP fun y => p (x, y) : K)).sum := by
  induction l with
  | nil => simp
  | cons x l ih =>
    rw [List.product_cons, List.countP_append, Nat.cast_add, ih, List.map_cons, List.sum_cons,
      List.countP_map]
    rfl

theorem mannWhitney_eq (l l' : List K) :
    mannWhitney l l' = (l.map (wins l')).sum / (l.length * l'.length) := by
  have hwins : ∀ x ∈ l, wins l' x = (l'.countP (· < x) : K) + (l'.countP (· = x) : K) * (1 / 2) := by
    intro x _
    rw [wins]
    ring
  rw [mannWhitney, countP_product, countP_product, List.map_congr_left hwins, List.sum_map_add,
    List.sum_map_mul_right]
  ring_nf

theorem mannWhitney_perm {m m' : List K} (h : l.Perm m) (h' : l'.Perm m') :
    mannWhitney l l' = mannWhitney m m' := by
  rw [mannWhitney_eq, mannWhitney_eq, h.length_eq, h'.length_eq,
    ((h.map (wins l')).sum_eq), List.map_congr_left fun x _ => wins_perm h' x]

/-- A transformation that keeps the order of the elements keeps the wins. -/
theorem mannWhitney_map {f : K → K} (hf : ∀ x ∈ l, ∀ y ∈ l', (f y < f x ↔ y < x) ∧
    (f y = f x ↔ y = x)) : mannWhitney (l.map f) (l'.map f) = mannWhitney l l' := by
  have hwins : ∀ x ∈ l, wins (l'.map f) (f x) = wins l' x := by
    intro x hx
    have hbelow : l'.countP ((· < f x) ∘ f) = l'.countP (· < x) :=
      List.countP_congr fun y hy => by simp [(hf x hx y hy).1]
    have hequal : l'.countP ((· = f x) ∘ f) = l'.countP (· = x) :=
      List.countP_congr fun y hy => by simp [(hf x hx y hy).2]
    rw [wins, wins, List.countP_map, List.countP_map]
    exact congrArg₂ (fun m n : ℕ => (m : K) + n / 2) hbelow hequal
  rw [mannWhitney_eq, mannWhitney_eq, List.map_map, List.length_map, List.length_map]
  exact congrArg (fun s => s / _) (congrArg List.sum (List.map_congr_left hwins))

/-- Negated, the wins are the losses. -/
theorem wins_neg (l : List K) (x : K) : wins (l.map Neg.neg) (-x) = l.length - wins l x := by
  induction l with
  | nil => simp [wins]
  | cons y l ih =>
    have hpair : wins [-y] (-x) = 1 - wins [y] x := by
      rw [eq_sub_iff_add_eq, ← wins_singleton_add y x, add_left_inj]
      simp [wins, neg_lt_neg_iff, eq_comm]
    rw [List.map_cons, wins_cons, hpair, ih, wins_cons y l x, List.length_cons]
    push_cast
    ring

theorem mannWhitney_neg (hl : l ≠ []) (hl' : l' ≠ []) :
    mannWhitney (l.map Neg.neg) (l'.map Neg.neg) = 1 - mannWhitney l l' := by
  have hsum : ((l.map Neg.neg).map (wins (l'.map Neg.neg))).sum =
      l.length * l'.length - (l.map (wins l')).sum := by
    rw [List.map_map, eq_sub_iff_add_eq, ← List.sum_map_add]
    have hconst : ∀ x ∈ l, (wins (l'.map Neg.neg) ∘ Neg.neg) x + wins l' x = (l'.length : K) := by
      intro x _
      rw [Function.comp_apply, wins_neg, sub_add_cancel]
    rw [List.map_congr_left hconst, List.map_const', List.sum_replicate, nsmul_eq_mul]
  have hpos : (0 : K) < l.length * l'.length := by
    have h := List.length_pos_of_ne_nil hl
    have h' := List.length_pos_of_ne_nil hl'
    positivity
  rw [mannWhitney_eq, mannWhitney_eq, hsum, List.length_map, List.length_map, sub_div,
    div_self hpos.ne']

end Wins

end RankSums
