import Mathlib

/-!
# Step-down tests

A step-down test goes through values from the smallest on, holds each against a level that is
divided by how many values are left, and stops at the first that is above it (`stepDown`). The
adjusted values multiply instead of dividing, and keep the greatest one so far (`adjusted`): a value
is rejected at a level if and only if its adjusted value is within the level. Neither depends on the
order of equal values, because a value is rejected when every value up to it passes (`Passes`).
-/

namespace StepDown

variable {K κ : Type} [Field K] [LinearOrder K]

/-- Every value up to `p` is within the level, multiplied by how many values are not smaller. -/
def Passes (level : K) (values : List K) (p : K) : Prop :=
  ∀ q ∈ values, q ≤ p → values.countP (q ≤ ·) * q ≤ level

/-- The names that are rejected -/
def stepDown (level : K) : List (κ × K) → List κ
  | [] => []
  | (name, p) :: rest =>
    if p ≤ level / (rest.length + 1) then name :: stepDown level rest else []

/-- The greatest of the multiplied values so far, which are at most one -/
def adjusted (running : K) : List K → List K
  | [] => []
  | p :: rest =>
    max running (min 1 ((rest.length + 1) * p)) ::
      adjusted (max running (min 1 ((rest.length + 1) * p))) rest

@[simp] theorem length_adjusted (running : K) (values : List K) :
    (adjusted running values).length = values.length := by
  induction values generalizing running with
  | nil => rfl
  | cons p rest ih => rw [adjusted, List.length_cons, ih, List.length_cons]

theorem Passes.of_perm {level p : K} {values values' : List K} (h : Passes level values p)
    (hperm : values.Perm values') : Passes level values' p := by
  intro q hq hle
  rw [← hperm.countP_eq]
  exact h q (hperm.mem_iff.mpr hq) hle

/-- What is rejected is tested. -/
theorem exists_of_mem_stepDown {level : K} {rows : List (κ × K)} {name : κ}
    (h : name ∈ stepDown level rows) : ∃ p, (name, p) ∈ rows := by
  induction rows with
  | nil => cases h
  | cons row rest ih =>
    rw [stepDown] at h
    split_ifs at h
    · rcases List.mem_cons.mp h with rfl | h
      · exact ⟨row.2, List.mem_cons_self⟩
      · obtain ⟨p, hp⟩ := ih h
        exact ⟨p, List.mem_cons_of_mem _ hp⟩
    · cases h

section Sorted

variable [IsStrictOrderedRing K] {level running p x a : K} {rest : List K}

omit [Field K] [IsStrictOrderedRing K] in
theorem countP_head (hx : ∀ y ∈ rest, x ≤ y) :
    (x :: rest).countP (x ≤ ·) = rest.length + 1 := by
  rw [List.countP_cons_of_pos (by simp), List.countP_eq_length.mpr]
  exact fun y hy => by simpa using hx y hy

omit [IsStrictOrderedRing K] in
theorem passes_head (hx : ∀ y ∈ rest, x ≤ y) :
    Passes level (x :: rest) x ↔ (rest.length + 1) * x ≤ level := by
  have hcount : (((x :: rest).countP (x ≤ ·) : ℕ) : K) = rest.length + 1 := by
    rw [countP_head hx, Nat.cast_succ]
  constructor
  · intro h
    rw [← hcount]
    exact h x List.mem_cons_self le_rfl
  · intro h q hq hle
    obtain rfl : q = x := by
      rcases List.mem_cons.mp hq with rfl | hq
      · rfl
      · exact le_antisymm hle (hx q hq)
    rwa [hcount]

/-- What is in the rest passes when the head does and it passes in the rest. -/
theorem passes_cons (hx : ∀ y ∈ rest, x ≤ y) (hnonneg : 0 ≤ x) (hp : p ∈ rest) :
    Passes level (x :: rest) p ↔ (rest.length + 1) * x ≤ level ∧ Passes level rest p := by
  have hcount : (((x :: rest).countP (x ≤ ·) : ℕ) : K) = rest.length + 1 := by
    rw [countP_head hx, Nat.cast_succ]
  constructor
  · intro h
    refine ⟨?_, fun q hq hle => ?_⟩
    · rw [← hcount]
      exact h x List.mem_cons_self (hx p hp)
    · refine le_trans ?_ (h q (List.mem_cons_of_mem _ hq) hle)
      have hmore : rest.countP (q ≤ ·) ≤ (x :: rest).countP (q ≤ ·) :=
        (List.sublist_cons_self x rest).countP_le
      exact mul_le_mul_of_nonneg_right (Nat.cast_le.mpr hmore) (hnonneg.trans (hx q hq))
  · rintro ⟨hhead, hrest⟩ q hq hle
    by_cases heq : q = x
    · rw [heq, hcount]
      exact hhead
    · have hmem : q ∈ rest := List.mem_of_ne_of_mem heq hq
      have hlt : ¬q ≤ x := not_le.mpr (lt_of_le_of_ne (hx q hmem) (Ne.symm heq))
      rw [List.countP_cons_of_neg (by simpa using hlt)]
      exact hrest q hmem hle

/-- A name is rejected when its value passes. -/
theorem mem_stepDown {rows : List (κ × K)} (hnames : (rows.map Prod.fst).Nodup)
    (hsorted : rows.Pairwise fun r s => r.2 ≤ s.2) (hnonneg : ∀ row ∈ rows, 0 ≤ row.2)
    {row : κ × K} (hrow : row ∈ rows) :
    row.1 ∈ stepDown level rows ↔ Passes level (rows.map Prod.snd) row.2 := by
  induction rows with
  | nil => cases hrow
  | cons head rest ih =>
    obtain ⟨hfresh, hnames⟩ := List.nodup_cons.mp hnames
    obtain ⟨hle, hsorted⟩ := List.pairwise_cons.mp hsorted
    obtain ⟨hhead, hnonneg⟩ := List.forall_mem_cons.mp hnonneg
    have hvalues : ∀ y ∈ rest.map Prod.snd, head.2 ≤ y := List.forall_mem_map.mpr hle
    have hpos : (0 : K) < rest.length + 1 := by positivity
    have hdivide : head.2 ≤ level / (rest.length + 1) ↔
        ((rest.map Prod.snd).length + 1) * head.2 ≤ level := by
      rw [le_div_iff₀ hpos, List.length_map, mul_comm]
    rw [stepDown, List.map_cons]
    rcases List.mem_cons.mp hrow with rfl | hrow
    · rw [passes_head hvalues, ← hdivide]
      split_ifs with h
      · simp [h]
      · simp [h]
    · have hne : row.1 ≠ head.1 := by
        intro heq
        exact hfresh (heq ▸ List.mem_map_of_mem hrow)
      rw [passes_cons hvalues hhead (List.mem_map_of_mem hrow), ← hdivide,
        ← ih hnames hsorted hnonneg hrow]
      split_ifs with h
      · simp [h, hne]
      · simp [h]

theorem adjusted_bounds (hrunning : running ≤ 1) {values : List K}
    (hone : ∀ p ∈ values, 0 ≤ p ∧ p ≤ 1) (h : (p, a) ∈ values.zip (adjusted running values)) :
    running ≤ a ∧ p ≤ a ∧ a ≤ 1 := by
  induction values generalizing running with
  | nil => cases h
  | cons x rest ih =>
    obtain ⟨hx, hone⟩ := List.forall_mem_cons.mp hone
    have hcap : max running (min 1 ((rest.length + 1) * x)) ≤ 1 :=
      max_le hrunning (min_le_left _ _)
    rw [adjusted, List.zip_cons_cons] at h
    rcases List.mem_cons.mp h with heq | h
    · obtain ⟨rfl, rfl⟩ := Prod.mk.inj heq
      have hmore : p ≤ (rest.length + 1) * p :=
        le_mul_of_one_le_left hx.1 (le_add_of_nonneg_left (Nat.cast_nonneg _))
      exact ⟨le_max_left _ _, (le_min hx.2 hmore).trans (le_max_right _ _), hcap⟩
    · obtain ⟨hle, hbounds⟩ := ih hcap hone h
      exact ⟨(le_max_left _ _).trans hle, hbounds⟩

/-- An adjusted value is within a level below one when its value passes. -/
theorem adjusted_le_iff (hlevel : level < 1) {values : List K} (hsorted : values.Pairwise (· ≤ ·))
    (hnonneg : ∀ p ∈ values, 0 ≤ p) (h : (p, a) ∈ values.zip (adjusted running values)) :
    a ≤ level ↔ running ≤ level ∧ Passes level values p := by
  induction values generalizing running with
  | nil => cases h
  | cons x rest ih =>
    obtain ⟨hle, hsorted⟩ := List.pairwise_cons.mp hsorted
    obtain ⟨hx, hnonneg⟩ := List.forall_mem_cons.mp hnonneg
    have hcap : max running (min 1 ((rest.length + 1) * x)) ≤ level ↔
        running ≤ level ∧ (rest.length + 1) * x ≤ level := by
      rw [max_le_iff, min_le_iff, or_iff_right (not_le.mpr hlevel)]
    rw [adjusted, List.zip_cons_cons] at h
    rcases List.mem_cons.mp h with heq | h
    · obtain ⟨rfl, rfl⟩ := Prod.mk.inj heq
      rw [hcap, passes_head hle]
    · have hp : p ∈ rest := (List.of_mem_zip h).1
      rw [ih hsorted hnonneg h, hcap, passes_cons hle hx hp, and_assoc]

omit [Field K] [IsStrictOrderedRing K] in
/-- Values up to one are told apart by the levels below one. -/
theorem eq_of_levels [Zero K] [One K] {b : K} (ha : 0 ≤ a ∧ a ≤ 1) (hb : 0 ≤ b ∧ b ≤ 1)
    (h : ∀ level : K, 0 ≤ level → level < 1 → (a ≤ level ↔ b ≤ level)) : a = b := by
  rcases lt_trichotomy a b with hlt | heq | hlt
  · exact absurd ((h a ha.1 (hlt.trans_le hb.2)).mp le_rfl) (not_le.mpr hlt)
  · exact heq
  · exact absurd ((h b hb.1 (hlt.trans_le ha.2)).mpr le_rfl) (not_le.mpr hlt)

end Sorted

end StepDown
