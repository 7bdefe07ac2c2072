import Mathlib

/-!
# Two roundings to the nearest integer

`halfAway` sends a tie away from zero and `halfEven` to the even neighbour. Both are within one
half of their argument, so they are at most one apart (`abs_halfAway_sub_halfEven_le`). They reach
a positive integer on the same arguments whenever that integer is even (`le_halfAway_iff_of_even`):
the tie just below it goes up under both rules.
-/

namespace NearestInt

variable {K : Type*} [Field K] [LinearOrder K] [IsStrictOrderedRing K] [FloorRing K]

local instance atLeastTwo_two : Nat.AtLeastTwo 2 := ⟨le_rfl⟩

/-- Round to the nearest integer, ties away from zero. -/
def halfAway (x : K) : ℤ := if 0 ≤ x then round x else -round (-x)

/-- Round to the nearest integer, ties to the even one. -/
def halfEven (x : K) : ℤ :=
  if Int.fract x < 1 / 2 then ⌊x⌋
  else if 1 / 2 < Int.fract x then ⌊x⌋ + 1
  else if Even ⌊x⌋ then ⌊x⌋ else ⌊x⌋ + 1

variable {x : K} {k : ℤ}

theorem abs_halfAway_sub_le (x : K) : |(halfAway x : K) - x| ≤ 1 / 2 := by
  rw [halfAway]
  split
  · rw [abs_sub_comm]
    exact abs_sub_round x
  · have := abs_sub_round (-x)
    rw [Int.cast_neg, ← neg_add', abs_neg, ← sub_neg_eq_add, abs_sub_comm]
    exact this

theorem abs_halfEven_sub_le (x : K) : |(halfEven x : K) - x| ≤ 1 / 2 := by
  have hfloor := Int.floor_add_fract x
  have h0 := Int.fract_nonneg x
  have h1 := Int.fract_lt_one x
  rw [abs_le, halfEven]
  split_ifs <;> push_cast <;> constructor <;> linarith

/-- The two roundings are at most one apart. -/
theorem abs_halfAway_sub_halfEven_le (x : K) : |(halfAway x : K) - halfEven x| ≤ 1 := by
  have h1 := abs_halfAway_sub_le x
  have h2 := abs_halfEven_sub_le x
  rw [abs_sub_comm] at h2
  calc |(halfAway x : K) - halfEven x| = |(halfAway x - x) + (x - halfEven x)| := by ring_nf
    _ ≤ |(halfAway x : K) - x| + |x - halfEven x| := abs_add_le _ _
    _ ≤ 1 := by linarith

omit [IsStrictOrderedRing K] in
theorem halfEven_nonneg (h : 0 ≤ x) : 0 ≤ halfEven x := by
  have hfloor : 0 ≤ ⌊x⌋ := Int.floor_nonneg.mpr h
  rw [halfEven]
  split_ifs <;> omega

/-- A positive integer is reached, ties away from zero, from one half below it on. -/
theorem le_halfAway_iff (hk : 0 < k) : k ≤ halfAway x ↔ (k : K) - 1 / 2 ≤ x := by
  rw [halfAway]
  split
  · rw [round_eq, Int.le_floor, sub_le_iff_le_add]
  · rename_i hx
    have hround : -round (-x) ≤ 0 := by
      rw [neg_nonpos, round_eq]
      exact Int.floor_nonneg.mpr (by linarith)
    have hk' : (1 : K) ≤ k := by exact_mod_cast hk
    constructor
    · intro h; omega
    · intro h; linarith

/-- An even integer is reached, ties to even, from one half below it on. -/
theorem le_halfEven_iff_of_even (hk : Even k) : k ≤ halfEven x ↔ (k : K) - 1 / 2 ≤ x := by
  have hfloor := Int.floor_add_fract x
  have h0 := Int.fract_nonneg x
  have h1 := Int.fract_lt_one x
  -- `x` and `k - 1/2` compare as their floors do, and by the fraction when the floors are equal
  have hcmp : (k : K) - 1 / 2 ≤ x ↔ k ≤ ⌊x⌋ ∨ (k = ⌊x⌋ + 1 ∧ 1 / 2 ≤ Int.fract x) := by
    constructor
    · intro h
      rcases le_or_gt k ⌊x⌋ with hle | hgt
      · exact .inl hle
      · have hkf : (k : K) - 1 / 2 ≤ ⌊x⌋ + Int.fract x := by linarith
        have hlt : (k : K) < ((⌊x⌋ + 2 : ℤ) : K) := by push_cast; linarith
        have hk2 : k < ⌊x⌋ + 2 := by exact_mod_cast hlt
        have hkeq : k = ⌊x⌋ + 1 := by omega
        refine .inr ⟨hkeq, ?_⟩
        rw [hkeq] at hkf
        push_cast at hkf
        linarith
    · rintro (h | ⟨rfl, h⟩)
      · have : (k : K) ≤ ⌊x⌋ := by exact_mod_cast h
        linarith
      · push_cast
        linarith
  rw [hcmp, halfEven]
  split_ifs with hlt hgt heven
  · constructor
    · exact .inl
    · rintro (h | ⟨-, h⟩)
      · exact h
      · exact absurd h (not_le.mpr hlt)
  · constructor
    · intro h
      rcases Int.le_add_one_iff.mp h with h | h
      · exact .inl h
      · exact .inr ⟨h, hgt.le⟩
    · rintro (h | ⟨h, -⟩) <;> omega
  · -- a tie below an even floor stays there, and `k` is not the odd integer above it
    constructor
    · exact .inl
    · rintro (h | ⟨rfl, -⟩)
      · exact h
      · exact absurd hk (Int.even_add_one.not.mpr (not_not.mpr heven))
  · constructor
    · intro h
      rcases Int.le_add_one_iff.mp h with h | h
      · exact .inl h
      · exact .inr ⟨h, not_lt.mp hlt⟩
    · rintro (h | ⟨h, -⟩) <;> omega

/-- The two roundings reach an even positive integer on the same arguments. -/
theorem le_halfAway_iff_of_even (hk : 0 < k) (heven : Even k) :
    k ≤ halfAway x ↔ k ≤ halfEven x := by
  rw [le_halfAway_iff hk, le_halfEven_iff_of_even heven]

end NearestInt
