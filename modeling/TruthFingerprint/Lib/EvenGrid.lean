import Mathlib
import TruthFingerprint.Lib.Loops

/-!
# Even grids

The floors of evenly spaced points between two ends. When there are no more points than numbers
they are different (`pairwise_positions`), so that what stands at them in a sorted list is sorted
again, has the first element and, with two points, the last (`mapM_positions`).
-/

namespace EvenGrid

variable {α : Type} {last count : ℕ}

/-- `linspace(0, last, count)`, rounded down -/
def positions (last count : ℕ) : List ℕ := (List.range count).map fun i => i * last / (count - 1)

@[simp] theorem length_positions : (positions last count).length = count := by
  rw [positions, List.length_map, List.length_range]

theorem le_of_mem_positions {p : ℕ} (h : p ∈ positions last count) : p ≤ last := by
  obtain ⟨i, hi, rfl⟩ := List.mem_map.mp h
  rw [List.mem_range] at hi
  rcases Nat.eq_zero_or_pos (count - 1) with hone | hpos
  · rw [hone, Nat.div_zero]
    exact Nat.zero_le _
  · refine Nat.div_le_of_le_mul ?_
    exact Nat.mul_le_mul_right last (by omega)

/-- A step of the grid is at least one. -/
theorem div_lt_div_of_lt (hcount : count ≤ last + 1) {i j : ℕ} (hij : i < j) (hj : j < count) :
    i * last / (count - 1) < j * last / (count - 1) := by
  have hpos : 0 < count - 1 := by omega
  have hstep : i * last + (count - 1) ≤ j * last := calc
    i * last + (count - 1) ≤ i * last + last := by omega
    _ = (i + 1) * last := by ring
    _ ≤ j * last := Nat.mul_le_mul_right last hij
  have hnext : (i * last + (count - 1)) / (count - 1) ≤ j * last / (count - 1) :=
    Nat.div_le_div_right hstep
  rwa [Nat.add_div_right _ hpos] at hnext

theorem pairwise_positions (hcount : count ≤ last + 1) :
    (positions last count).Pairwise (· < ·) := by
  rw [positions, List.pairwise_map, List.pairwise_iff_getElem]
  intro i j hi hj hij
  rw [List.length_range] at hj
  simpa using div_lt_div_of_lt hcount hij hj

theorem zero_mem_positions (hcount : 0 < count) : 0 ∈ positions last count :=
  List.mem_map.mpr ⟨0, List.mem_range.mpr hcount, by rw [Nat.zero_mul, Nat.zero_div]⟩

theorem last_mem_positions (hcount : 2 ≤ count) : last ∈ positions last count :=
  List.mem_map.mpr ⟨count - 1, List.mem_range.mpr (by omega),
    Nat.mul_div_cancel_left last (by omega)⟩

variable {l : List α} {r : α → α → Prop}

/-- What stands at the positions of a grid over a list -/
theorem mapM_positions (hl : l.Pairwise r) (hcount : count ≤ l.length) :
    ∃ chosen, (positions (l.length - 1) count).mapM (fun p => l[p]?) = some chosen ∧
      chosen.Pairwise r ∧ chosen.length = count ∧ (∀ a ∈ chosen, a ∈ l) ∧
      (∀ a, l[0]? = some a → 0 < count → a ∈ chosen) ∧
      (∀ a, l[l.length - 1]? = some a → 2 ≤ count → a ∈ chosen) := by
  rcases Nat.eq_zero_or_pos count with rfl | hpos
  · exact ⟨[], rfl, List.Pairwise.nil, rfl, by simp, by simp, by simp⟩
  obtain ⟨a₀, -⟩ := List.exists_mem_of_length_pos (hpos.trans_le hcount)
  have hbound : ∀ p ∈ positions (l.length - 1) count, p < l.length := by
    intro p hp
    have hle := le_of_mem_positions hp
    omega
  have hget : ∀ p ∈ positions (l.length - 1) count, l[p]? = some (l.getD p a₀) := by
    intro p hp
    rw [List.getD_eq_getElem _ _ (hbound p hp), List.getElem?_eq_getElem (hbound p hp)]
  have hmem {a : α} {p : ℕ} (ha : l[p]? = some a) (hp : p ∈ positions (l.length - 1) count) :
      a ∈ (positions (l.length - 1) count).map fun p => l.getD p a₀ :=
    List.mem_map.mpr ⟨p, hp, Option.some.inj ((hget p hp).symm.trans ha)⟩
  refine ⟨(positions (l.length - 1) count).map fun p => l.getD p a₀, ?_, ?_, ?_, ?_,
    fun a ha h => hmem ha (zero_mem_positions h), fun a ha h => hmem ha (last_mem_positions h)⟩
  · rw [List.mapM_eq_some_iff, List.forall₂_map_right_iff, List.forall₂_same]
    exact hget
  · rw [List.pairwise_map]
    refine (pairwise_positions (by omega)).imp_of_mem fun hp hq hlt => ?_
    rw [List.getD_eq_getElem _ _ (hbound _ hp), List.getD_eq_getElem _ _ (hbound _ hq)]
    exact List.pairwise_iff_getElem.mp hl _ _ _ _ hlt
  · rw [List.length_map, length_positions]
  · intro a ha
    obtain ⟨p, hp, rfl⟩ := List.mem_map.mp ha
    exact List.mem_of_getElem? (hget p hp)

end EvenGrid
