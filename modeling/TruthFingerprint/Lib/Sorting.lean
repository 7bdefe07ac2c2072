import Mathlib

/-!
# Sorting by a key

Sorting forgets the order that a list comes in, when the order that it sorts by is that of a key
which tells the elements apart (`List.insertionSort_eq_of_perm`). The order may be partial: only
the elements of the list need to be compared by their keys. In a sorted list the elements below a
bound come first, as many as there are (`List.Pairwise.iff_lt_countP`).
-/

namespace List

variable {α κ : Type*} [LinearOrder κ] {r : α → α → Prop} [DecidableRel r] (key : α → κ)
  {xs ys : List α}

/-- On elements that `r` compares by their keys, sorting by `r` is sorting by the key. -/
theorem insertionSort_eq_of_key (hr : ∀ x ∈ xs, ∀ y ∈ xs, r x y ↔ key x ≤ key y) :
    xs.insertionSort r = xs.insertionSort (key · ≤ key ·) := by
  have hmap := map_insertionSort r (key · ≤ key ·) id xs hr
  rwa [map_id, map_id] at hmap

theorem pairwise_insertionSort_of_key (hr : ∀ x ∈ xs, ∀ y ∈ xs, r x y ↔ key x ≤ key y) :
    (xs.insertionSort r).Pairwise r := by
  have hsorted : (xs.insertionSort (key · ≤ key ·)).Pairwise (key · ≤ key ·) := by
    have : Std.Total fun x y => key x ≤ key y := ⟨fun x y => le_total (key x) (key y)⟩
    have : IsTrans α fun x y => key x ≤ key y := ⟨fun _ _ _ => le_trans⟩
    exact pairwise_insertionSort _ _
  rw [insertionSort_eq_of_key key hr]
  exact hsorted.imp_of_mem fun hx hy h =>
    (hr _ ((mem_insertionSort _).mp hx) _ ((mem_insertionSort _).mp hy)).mpr h

theorem insertionSort_eq_of_perm (hr : ∀ x ∈ xs, ∀ y ∈ xs, r x y ↔ key x ≤ key y)
    (hkey : ∀ x ∈ xs, ∀ y ∈ xs, key x = key y → x = y) (h : xs.Perm ys) :
    xs.insertionSort r = ys.insertionSort r := by
  have hys : ∀ x ∈ ys, ∀ y ∈ ys, r x y ↔ key x ≤ key y := fun x hx y hy =>
    hr x (h.mem_iff.mpr hx) y (h.mem_iff.mpr hy)
  have hanti : ∀ x y, x ∈ xs.insertionSort r → y ∈ ys.insertionSort r → r x y → r y x → x = y :=
    fun x y hx hy hxy hyx => by
      have hx := (mem_insertionSort _).mp hx
      have hy := h.mem_iff.mpr ((mem_insertionSort _).mp hy)
      exact hkey x hx y hy (le_antisymm ((hr x hx y hy).mp hxy) ((hr y hy x hx).mp hyx))
  exact Perm.eq_of_pairwise hanti (pairwise_insertionSort_of_key key hr)
    (pairwise_insertionSort_of_key key hys)
    ((perm_insertionSort _ _).trans (h.trans (perm_insertionSort _ _).symm))

/-- When what comes before an element with a property has it too, those with it come first. -/
theorem Pairwise.iff_lt_countP {p : α → Bool} (h : xs.Pairwise fun x y => p y → p x) {i : ℕ}
    {x : α} (hx : xs[i]? = some x) : p x ↔ i < xs.countP p := by
  induction xs generalizing i with
  | nil => simp at hx
  | cons y ys ih =>
    obtain ⟨hy, hys⟩ := pairwise_cons.mp h
    rw [countP_cons]
    by_cases hp : p y
    · rw [if_pos hp]
      cases i with
      | zero =>
        obtain rfl : y = x := by simpa using hx
        simp [hp]
      | succ i =>
        rw [ih hys (by simpa using hx)]
        omega
    · have hnone : ys.countP p = 0 := countP_eq_zero.mpr fun z hz hpz => hp (hy z hz hpz)
      rw [if_neg hp, hnone]
      cases i with
      | zero =>
        obtain rfl : y = x := by simpa using hx
        simp [hp]
      | succ i =>
        have hmem : x ∈ ys := mem_of_getElem? (by simpa using hx)
        exact iff_of_false (fun hpx => hp (hy x hmem hpx)) (by omega)

end List
