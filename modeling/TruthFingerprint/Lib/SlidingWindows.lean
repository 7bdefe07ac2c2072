import Mathlib
import TruthFingerprint.Lib.Loops
import TruthFingerprint.Lib.Sorting

/-!
# Sliding windows

A loop takes slices of one length at offsets that are a stride apart and stops at the first slice
that is short. Its windows are what the check makes of the complete slices (`slide_range`). With a
stride no longer than the windows they cover everything before the end of the last one
(`exists_offset`). A list that is sorted by a key has windows that start with different keys when
no key is repeated across two offsets (`startApart_iff`).
-/

namespace SlidingWindows

variable {α β ε : Type} {length stride : ℕ} {check : List α → Except ε β} {l : List α}

/-- The slice of a list at an offset -/
def slice (length : ℕ) (l : List α) (start : ℕ) : List α := (l.drop start).take length

/-- The loop over the offsets -/
def slide (length : ℕ) (check : List α → Except ε β) (l : List α) : List ℕ → Except ε (List β)
  | [] => .ok []
  | start :: starts =>
    if (slice length l start).length < length then .ok []
    else do
      let window ← check (slice length l start)
      let windows ← slide length check l starts
      .ok (window :: windows)

/-- How many multiples of the stride are below a size -/
def starts (stride size : ℕ) : ℕ := (size + stride - 1) / stride

/-- `range(0, size, stride)` -/
def offsets (stride size : ℕ) : List ℕ := (List.range (starts stride size)).map (· * stride)

/-- How many slices of a list are complete -/
def count (length stride size : ℕ) : ℕ := if length ≤ size then (size - length) / stride + 1 else 0

/-- No two complete slices begin with elements of one key. -/
def StartApart {κ : Type} (length stride : ℕ) (key : α → κ) (l : List α) : Prop :=
  ∀ (j k : ℕ) x y, j < k → k * stride + length ≤ l.length → l[j * stride]? = some x →
    l[k * stride]? = some y → key x ≠ key y

theorem length_slice (length : ℕ) (l : List α) (start : ℕ) :
    (slice length l start).length = min length (l.length - start) := by
  rw [slice, List.length_take, List.length_drop]

theorem slice_sublist (length : ℕ) (l : List α) (start : ℕ) : (slice length l start).Sublist l :=
  (List.take_sublist _ _).trans (List.drop_sublist _ _)

theorem getElem?_slice {start i : ℕ} (hi : i < length) : (slice length l start)[i]? = l[start + i]? := by
  rw [slice, List.getElem?_take_of_lt hi, List.getElem?_drop]

/-- A slice is complete when it ends within the list. -/
theorem lt_count_iff {size k : ℕ} (hstride : 0 < stride) :
    k < count length stride size ↔ k * stride + length ≤ size := by
  rw [count]
  split_ifs with hlength
  · rw [Nat.lt_succ_iff, Nat.le_div_iff_mul_le hstride]
    omega
  · constructor
    · exact fun h => absurd h (Nat.not_lt_zero k)
    · omega

theorem lt_starts_iff {size k : ℕ} (hstride : 0 < stride) :
    k < starts stride size ↔ k * stride < size := by
  rw [starts, ← Nat.succ_le_iff, Nat.le_div_iff_mul_le hstride, Nat.succ_mul]
  omega

theorem count_le (hlength : 0 < length) (hstride : 0 < stride) (size : ℕ) :
    count length stride size ≤ starts stride size := by
  rw [count, starts]
  split_ifs with h
  · rw [Nat.succ_le_iff, Nat.div_lt_iff_lt_mul hstride]
    have hlt := Nat.lt_div_mul_add (a := size + stride - 1) hstride
    omega
  · exact Nat.zero_le _

/-- The loop takes the complete slices one after the other. -/
theorem slide_map_range (hlength : 0 < length) (hstride : 0 < stride) (first total : ℕ) :
    slide length check l ((List.range' first total).map (· * stride)) =
      (List.range' first (min total (count length stride l.length - first))).mapM fun k =>
        check (slice length l (k * stride)) := by
  induction total generalizing first with
  | zero => rw [Nat.zero_min]; rfl
  | succ total ih =>
    rw [List.range'_succ, List.map_cons, slide, length_slice]
    have hshort : min length (l.length - first * stride) < length ↔
        ¬first < count length stride l.length := by
      rw [lt_count_iff hstride]
      omega
    by_cases hcomplete : first < count length stride l.length
    · rw [if_neg (by rw [hshort]; exact not_not.mpr hcomplete), ih]
      have hmin : min (total + 1) (count length stride l.length - first) =
          min total (count length stride l.length - (first + 1)) + 1 := by omega
      rw [hmin, List.range'_succ, List.mapM_cons]
      rfl
    · have hzero : min (total + 1) (count length stride l.length - first) = 0 := by omega
      rw [if_pos (hshort.mpr hcomplete), hzero]
      rfl

/-- The windows of the loop, one for each complete slice -/
theorem slide_range (hlength : 0 < length) (hstride : 0 < stride) :
    slide length check l (offsets stride l.length) =
      (List.range (count length stride l.length)).mapM fun k =>
        check (slice length l (k * stride)) := by
  rw [offsets, List.range_eq_range', slide_map_range hlength hstride, Nat.sub_zero,
    min_eq_right (count_le hlength hstride _), List.range_eq_range']

/-- A successful loop made a window of each complete slice. -/
theorem slide_eq_ok (hlength : 0 < length) (hstride : 0 < stride) {windows : List β}
    (h : slide length check l (offsets stride l.length) = .ok windows) :
    windows.length = count length stride l.length ∧ ∀ (k : ℕ) window, windows[k]? = some window →
      k * stride + length ≤ l.length ∧ check (slice length l (k * stride)) = .ok window := by
  rw [slide_range hlength hstride, List.mapM_eq_ok_iff] at h
  have hsize := h.length_eq
  rw [List.length_range] at hsize
  refine ⟨hsize.symm, fun k window hwindow => ?_⟩
  obtain ⟨hk, rfl⟩ := List.getElem?_eq_some_iff.mp hwindow
  have hcheck := h.get (i := k) (by rwa [List.length_range, hsize]) hk
  refine ⟨(lt_count_iff hstride).mp (hsize ▸ hk), ?_⟩
  simpa using hcheck

/-- Windows that are named after their first elements have different names when these have. -/
theorem nodup_map_slide_iff {κ : Type} {name : β → κ} (key : α → κ) (hlength : 0 < length)
    (hstride : 0 < stride) {windows : List β}
    (hname : ∀ (i : ℕ) first window, i + length ≤ l.length → l[i]? = some first →
      check (slice length l i) = .ok window → name window = key first)
    (h : slide length check l (offsets stride l.length) = .ok windows) :
    (windows.map name).Nodup ↔ StartApart length stride key l := by
  obtain ⟨hsize, hwindows⟩ := slide_eq_ok hlength hstride h
  have hkey : ∀ (k : ℕ) first, k * stride + length ≤ l.length → l[k * stride]? = some first →
      ∃ window, windows[k]? = some window ∧ name window = key first := by
    intro k first hfit hfirst
    have hk : k < windows.length := hsize ▸ (lt_count_iff hstride).mpr hfit
    have hwindow := List.getElem?_eq_getElem hk
    exact ⟨windows[k], hwindow, hname _ _ _ hfit hfirst (hwindows k _ hwindow).2⟩
  rw [List.Nodup, List.pairwise_map, List.pairwise_iff_getElem]
  constructor
  · intro hnodup j k x y hjk hfit hx hy
    have hle : j * stride ≤ k * stride := Nat.mul_le_mul_right _ hjk.le
    obtain ⟨window, hwindow, hwindowName⟩ := hkey j x (by omega) hx
    obtain ⟨window', hwindow', hwindowName'⟩ := hkey k y hfit hy
    obtain ⟨hj, rfl⟩ := List.getElem?_eq_some_iff.mp hwindow
    obtain ⟨hk, rfl⟩ := List.getElem?_eq_some_iff.mp hwindow'
    exact hwindowName ▸ hwindowName' ▸ hnodup j k hj hk hjk
  · intro hapart j k hj hk hjk
    obtain ⟨hfit, hcheck⟩ := hwindows j _ (List.getElem?_eq_getElem hj)
    obtain ⟨hfit', hcheck'⟩ := hwindows k _ (List.getElem?_eq_getElem hk)
    have hx : l[j * stride]? = some l[j * stride] := List.getElem?_eq_getElem (by omega)
    have hy : l[k * stride]? = some l[k * stride] := List.getElem?_eq_getElem (by omega)
    rw [hname _ _ _ hfit hx hcheck, hname _ _ _ hfit' hy hcheck']
    exact hapart j k _ _ hjk hfit' hx hy

theorem StartApart.of_key {κ κ' : Type} {key : α → κ} (key' : α → κ')
    (hkeys : ∀ x ∈ l, ∀ y ∈ l, key x = key y → key' x = key' y)
    (h : StartApart length stride key' l) : StartApart length stride key l := by
  intro j k x y hjk hfit hx hy
  exact mt (hkeys x (List.mem_of_getElem? hx) y (List.mem_of_getElem? hy)) (h j k x y hjk hfit hx hy)

theorem startApart_congr {κ κ' : Type} {key : α → κ} {key' : α → κ'}
    (hkeys : ∀ x ∈ l, ∀ y ∈ l, key x = key y ↔ key' x = key' y) :
    StartApart length stride key l ↔ StartApart length stride key' l := by
  constructor
  · exact StartApart.of_key key fun x hx y hy => (hkeys x hx y hy).mpr
  · exact StartApart.of_key key' fun x hx y hy => (hkeys x hx y hy).mp

/-- In a sorted list the slices of one element begin with different keys when of no key two
elements stand at offsets: with the elements that are smaller and those that are not greater
counted, at most one offset lies between. -/
theorem startApart_iff {κ : Type} [LinearOrder κ] {key : α → κ} (hstride : 0 < stride)
    (hsorted : l.Pairwise fun x y => key x ≤ key y) :
    StartApart 1 stride key l ↔ ∀ x ∈ l, starts stride (l.countP (key · ≤ key x)) ≤
      starts stride (l.countP (key · < key x)) + 1 := by
  have hle : ∀ z (i : ℕ) x, l[i]? = some x → (key x ≤ key z ↔ i < l.countP (key · ≤ key z)) := by
    intro z i x hx
    have hfirst : l.Pairwise fun x y => decide (key y ≤ key z) → decide (key x ≤ key z) :=
      hsorted.imp fun hxy hy => decide_eq_true (hxy.trans (of_decide_eq_true hy))
    exact decide_eq_true_iff.symm.trans
      (List.Pairwise.iff_lt_countP (p := fun x => decide (key x ≤ key z)) hfirst hx)
  have hlt : ∀ z (i : ℕ) x, l[i]? = some x → (key x < key z ↔ i < l.countP (key · < key z)) := by
    intro z i x hx
    have hfirst : l.Pairwise fun x y => decide (key y < key z) → decide (key x < key z) :=
      hsorted.imp fun hxy hy => decide_eq_true (hxy.trans_lt (of_decide_eq_true hy))
    exact decide_eq_true_iff.symm.trans
      (List.Pairwise.iff_lt_countP (p := fun x => decide (key x < key z)) hfirst hx)
  constructor
  · intro hapart z _
    by_contra hmany
    rw [not_le] at hmany
    -- the first offset at or after the smaller elements, and the next one
    obtain ⟨j, hj⟩ : ∃ j, j = starts stride (l.countP (key · < key z)) := ⟨_, rfl⟩
    have hbelow : ¬j * stride < l.countP (key · < key z) := by
      rw [← lt_starts_iff hstride]
      omega
    have hnext : (j + 1) * stride < l.countP (key · ≤ key z) := by
      rw [← lt_starts_iff hstride]
      omega
    have hcount : l.countP (key · ≤ key z) ≤ l.length := List.countP_le_length
    have hstep : (j + 1) * stride = j * stride + stride := Nat.succ_mul _ _
    have hx : l[j * stride]? = some l[j * stride] := List.getElem?_eq_getElem (by omega)
    have hy : l[(j + 1) * stride]? = some l[(j + 1) * stride] :=
      List.getElem?_eq_getElem (by omega)
    have hxz := le_antisymm ((hle z _ _ hx).mpr (by omega))
      (not_lt.mp (mt (hlt z _ _ hx).mp hbelow))
    have hyz := le_antisymm ((hle z _ _ hy).mpr hnext)
      (not_lt.mp (mt (hlt z _ _ hy).mp (by omega)))
    exact hapart j (j + 1) _ _ (Nat.lt_succ_self j) (by omega) hx hy (hxz.trans hyz.symm)
  · intro hfew j k x y hjk _ hx hy hxy
    have hk := (hle x _ _ hy).mp hxy.ge
    have hj := mt (hlt x _ _ hx).mpr (lt_irrefl _)
    rw [← lt_starts_iff hstride] at hk hj
    have := hfew x (List.mem_of_getElem? hx)
    omega

/-- With a stride no longer than the windows, what comes before the end of a complete window is in
one. -/
theorem exists_offset {i last : ℕ} (hstride : 0 < stride) (hle : stride ≤ length)
    (hi : i < last * stride + length) :
    ∃ k ≤ last, k * stride ≤ i ∧ i < k * stride + length := by
  by_cases hlast : last * stride ≤ i
  · exact ⟨last, le_rfl, hlast, hi⟩
  · refine ⟨i / stride, ?_, Nat.div_mul_le_self i stride, ?_⟩
    · rw [not_le] at hlast
      exact (Nat.div_lt_iff_lt_mul hstride).mpr hlast |>.le
    · have hlt := Nat.lt_div_mul_add (a := i) hstride
      omega

/-! ## Contiguous slices -/

section Contiguous

variable {κ : Type} [DecidableEq κ] {sequence : α → ℤ} {gap : α → Bool} {boundary : α → κ}
  {first : α} {rows : List α}

/-- The rows follow on the first one, with its boundary and without a gap between them. -/
def contiguous (sequence : α → ℤ) (gap : α → Bool) (boundary : α → κ) (first : α)
    (rows : List α) : Bool :=
  rows.zipIdx.all fun (row, offset) =>
    sequence row = sequence first + offset && !(offset ≠ 0 && gap row) &&
      boundary row = boundary first

theorem contiguous_iff :
    contiguous sequence gap boundary first rows ↔ ∀ (i : ℕ) row, rows[i]? = some row →
      sequence row = sequence first + i ∧ (0 < i → gap row = false) ∧
        boundary row = boundary first := by
  have hcheck : ∀ (row : α) (i : ℕ), (sequence row = sequence first + i && !(i ≠ 0 && gap row) &&
      boundary row = boundary first : Bool) ↔ sequence row = sequence first + i ∧
        (0 < i → gap row = false) ∧ boundary row = boundary first := by
    intro row i
    simp [and_assoc, Nat.pos_iff_ne_zero, imp_iff_not_or]
  rw [contiguous, List.all_eq_true]
  constructor
  · intro h i row hrow
    exact (hcheck row i).mp (h (row, i) (List.mk_mem_zipIdx_iff_getElem?.mpr hrow))
  · rintro h ⟨row, i⟩ hmem
    exact (hcheck row i).mpr (h i row (List.mk_mem_zipIdx_iff_getElem?.mp hmem))

end Contiguous

end SlidingWindows
