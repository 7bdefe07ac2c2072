import Mathlib

/-!
# Chunks

A list is cut into groups of one size that follow each other, and what is left over at its end. An
item more either completes a group or is left over with the others (`chunks_concat`).
-/

namespace Chunks

variable {α β : Type} {n : ℕ} {l : List α}

def chunk (n : ℕ) (l : List α) (k : ℕ) : List α := (l.drop (k * n)).take n

/-- The complete groups -/
def chunks (n : ℕ) (l : List α) : List (List α) := (List.range (l.length / n)).map (chunk n l)

/-- What does not fill a group -/
def leftover (n : ℕ) (l : List α) : List α := l.drop (l.length / n * n)

@[simp] theorem chunks_nil : chunks n ([] : List α) = [] := by
  rw [chunks, List.length_nil, Nat.zero_div]
  rfl

@[simp] theorem leftover_nil : leftover n ([] : List α) = [] := List.drop_nil

@[simp] theorem length_chunks (n : ℕ) (l : List α) : (chunks n l).length = l.length / n := by
  rw [chunks, List.length_map, List.length_range]

theorem length_leftover (n : ℕ) (l : List α) : (leftover n l).length = l.length % n := by
  rw [leftover, List.length_drop]
  have hdiv := Nat.div_add_mod' l.length n
  omega

theorem getElem?_chunks {k : ℕ} (hk : k < l.length / n) : (chunks n l)[k]? = some (chunk n l k) := by
  rw [chunks, List.getElem?_map, List.getElem?_range hk]
  rfl

theorem chunk_eq_leftover (n : ℕ) (l : List α) (hn : 0 < n) :
    chunk n l (l.length / n) = leftover n l := by
  refine List.take_of_length_le ?_
  rw [← leftover, length_leftover]
  exact (Nat.mod_lt _ hn).le

theorem length_chunk {k : ℕ} (hk : k < l.length / n) : (chunk n l k).length = n := by
  have hfit : (k + 1) * n ≤ l.length := (Nat.mul_le_mul_right n hk).trans (Nat.div_mul_le_self _ _)
  rw [Nat.succ_mul] at hfit
  rw [chunk, List.length_take, List.length_drop]
  omega

theorem getElem?_chunk {k i : ℕ} (hi : i < n) : (chunk n l k)[i]? = l[k * n + i]? := by
  rw [chunk, List.getElem?_take_of_lt hi, List.getElem?_drop]

/-- The groups and what is left over are the list. -/
theorem flatten_chunks_append (n : ℕ) (l : List α) : (chunks n l).flatten ++ leftover n l = l := by
  have htake (k : ℕ) (hk : k ≤ l.length / n) :
      ((List.range k).map (chunk n l)).flatten = l.take (k * n) := by
    induction k with
    | zero => rw [Nat.zero_mul]; rfl
    | succ k ih =>
      rw [List.range_succ, List.map_append, List.flatten_append, ih (by omega), Nat.succ_mul,
        List.take_add]
      exact congrArg (l.take (k * n) ++ ·) (List.append_nil _)
  rw [chunks, htake _ le_rfl, leftover, List.take_append_drop]

theorem mem_of_mem_chunks {items : List α} (h : items ∈ chunks n l) {a : α} (ha : a ∈ items) :
    a ∈ l := by
  obtain ⟨k, -, rfl⟩ := List.mem_map.mp h
  exact List.mem_of_mem_drop (List.mem_of_mem_take ha)

theorem map_chunks (f : α → β) (n : ℕ) (l : List α) :
    chunks n (l.map f) = (chunks n l).map (List.map f) := by
  rw [chunks, chunks, List.length_map, List.map_map]
  refine List.map_congr_left fun k _ => ?_
  rw [Function.comp_apply, chunk, chunk, ← List.map_drop, ← List.map_take]

/-- The groups of the items before stay when one comes after them. -/
theorem chunk_append {k : ℕ} (hk : k < l.length / n) (items : List α) :
    chunk n (l ++ items) k = chunk n l k := by
  have hfit : (k + 1) * n ≤ l.length := (Nat.mul_le_mul_right n hk).trans (Nat.div_mul_le_self _ _)
  rw [Nat.succ_mul] at hfit
  rw [chunk, chunk, List.drop_append_of_le_length (by omega), List.take_append_of_le_length]
  rw [List.length_drop]
  omega

theorem succ_div (hn : 0 < n) (size : ℕ) :
    (size + 1) / n = if size % n + 1 = n then size / n + 1 else size / n := by
  have hmod := Nat.mod_lt size hn
  rw [Nat.succ_div]
  have hdvd : n ∣ size + 1 ↔ size % n + 1 = n := by
    rw [Nat.dvd_iff_mod_eq_zero, Nat.add_mod]
    constructor
    · intro h
      by_contra hne
      have hone : 1 % n = 1 := Nat.mod_eq_of_lt (by omega)
      rw [hone, Nat.mod_eq_of_lt (by omega)] at h
      omega
    · intro h
      rcases Nat.lt_or_ge 1 n with hlt | hle
      · rw [Nat.mod_eq_of_lt hlt, h, Nat.mod_self]
      · obtain rfl : n = 1 := by omega
        exact Nat.mod_one _
  simp only [hdvd]
  split_ifs <;> rfl

theorem chunk_concat (l : List α) (a : α) (hfull : (leftover n l).length + 1 = n) :
    chunk n (l ++ [a]) (l.length / n) = leftover n l ++ [a] := by
  rw [chunk, List.drop_append_of_le_length (Nat.div_mul_le_self _ _)]
  refine List.take_of_length_le ?_
  rw [List.length_append, ← leftover, List.length_singleton, hfull]

/-- An item more completes a group with what was left over, or there is no new group. -/
theorem chunks_concat (hn : 0 < n) (l : List α) (a : α) :
    chunks n (l ++ [a]) = if (leftover n l).length + 1 = n then
      chunks n l ++ [leftover n l ++ [a]] else chunks n l := by
  have hold : (List.range (l.length / n)).map (chunk n (l ++ [a])) = chunks n l :=
    List.map_congr_left fun k hk => chunk_append (List.mem_range.mp hk) [a]
  rw [chunks, List.length_append, List.length_singleton, succ_div hn, ← length_leftover]
  split_ifs with hfull
  · rw [List.range_succ, List.map_append, hold, List.map_singleton, chunk_concat l a hfull]
  · exact hold

theorem leftover_concat (hn : 0 < n) (l : List α) (a : α) :
    leftover n (l ++ [a]) = if (leftover n l).length + 1 = n then [] else leftover n l ++ [a] := by
  rw [leftover, List.length_append, List.length_singleton, succ_div hn, length_leftover]
  split_ifs with hfull
  · refine List.drop_eq_nil_of_le ?_
    rw [List.length_append, List.length_singleton, Nat.succ_mul]
    have hdiv := Nat.div_add_mod' l.length n
    omega
  · exact List.drop_append_of_le_length (Nat.div_mul_le_self _ _)

end Chunks
