import Mathlib

/-!
# First occurrences

The elements of a list without repetition, in the order in which they occur first. A list that an
element is appended to where it is new grows to the first occurrences of what was appended
(`firstOccurrences_append_singleton`).
-/

namespace List

variable {α : Type*} [DecidableEq α] {l : List α} {a : α}

def firstOccurrences (l : List α) : List α := l.reverse.dedup.reverse

/-- Append an element unless the list has it. -/
def appendNew (l : List α) (a : α) : List α := if a ∈ l then l else l ++ [a]

@[simp] theorem firstOccurrences_nil : firstOccurrences ([] : List α) = [] := by
  simp [firstOccurrences]

@[simp] theorem mem_firstOccurrences : a ∈ firstOccurrences l ↔ a ∈ l := by
  simp [firstOccurrences]

theorem nodup_firstOccurrences (l : List α) : (firstOccurrences l).Nodup :=
  List.nodup_reverse.mpr (List.nodup_dedup _)

theorem firstOccurrences_append_singleton (l : List α) (a : α) :
    firstOccurrences (l ++ [a]) = appendNew (firstOccurrences l) a := by
  rw [appendNew, firstOccurrences, List.reverse_append, List.reverse_singleton,
    List.singleton_append]
  by_cases ha : a ∈ l
  · rw [List.dedup_cons_of_mem (List.mem_reverse.mpr ha), if_pos (mem_firstOccurrences.mpr ha)]
    rfl
  · rw [List.dedup_cons_of_notMem (mt List.mem_reverse.mp ha),
      if_neg (mt mem_firstOccurrences.mp ha), List.reverse_cons]
    rfl

/-- A list without repetition whose elements are all the same -/
theorem appendNew_eq_singleton (hl : l.Nodup) (h : ∀ b ∈ l, b = a) : appendNew l a = [a] := by
  cases l with
  | nil => simp [appendNew]
  | cons b l =>
    obtain rfl := h b mem_cons_self
    cases l with
    | nil => simp [appendNew]
    | cons c l =>
      obtain rfl := h c (mem_cons_of_mem _ mem_cons_self)
      exact absurd mem_cons_self (List.nodup_cons.mp hl).1

theorem forall_eq_of_appendNew_sublist (h : appendNew l a <+ [a]) : ∀ b ∈ l, b = a := by
  intro b hb
  have hmem : b ∈ appendNew l a := by
    rw [appendNew]
    split_ifs
    · exact hb
    · exact mem_append_left _ hb
  exact mem_singleton.mp (h.subset hmem)

end List
