import Mathlib

/-!
# Listings of a bucket

A bucket is an association list. Its listing gives the keys that satisfy a condition, in order; two
buckets with the same such keys have the same listing (`listing_congr`), and a new key is inserted
in its place.
-/

namespace Bucket

variable {K : Type*} {β : K → Type*} [LinearOrder K]

/-- The keys that satisfy a condition, in order -/
def listing (s : AList β) (p : K → Bool) : List K := (s.keys.filter p).insertionSort (· ≤ ·)

variable {s s' : AList β} {p : K → Bool} {k : K}

theorem mem_listing : k ∈ listing s p ↔ k ∈ s ∧ p k := by
  rw [listing, List.mem_insertionSort, List.mem_filter, AList.mem_keys]

theorem nodup_listing (s : AList β) (p : K → Bool) : (listing s p).Nodup :=
  (List.perm_insertionSort _ _).nodup_iff.mpr (s.keys_nodup.filter p)

theorem sorted_listing (s : AList β) (p : K → Bool) : (listing s p).SortedLE :=
  List.sortedLE_insertionSort

theorem listing_congr (h : ∀ k, p k → (k ∈ s ↔ k ∈ s')) : listing s p = listing s' p := by
  apply List.Perm.eq_of_sortedLE (sorted_listing s p) (sorted_listing s' p)
  apply (List.perm_ext_iff_of_nodup (nodup_listing s p) (nodup_listing s' p)).mpr
  intro k
  rw [mem_listing, mem_listing]
  exact and_congr_left (h k)

variable [DecidableEq K]

theorem listing_insert_of_not {v : β k} (hk : ¬p k) : listing (s.insert k v) p = listing s p := by
  refine listing_congr fun k' hk' => ?_
  have hne : k' ≠ k := fun heq => hk (heq ▸ hk')
  rw [AList.mem_insert, or_iff_right hne]

theorem listing_insert_of_mem {v : β k} (hk : k ∈ s) : listing (s.insert k v) p = listing s p := by
  refine listing_congr fun k' _ => ?_
  rw [AList.mem_insert, or_iff_right_of_imp fun heq => heq ▸ hk]

theorem listing_insert_of_new {v : β k} (hk : k ∉ s) (hp : p k) :
    listing (s.insert k v) p = (listing s p).orderedInsert (· ≤ ·) k := by
  have hkeys : k ∉ s.keys := hk
  rw [listing, AList.keys_insert, List.erase_of_not_mem hkeys, List.filter_cons_of_pos hp,
    List.insertionSort_cons, listing]

/-- A new key leaves the others in their order. -/
theorem listing_sublist_insert {v : β k} : (listing s p).Sublist (listing (s.insert k v) p) := by
  by_cases hp : p k
  · by_cases hk : k ∈ s
    · rw [listing_insert_of_mem hk]
    · rw [listing_insert_of_new hk hp]
      exact List.sublist_orderedInsert k _
  · rw [listing_insert_of_not hp]

omit [DecidableEq K] in
theorem listing_eq_nil : listing s p = [] ↔ ∀ k ∈ s, ¬p k := by
  rw [List.eq_nil_iff_forall_not_mem]
  simp only [mem_listing, not_and]

end Bucket
