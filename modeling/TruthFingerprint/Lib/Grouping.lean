import Mathlib
import TruthFingerprint.Lib.FirstOccurrences

/-!
# Groups and their representatives

The groups of a list under a key, each with its elements in the order of the list, as a dictionary
of lists collects them (`foldl_addToGroup`). A group whose elements all have one meaning has a
representative, the one that a preference puts first. No two representatives have the same key
(`nodup_map_representatives`), and every element whose group has one meaning is represented
(`exists_representative`).
-/

namespace List

variable {α κ μ π : Type*} [DecidableEq κ] (key : α → κ)

/-! ## Groups -/

/-- `groups.setdefault(key, []).append(element)` -/
def addToGroup (groups : List (κ × List α)) (a : α) : List (κ × List α) :=
  if key a ∈ groups.map Prod.fst then
    groups.map fun group => if group.1 = key a then (group.1, group.2 ++ [a]) else group
  else groups ++ [(key a, [a])]

/-- The elements of a key -/
def groupOf (l : List α) (k : κ) : List α := l.filter (key · = k)

def groups (l : List α) : List (κ × List α) :=
  (firstOccurrences (l.map key)).map fun k => (k, groupOf key l k)

variable {l : List α} {a b : α} {k : κ}

@[simp] theorem mem_groupOf : a ∈ groupOf key l k ↔ a ∈ l ∧ key a = k := by simp [groupOf]

theorem groupOf_append_singleton (l : List α) (a : α) (k : κ) :
    groupOf key (l ++ [a]) k = if key a = k then groupOf key l k ++ [a] else groupOf key l k := by
  rw [groupOf, filter_append, filter_singleton]
  split_ifs with h <;> simp_all [groupOf]

theorem groups_append_singleton (l : List α) (a : α) :
    groups key (l ++ [a]) = addToGroup key (groups key l) a := by
  have hkeys : (groups key l).map Prod.fst = firstOccurrences (l.map key) := by
    simp [groups, Function.comp_def]
  rw [addToGroup, hkeys, groups, map_append, map_singleton, firstOccurrences_append_singleton,
    appendNew]
  by_cases ha : key a ∈ firstOccurrences (l.map key)
  · rw [if_pos ha, if_pos ha, groups, map_map]
    refine map_congr_left fun k _ => ?_
    rw [Function.comp_apply, groupOf_append_singleton]
    by_cases hk : key a = k
    · simp [hk]
    · simp [hk, Ne.symm hk]
  · rw [if_neg ha, if_neg ha, map_append, map_singleton, groups]
    congr 1
    · refine map_congr_left fun k hk => ?_
      have hne : key a ≠ k := fun h => ha (h ▸ hk)
      rw [groupOf_append_singleton, if_neg hne]
    · have hnil : groupOf key l (key a) = [] :=
        filter_eq_nil_iff.mpr fun b hb => by
          have hne : key b ≠ key a := fun h =>
            ha (mem_firstOccurrences.mpr (mem_map.mpr ⟨b, hb, h⟩))
          simpa using hne
      rw [groupOf_append_singleton, if_pos rfl, hnil, nil_append]

/-- The loop that adds each element to its group -/
theorem foldl_addToGroup (l : List α) : l.foldl (addToGroup key) [] = groups key l := by
  induction l using reverseRecOn with
  | nil => simp [groups]
  | append_singleton l a ih =>
    rw [foldl_append, ih, foldl_cons, foldl_nil, groups_append_singleton]

theorem perm_flatMap_groupOf {ks : List κ} (hks : ks.Nodup) (h : ∀ a ∈ l, key a ∈ ks) :
    ks.flatMap (groupOf key l) ~ l := by
  induction ks generalizing l with
  | nil =>
    obtain rfl : l = [] := eq_nil_iff_forall_not_mem.mpr fun a ha => not_mem_nil (h a ha)
    rfl
  | cons k ks ih =>
    obtain ⟨hk, hks⟩ := nodup_cons.mp hks
    have hrest : ks.flatMap (groupOf key l) = ks.flatMap (groupOf key (l.filter (key · ≠ k))) := by
      refine flatMap_congr fun k' hk' => ?_
      rw [groupOf, groupOf, filter_filter]
      refine filter_congr fun a _ => ?_
      by_cases ha : key a = k'
      · have hne : key a ≠ k := fun heq => hk (by rw [← heq, ha]; exact hk')
        simp [ha, ha ▸ hne]
      · simp [ha]
    have hkeys : ∀ a ∈ l.filter (key · ≠ k), key a ∈ ks := fun a ha => by
      obtain ⟨hal, hne⟩ := mem_filter.mp ha
      exact (mem_cons.mp (h a hal)).resolve_left (by simpa using hne)
    rw [flatMap_cons, hrest]
    have hsplit : groupOf key l k ++ l.filter (key · ≠ k) ~ l := by
      simpa [groupOf] using filter_append_perm (fun a => decide (key a = k)) l
    exact ((ih hks hkeys).append_left _).trans hsplit

/-- The groups have all elements. -/
theorem perm_flatMap_groups (l : List α) : (groups key l).flatMap Prod.snd ~ l := by
  have hkeys : ∀ a ∈ l, key a ∈ firstOccurrences (l.map key) := fun a ha =>
    mem_firstOccurrences.mpr (mem_map_of_mem ha)
  have h := perm_flatMap_groupOf key (nodup_firstOccurrences (l.map key)) hkeys
  rwa [groups, flatMap_map]

/-! ## Representatives -/

variable [DecidableEq μ] (meaning : α → μ) [LinearOrder π] (preference : α → π)

/-- The elements have one meaning. -/
def OneMeaning (group : List α) : Prop := ∀ a ∈ group, ∀ b ∈ group, meaning a = meaning b

instance (group : List α) : Decidable (OneMeaning meaning group) :=
  inferInstanceAs (Decidable (∀ a ∈ group, ∀ b ∈ group, _))

def representative (group : List α) : Option α :=
  if OneMeaning meaning group then group.argmin preference else none

/-- The representatives of the groups, by increasing key -/
def representatives [LinearOrder κ] (l : List α) : List α :=
  ((groups key l).insertionSort fun g h => g.1 ≤ h.1).filterMap fun group =>
    representative meaning preference group.2

theorem mem_of_representative {group : List α} (h : representative meaning preference group = some a) :
    a ∈ group ∧ OneMeaning meaning group := by
  rw [representative] at h
  split_ifs at h with hone
  exact ⟨argmin_mem h, hone⟩

variable [LinearOrder κ]

theorem mem_representatives :
    a ∈ representatives key meaning preference l ↔
      representative meaning preference (groupOf key l (key a)) = some a := by
  simp only [representatives, mem_filterMap, mem_insertionSort, groups, mem_map,
    mem_firstOccurrences]
  constructor
  · rintro ⟨-, ⟨k, -, rfl⟩, ha⟩
    obtain ⟨hmem, -⟩ := mem_of_representative meaning preference ha
    obtain ⟨-, rfl⟩ := (mem_groupOf key).mp hmem
    exact ha
  · intro ha
    obtain ⟨hmem, -⟩ := mem_of_representative meaning preference ha
    exact ⟨_, ⟨key a, ⟨a, ((mem_groupOf key).mp hmem).1, rfl⟩, rfl⟩, ha⟩

theorem mem_of_mem_representatives (h : a ∈ representatives key meaning preference l) : a ∈ l :=
  ((mem_groupOf key).mp (mem_of_representative _ _ ((mem_representatives key meaning
    preference).mp h)).1).1

/-- The group of a representative has one meaning. -/
theorem meaning_eq_of_mem_representatives (h : a ∈ representatives key meaning preference l)
    (hb : b ∈ l) (hkey : key b = key a) : meaning b = meaning a := by
  obtain ⟨hmem, hone⟩ := mem_of_representative _ _ ((mem_representatives key meaning
    preference).mp h)
  exact hone b ((mem_groupOf key).mpr ⟨hb, hkey⟩) a hmem

theorem eq_of_mem_representatives (ha : a ∈ representatives key meaning preference l)
    (hb : b ∈ representatives key meaning preference l) (h : key a = key b) : a = b := by
  rw [mem_representatives] at ha hb
  rw [h] at ha
  exact Option.some.inj (ha.symm.trans hb)

theorem nodup_map_representatives : ((representatives key meaning preference l).map key).Nodup := by
  have hkeys : (((groups key l).insertionSort fun g h => g.1 ≤ h.1).map Prod.fst).Nodup := by
    refine (((perm_insertionSort _ _).map _).nodup_iff).mpr ?_
    have hfst : (groups key l).map Prod.fst = firstOccurrences (l.map key) := by
      simp [groups, Function.comp_def]
    rw [hfst]
    exact nodup_firstOccurrences _
  have hmem : ∀ group ∈ (groups key l).insertionSort fun g h => g.1 ≤ h.1,
      ∀ b ∈ group.2, key b = group.1 := by
    intro group hgroup b hb
    obtain ⟨k, -, rfl⟩ := mem_map.mp ((mem_insertionSort _).mp hgroup)
    exact ((mem_groupOf key).mp hb).2
  rw [representatives]
  generalize (groups key l).insertionSort (fun g h => g.1 ≤ h.1) = gs at hkeys hmem
  refine Nodup.sublist ?_ hkeys
  induction gs with
  | nil => exact Sublist.refl _
  | cons group gs ih =>
    obtain ⟨hgroup, hgs⟩ := forall_mem_cons.mp hmem
    have ih := ih (nodup_cons.mp hkeys).2 hgs
    rw [filterMap_cons]
    split
    · exact ih.cons _
    · rename_i b hb
      rw [map_cons, map_cons, hgroup b (mem_of_representative _ _ hb).1]
      exact ih.cons_cons _

theorem nodup_representatives : (representatives key meaning preference l).Nodup :=
  (nodup_map_representatives key meaning preference).of_map key

/-- Every element whose group has one meaning is represented. -/
theorem exists_representative (ha : a ∈ l) (hone : OneMeaning meaning (groupOf key l (key a))) :
    ∃ b ∈ representatives key meaning preference l, key b = key a := by
  have hne : groupOf key l (key a) ≠ [] :=
    ne_nil_of_mem ((mem_groupOf key).mpr ⟨ha, rfl⟩)
  have hsome : (groupOf key l (key a)).argmin preference ≠ none := mt argmin_eq_none.mp hne
  obtain ⟨b, hb⟩ := Option.ne_none_iff_exists'.mp hsome
  obtain ⟨-, hkey⟩ := (mem_groupOf key).mp (argmin_mem hb)
  refine ⟨b, (mem_representatives key meaning preference).mpr ?_, hkey⟩
  rw [hkey, representative, if_pos hone]
  exact hb

/-- A list without repetition of a key represents itself. -/
theorem representatives_perm (h : (l.map key).Nodup) :
    representatives key meaning preference l ~ l := by
  refine (perm_ext_iff_of_nodup (nodup_representatives key meaning preference)
    (h.of_map key)).mpr fun a => ⟨mem_of_mem_representatives key meaning preference, fun ha => ?_⟩
  have hsingle : ∀ b ∈ groupOf key l (key a), b = a := fun b hb =>
    inj_on_of_nodup_map h ((mem_groupOf key).mp hb).1 ha ((mem_groupOf key).mp hb).2
  obtain ⟨b, hb, hkey⟩ := exists_representative key meaning preference ha fun x hx y hy => by
    rw [hsingle x hx, hsingle y hy]
  have hba : b = a := hsingle b ((mem_groupOf key).mpr
    ⟨mem_of_mem_representatives key meaning preference hb, hkey⟩)
  exact hba ▸ hb

end List
