import Mathlib
import TruthFingerprint.Lib.FirstOccurrences

/-!
# Dictionaries

A dictionary is a list of items with distinct keys, in the order in which the keys were first set.
`ofItems` sets one item after the other, so that of equal keys the last value stays. It keeps every
item if and only if no two have the same key (`length_ofItems_eq_iff`).
-/

universe u v

namespace Dict

variable {κ : Type u} {α : Type v} [DecidableEq κ]

/-- `dictionary[key] = value` -/
def setItem (d : List (κ × α)) (item : κ × α) : List (κ × α) :=
  if item.1 ∈ d.map Prod.fst then d.map fun other => if other.1 = item.1 then item else other
  else d ++ [item]

/-- `dict(items)` -/
def ofItems (items : List (κ × α)) : List (κ × α) := items.foldl setItem []

variable {d items : List (κ × α)} {item : κ × α} {k : κ} {a : α}

theorem ofItems_append_singleton (items : List (κ × α)) (item : κ × α) :
    ofItems (items ++ [item]) = setItem (ofItems items) item := by
  rw [ofItems, List.foldl_append]
  rfl

theorem keys_setItem : (setItem d item).map Prod.fst = List.appendNew (d.map Prod.fst) item.1 := by
  rw [setItem, List.appendNew]
  split_ifs with h
  · rw [List.map_map]
    refine List.map_congr_left fun other _ => ?_
    by_cases hother : other.1 = item.1
    · simp [hother]
    · simp [hother]
  · rw [List.map_append, List.map_singleton]

theorem keys_ofItems (items : List (κ × α)) :
    (ofItems items).map Prod.fst = List.firstOccurrences (items.map Prod.fst) := by
  induction items using List.reverseRecOn with
  | nil => simp [ofItems]
  | append_singleton items item ih =>
    rw [ofItems_append_singleton, keys_setItem, ih, List.map_append, List.map_singleton,
      List.firstOccurrences_append_singleton]

theorem nodup_keys_ofItems (items : List (κ × α)) : ((ofItems items).map Prod.fst).Nodup := by
  rw [keys_ofItems]
  exact List.nodup_firstOccurrences _

@[simp] theorem mem_keys_ofItems : k ∈ (ofItems items).map Prod.fst ↔ k ∈ items.map Prod.fst := by
  rw [keys_ofItems, List.mem_firstOccurrences]

/-- The keys stay when those that are set are among them. -/
theorem keys_foldl_setItem (h : ∀ k ∈ items.map Prod.fst, k ∈ d.map Prod.fst) :
    (items.foldl setItem d).map Prod.fst = d.map Prod.fst := by
  induction items generalizing d with
  | nil => rfl
  | cons item items ih =>
    obtain ⟨hitem, hitems⟩ := List.forall_mem_cons.mp h
    have hkeys : (setItem d item).map Prod.fst = d.map Prod.fst := by
      rw [keys_setItem, List.appendNew, if_pos hitem]
    rw [List.foldl_cons, ih (hkeys ▸ hitems), hkeys]

theorem mem_setItem {other : κ × α} :
    other ∈ setItem d item ↔ other = item ∨ other ∈ d ∧ other.1 ≠ item.1 := by
  rw [setItem]
  split_ifs with hkey
  · constructor
    · intro h
      obtain ⟨b, hb, rfl⟩ := List.mem_map.mp h
      split_ifs with hb'
      · exact .inl rfl
      · exact .inr ⟨hb, hb'⟩
    · rintro (rfl | ⟨hmem, hne⟩)
      · obtain ⟨b, hb, hb'⟩ := List.mem_map.mp hkey
        exact List.mem_map.mpr ⟨b, hb, if_pos hb'⟩
      · exact List.mem_map.mpr ⟨other, hmem, if_neg hne⟩
  · rw [List.mem_append, List.mem_singleton, or_comm]
    refine or_congr_right ⟨fun hmem => ⟨hmem, fun heq => hkey ?_⟩, And.left⟩
    exact List.mem_map.mpr ⟨other, hmem, heq⟩

/-- A dictionary keeps the last item of each key. -/
theorem mem_ofItems_iff : item ∈ ofItems items ↔
    ∃ before after, items = before ++ item :: after ∧ item.1 ∉ after.map Prod.fst := by
  induction items using List.reverseRecOn with
  | nil => simp [ofItems]
  | append_singleton items last ih =>
    rw [ofItems_append_singleton, mem_setItem, ih]
    constructor
    · rintro (rfl | ⟨⟨before, after, rfl, hafter⟩, hne⟩)
      · exact ⟨items, [], rfl, List.not_mem_nil⟩
      · refine ⟨before, after ++ [last], by simp, ?_⟩
        rw [List.map_append, List.mem_append, not_or]
        exact ⟨hafter, fun h => hne (List.mem_singleton.mp h)⟩
    · rintro ⟨before, after, heq, hafter⟩
      rcases List.eq_nil_or_concat' after with rfl | ⟨after, other, rfl⟩
      · obtain ⟨-, h⟩ := List.append_inj' heq rfl
        exact .inl (List.singleton_inj.mp h).symm
      · rw [← List.cons_append, ← List.append_assoc] at heq
        obtain ⟨rfl, h⟩ := List.append_inj' heq rfl
        obtain rfl := List.singleton_inj.mp h
        rw [List.map_append, List.mem_append, not_or] at hafter
        refine .inr ⟨⟨before, after, rfl, hafter.1⟩, fun h => hafter.2 ?_⟩
        exact List.mem_singleton.mpr h

theorem mem_of_mem_ofItems (h : item ∈ ofItems items) : item ∈ items := by
  obtain ⟨before, after, rfl, -⟩ := mem_ofItems_iff.mp h
  exact List.mem_append_right _ List.mem_cons_self

/-- Items with distinct keys are a dictionary already. -/
theorem ofItems_of_nodup (h : (items.map Prod.fst).Nodup) : ofItems items = items := by
  induction items using List.reverseRecOn with
  | nil => rfl
  | append_singleton items item ih =>
    rw [List.map_append, List.map_singleton] at h
    have hnew : item.1 ∉ items.map Prod.fst := fun hmem =>
      List.disjoint_of_nodup_append h hmem (List.mem_singleton_self _)
    rw [ofItems_append_singleton, ih h.of_append_left, setItem, if_neg hnew]

theorem length_firstOccurrences_eq_iff {keys : List κ} :
    (List.firstOccurrences keys).length = keys.length ↔ keys.Nodup := by
  rw [List.firstOccurrences, List.length_reverse, ← (List.length_reverse : keys.reverse.length = _),
    ← List.nodup_reverse]
  constructor
  · intro h
    rw [← (List.dedup_sublist keys.reverse).eq_of_length h]
    exact List.nodup_dedup _
  · intro h
    rw [h.dedup]

theorem length_ofItems_eq_iff :
    (ofItems items).length = items.length ↔ (items.map Prod.fst).Nodup := by
  rw [← length_firstOccurrences_eq_iff, ← keys_ofItems, List.length_map, List.length_map]

section Lookup

variable [BEq κ] [LawfulBEq κ]

omit [DecidableEq κ] in
/-- With distinct keys, what is found under a key is the item with the key. -/
theorem lookup_eq_some_iff (h : (d.map Prod.fst).Nodup) :
    d.lookup k = some a ↔ (k, a) ∈ d := by
  induction d with
  | nil => simp
  | cons item d ih =>
    obtain ⟨hhead, htail⟩ := List.nodup_cons.mp h
    obtain ⟨k', a'⟩ := item
    by_cases hk : k = k'
    · subst hk
      have hout : (k, a) ∉ d := fun hmem => hhead (List.mem_map.mpr ⟨(k, a), hmem, rfl⟩)
      simp [hout, eq_comm]
    · simp [List.lookup_cons, beq_false_of_ne hk, hk, ih htail]

omit [DecidableEq κ] in
theorem lookup_isSome_iff : (d.lookup k).isSome ↔ k ∈ d.map Prod.fst := by
  induction d with
  | nil => simp
  | cons item d ih =>
    obtain ⟨k', a'⟩ := item
    by_cases hk : k = k'
    · subst hk
      simp
    · simp [List.lookup_cons, beq_false_of_ne hk, hk, ih]

theorem exists_lookup_ofItems (h : item ∈ items) :
    ∃ b, (ofItems items).lookup item.1 = some b ∧ (item.1, b) ∈ items := by
  have hkey : item.1 ∈ (ofItems items).map Prod.fst :=
    mem_keys_ofItems.mpr (List.mem_map.mpr ⟨item, h, rfl⟩)
  obtain ⟨b, hb⟩ := Option.isSome_iff_exists.mp (lookup_isSome_iff.mpr hkey)
  exact ⟨b, hb, mem_of_mem_ofItems ((lookup_eq_some_iff (nodup_keys_ofItems items)).mp hb)⟩

theorem lookup_map_replace (hmem : item.1 ∈ d.map Prod.fst ∨ k ≠ item.1) :
    (d.map fun other => if other.1 = item.1 then item else other).lookup k =
      if k = item.1 then some item.2 else d.lookup k := by
  obtain ⟨key, value⟩ := item
  induction d with
  | nil =>
    rcases hmem with hmem | hne
    · cases hmem
    · simp [hne]
  | cons other d ih =>
    obtain ⟨key', value'⟩ := other
    rw [List.map_cons, List.lookup_cons, List.lookup_cons]
    by_cases hk : k = key
    · subst hk
      by_cases hkey : key' = k
      · simp [hkey]
      · have hrest : k ∈ d.map Prod.fst ∨ k ≠ k := by
          rcases hmem with hmem | hne
          · exact .inl (List.mem_of_ne_of_mem (Ne.symm hkey) hmem)
          · exact .inr hne
        have ih := ih hrest
        simpa [hkey, beq_false_of_ne (Ne.symm hkey)] using ih
    · have ih := ih (.inr hk)
      by_cases hkey : key' = key
      · subst hkey
        simpa [hk, beq_false_of_ne hk] using ih
      · rw [if_neg hkey, if_neg hk, ih, if_neg hk]

theorem lookup_setItem : (setItem d item).lookup k =
    if k = item.1 then some item.2 else d.lookup k := by
  rw [setItem]
  split_ifs with hmem hk hk
  · rw [lookup_map_replace (.inl hmem), if_pos hk]
  · rw [lookup_map_replace (.inl hmem), if_neg hk]
  · have hnone : d.lookup item.1 = none := by
      rw [← Option.not_isSome_iff_eq_none, lookup_isSome_iff]
      exact hmem
    obtain ⟨key, value⟩ := item
    rw [List.lookup_append, hk, hnone, List.lookup_cons_self]
    rfl
  · obtain ⟨key, value⟩ := item
    rw [List.lookup_append, List.lookup_cons, beq_false_of_ne hk, List.lookup_nil, Option.or_none]

/-- Items that are set with distinct keys are found, and what was there otherwise. -/
theorem lookup_foldl_setItem (h : (items.map Prod.fst).Nodup) :
    (items.foldl setItem d).lookup k = (items.lookup k).or (d.lookup k) := by
  induction items generalizing d with
  | nil => rfl
  | cons item items ih =>
    obtain ⟨hfresh, hnodup⟩ := List.nodup_cons.mp h
    obtain ⟨key, value⟩ := item
    rw [List.foldl_cons, ih hnodup, lookup_setItem, List.lookup_cons]
    by_cases hkey : k = key
    · subst hkey
      have hnone : items.lookup k = none := by
        rw [← Option.not_isSome_iff_eq_none, lookup_isSome_iff]
        exact hfresh
      simp [hnone]
    · simp [hkey, beq_false_of_ne hkey]

end Lookup

/-- `Counter(keys)` -/
def counter (keys : List κ) : List (κ × ℕ) :=
  keys.foldl (fun counts k => setItem counts (k, (counts.lookup k).getD 0 + 1)) []

theorem lookup_counter (keys : List κ) (k : κ) :
    (counter keys).lookup k = if k ∈ keys then some (keys.count k) else none := by
  induction keys using List.reverseRecOn with
  | nil => rfl
  | append_singleton keys key ih =>
    have hstep : counter (keys ++ [key]) =
        setItem (counter keys) (key, ((counter keys).lookup key).getD 0 + 1) := by
      rw [counter, List.foldl_append]
      rfl
    rw [hstep, lookup_setItem]
    by_cases hk : k = key
    · subst hk
      rw [if_pos rfl, if_pos (List.mem_append_right _ (List.mem_singleton_self k)), ih,
        List.count_append, List.count_singleton_self]
      by_cases hmem : k ∈ keys
      · rw [if_pos hmem, Option.getD_some]
      · rw [if_neg hmem, List.count_eq_zero_of_not_mem hmem, Option.getD_none]
    · rw [if_neg hk, ih, List.count_append, List.count_singleton]
      simp [hk, Ne.symm hk]

end Dict
