import Mathlib
import TruthFingerprint.Lib.Sorting

/-!
# Slices of a ranking

A list is ranked by a key. Where the key tells the elements apart, a slice of the ranking has the
elements whose number of predecessors lies in an interval (`mem_slice_ranked`), and a part of the
list that has the first elements of the ranking ranks them alike (`rankIn_eq_of_first`). A reservoir
keeps the first elements of the ranking of all that it was offered (`foldl_reservoirAdd`).
-/

namespace List

variable {α κ : Type*}

/-! ## Slices -/

/-- `l[offset:offset + count]` -/
def slice (l : List α) (offset count : Nat) : List α := (l.drop offset).take count

section Slice

variable {l : List α} {a : α} {o c o' c' : Nat}

theorem slice_sublist (l : List α) (o c : Nat) : l.slice o c <+ l :=
  (take_sublist _ _).trans (drop_sublist _ _)

theorem mem_of_mem_slice (h : a ∈ l.slice o c) : a ∈ l := (slice_sublist l o c).subset h

theorem slice_sublist_drop (h : o ≤ o') : l.slice o' c <+ l.drop o := by
  obtain ⟨d, rfl⟩ := Nat.exists_eq_add_of_le h
  rw [slice, ← drop_drop]
  exact (take_sublist _ _).trans (drop_sublist _ _)

theorem slice_sublist_take (h : o + c ≤ o') : l.slice o c <+ l.take o' := by
  have heq : l.slice o c = (l.take (o + c)).drop o := by
    rw [slice, drop_take, Nat.add_sub_cancel_left]
  rw [heq]
  exact (drop_sublist _ _).trans (take_sublist_take_left h)

theorem disjoint_slice_of_le (hl : l.Nodup) (h : o + c ≤ o') :
    Disjoint (l.slice o c) (l.slice o' c') := by
  have hsplit : Disjoint (l.take o') (l.drop o') := disjoint_take_drop hl le_rfl
  exact fun a ha ha' =>
    hsplit ((slice_sublist_take h).subset ha) ((slice_sublist_drop le_rfl).subset ha')

/-- The slices of two intervals that do not meet have no element in common. -/
theorem disjoint_slice (hl : l.Nodup) (h : o + c ≤ o' ∨ o' + c' ≤ o) :
    Disjoint (l.slice o c) (l.slice o' c') := by
  rcases h with h | h
  · exact disjoint_slice_of_le hl h
  · exact (disjoint_slice_of_le hl h).symm

end Slice

/-! ## Rankings -/

variable [LinearOrder κ] (key : α → κ)

/-- The list by increasing key, with elements of one key in the order of the list -/
def ranked (l : List α) : List α := l.insertionSort (key · ≤ key ·)

/-- The number of elements that come before an element in the ranking -/
def rankIn (l : List α) (a : α) : Nat := l.countP (key · < key a)

variable {l l' : List α} {a b : α} {k o c : Nat}

theorem perm_ranked (l : List α) : ranked key l ~ l := perm_insertionSort _ _

@[simp] theorem mem_ranked : a ∈ ranked key l ↔ a ∈ l := mem_insertionSort _

theorem nodup_ranked (h : l.Nodup) : (ranked key l).Nodup := (perm_ranked key l).nodup_iff.mpr h

theorem pairwise_ranked (l : List α) : (ranked key l).Pairwise (key · ≤ key ·) :=
  pairwise_insertionSort_of_key key fun _ _ _ _ => Iff.rfl

theorem pairwise_lt_ranked (h : (l.map key).Nodup) : (ranked key l).Pairwise (key · < key ·) := by
  have hne : (ranked key l).Pairwise (key · ≠ key ·) :=
    pairwise_map.mp (((perm_ranked key l).map key).nodup_iff.mpr h)
  exact ((pairwise_ranked key l).and hne).imp fun h => lt_of_le_of_ne h.1 h.2

theorem rankIn_perm (h : l ~ l') (a : α) : rankIn key l a = rankIn key l' a := h.countP_eq _

theorem rankIn_append (l l' : List α) (a : α) :
    rankIn key (l ++ l') a = rankIn key l a + rankIn key l' a := countP_append

theorem rankIn_le_of_sublist (h : l <+ l') (a : α) : rankIn key l a ≤ rankIn key l' a :=
  h.countP_le

theorem rankIn_mono (h : key a ≤ key b) : rankIn key l a ≤ rankIn key l b :=
  countP_mono_left fun _ _ hx => by
    simp only [decide_eq_true_eq] at hx ⊢
    exact lt_of_lt_of_le hx h

theorem rankIn_lt_length (h : a ∈ l) : rankIn key l a < l.length := by
  refine lt_of_le_of_ne countP_le_length fun hall => ?_
  have := countP_eq_length.mp hall a h
  simp at this

/-- In a list that increases, a slice is where the number of predecessors lies in an interval. -/
theorem mem_slice_iff {r : List α} (hr : r.Pairwise (key · < key ·)) :
    a ∈ r.slice o c ↔ a ∈ r ∧ o ≤ rankIn key r a ∧ rankIn key r a < o + c := by
  induction r generalizing o c with
  | nil => simp [slice]
  | cons b r ih =>
    obtain ⟨hb, hr⟩ := pairwise_cons.mp hr
    have hhead : rankIn key (b :: r) b = 0 := by
      refine countP_eq_zero.mpr fun x hx => ?_
      rcases mem_cons.mp hx with rfl | hx
      · simp
      · simpa using (hb x hx).le
    have htail : ∀ a ∈ r, rankIn key (b :: r) a = rankIn key r a + 1 := fun a ha => by
      rw [rankIn, countP_cons_of_pos (by simpa using hb a ha)]
      rfl
    have hnot : b ∉ r := fun h => lt_irrefl _ (hb b h)
    cases o with
    | zero =>
      cases c with
      | zero => simp [slice]
      | succ c =>
        have hslice : (b :: r).slice 0 (c + 1) = b :: r.slice 0 c := by simp [slice]
        rw [hslice, mem_cons, mem_cons, ih hr]
        by_cases hab : a = b
        · subst hab
          simp [hhead]
        · simp only [hab, false_or]
          refine and_congr_right fun ha => ?_
          rw [htail a ha]
          omega
    | succ o =>
      have hslice : (b :: r).slice (o + 1) c = r.slice o c := by simp [slice]
      rw [hslice, ih hr, mem_cons]
      by_cases hab : a = b
      · subst hab
        simp [hhead, hnot]
      · simp only [hab, false_or]
        refine and_congr_right fun ha => ?_
        rw [htail a ha]
        omega

theorem mem_slice_ranked (h : (l.map key).Nodup) :
    a ∈ (ranked key l).slice o c ↔ a ∈ l ∧ o ≤ rankIn key l a ∧ rankIn key l a < o + c := by
  rw [mem_slice_iff key (pairwise_lt_ranked key h), mem_ranked,
    rankIn_perm key (perm_ranked key l)]

theorem mem_take_ranked (h : (l.map key).Nodup) :
    a ∈ (ranked key l).take k ↔ a ∈ l ∧ rankIn key l a < k := by
  have hslice : (ranked key l).take k = (ranked key l).slice 0 k := by simp [slice]
  rw [hslice, mem_slice_ranked key h]
  simp

/-! ## Parts of a list -/

/-- A part of the list with the first `k` elements of its ranking -/
structure HasFirst (k : Nat) (part l : List α) : Prop where
  subset : part ⊆ l
  nodup : (part.map key).Nodup
  first : ∀ a ∈ l, rankIn key l a < k → a ∈ part

theorem HasFirst.nil : HasFirst key k ([] : List α) [] := ⟨Subset.refl _, nodup_nil, by simp⟩

theorem HasFirst.append {p p' : List α} (h : HasFirst key k p l) (h' : HasFirst key k p' l')
    (hl : ((l ++ l').map key).Nodup) : HasFirst key k (p ++ p') (l ++ l') where
  subset := append_subset.mpr
    ⟨subset_append_of_subset_left _ h.subset, subset_append_of_subset_right _ h'.subset⟩
  nodup := by
    rw [map_append] at hl ⊢
    refine nodup_append.mpr ⟨h.nodup, h'.nodup, fun x hx y hy => ?_⟩
    exact (nodup_append.mp hl).2.2 x (map_subset key h.subset hx) y (map_subset key h'.subset hy)
  first a ha hrank := by
    rw [rankIn_append] at hrank
    rcases mem_append.mp ha with ha | ha
    · exact mem_append_left _ (h.first a ha (by omega))
    · exact mem_append_right _ (h'.first a ha (by omega))

theorem HasFirst.of_perm {p p' : List α} (h : HasFirst key k p l) (hp : p' ~ p) :
    HasFirst key k p' l where
  subset := fun _ ha => h.subset (hp.subset ha)
  nodup := (hp.map key).nodup_iff.mpr h.nodup
  first a ha hrank := hp.symm.subset (h.first a ha hrank)

/-- The part ranks its first elements as the list does. -/
theorem rankIn_eq_of_first {part : List α} (h : HasFirst key k part l) (hl : (l.map key).Nodup)
    (hrank : rankIn key part a < k) : rankIn key l a = rankIn key part a := by
  have hnodup : l.Nodup := hl.of_map key
  have hpart : part.Nodup := h.nodup.of_map key
  rcases lt_or_ge (rankIn key l a) k with hlt | hge
  · have hperm : l.filter (key · < key a) ~ part.filter (key · < key a) := by
      refine (perm_ext_iff_of_nodup (hnodup.filter _) (hpart.filter _)).mpr fun x => ?_
      simp only [mem_filter, decide_eq_true_eq]
      refine and_congr_left fun hx => ⟨fun hxl => ?_, fun hxp => h.subset hxp⟩
      exact h.first x hxl (lt_of_le_of_lt (rankIn_mono key hx.le) hlt)
    rw [rankIn, rankIn, countP_eq_length_filter, countP_eq_length_filter, hperm.length_eq]
  · -- The first `k` elements of the list would all come before `a` in the part.
    have hlength : ((ranked key l).take k).length = k := by
      rw [length_take, (perm_ranked key l).length_eq]
      exact min_eq_left (hge.trans countP_le_length)
    have hbefore : (ranked key l).take k ⊆ part.filter (key · < key a) := fun x hx => by
      obtain ⟨hxl, hxrank⟩ := (mem_take_ranked key hl).mp hx
      refine mem_filter.mpr ⟨h.first x hxl hxrank, decide_eq_true (not_le.mp fun hle => ?_)⟩
      have := rankIn_mono (l := l) key hle
      omega
    have hsub : (ranked key l).take k <+~ part.filter (key · < key a) :=
      subperm_of_subset ((nodup_ranked key hnodup).sublist (take_sublist _ _)) hbefore
    have := hsub.length_le
    rw [hlength, ← countP_eq_length_filter] at this
    exact absurd hrank (not_lt.mpr this)

/-- A slice that ends within the first elements is the slice of the list. -/
theorem mem_slice_of_first {part : List α} (h : HasFirst key (o + c) part l)
    (hl : (l.map key).Nodup) (ha : a ∈ (ranked key part).slice o c) :
    a ∈ l ∧ o ≤ rankIn key l a ∧ rankIn key l a < o + c := by
  obtain ⟨hmem, hlo, hhi⟩ := (mem_slice_ranked key h.nodup).mp ha
  rw [rankIn_eq_of_first key h hl hhi]
  exact ⟨h.subset hmem, hlo, hhi⟩

/-- The part has the first elements of the ranking in the same order. -/
theorem take_ranked_of_first {part : List α} (h : HasFirst key k part l)
    (hl : (l.map key).Nodup) : (ranked key part).take k = (ranked key l).take k := by
  have hsubperm : part <+~ l := subperm_of_subset (h.nodup.of_map key) h.subset
  have hmem (a : α) : a ∈ (ranked key part).take k ↔ a ∈ (ranked key l).take k := by
    rw [mem_take_ranked key h.nodup, mem_take_ranked key hl]
    constructor
    · rintro ⟨ha, hrank⟩
      exact ⟨h.subset ha, (rankIn_eq_of_first key h hl hrank).trans_lt hrank⟩
    · rintro ⟨ha, hrank⟩
      exact ⟨h.first a ha hrank, (hsubperm.countP_le _).trans_lt hrank⟩
  have hpart : ((ranked key part).take k).Pairwise (key · < key ·) :=
    (pairwise_lt_ranked key h.nodup).sublist (take_sublist _ _)
  have hlist : ((ranked key l).take k).Pairwise (key · < key ·) :=
    (pairwise_lt_ranked key hl).sublist (take_sublist _ _)
  have hperm : (ranked key part).take k ~ (ranked key l).take k :=
    (perm_ext_iff_of_nodup ((nodup_ranked key (h.nodup.of_map key)).sublist (take_sublist _ _))
      ((nodup_ranked key (hl.of_map key)).sublist (take_sublist _ _))).mpr hmem
  exact hperm.eq_of_pairwise (fun _ _ _ _ hxy hyx => absurd hxy (lt_asymm hyx)) hpart hlist

theorem slice_eq_of_take_eq {part : List α} (h : part.take (o + c) = l.take (o + c)) :
    part.slice o c = l.slice o c := by
  have hslice (l : List α) : l.slice o c = (l.take (o + c)).drop o := by
    rw [slice, drop_take, Nat.add_sub_cancel_left]
  rw [hslice, hslice, h]

/-- Lists of the same elements are ranked alike. -/
theorem ranked_eq_of_perm (h : l ~ l') (hl : (l.map key).Nodup) :
    ranked key l = ranked key l' :=
  (((perm_ranked key l).trans h).trans (perm_ranked key l').symm).eq_of_pairwise
    (fun _ _ _ _ hxy hyx => absurd hxy (lt_asymm hyx)) (pairwise_lt_ranked key hl)
    (pairwise_lt_ranked key ((h.map key).nodup_iff.mp hl))

/-! ## Reservoirs -/

variable (r : α → α → Prop) [DecidableRel r]

/-- Offer an element to a heap of at most `cap` elements whose first has the greatest key. -/
def reservoirAdd (cap : Nat) (heap : List α) (a : α) : List α :=
  if heap.length < cap then heap.orderedInsert r a
  else match heap with
    | [] => []
    | b :: rest => if key a < key b then rest.orderedInsert r a else b :: rest

omit [LinearOrder κ] in
theorem orderedInsert_congr {s : α → α → Prop} [DecidableRel s] (h : ∀ b ∈ l, r a b ↔ s a b) :
    l.orderedInsert r a = l.orderedInsert s a := by
  induction l with
  | nil => rfl
  | cons b l ih =>
    obtain ⟨hb, hl⟩ := forall_mem_cons.mp h
    simp only [orderedInsert, hb, ih hl]

theorem orderedInsert_append_of_lt {m : α} (h : key a < key m) (front back : List α) :
    (front ++ m :: back).orderedInsert (key · ≤ key ·) a =
      front.orderedInsert (key · ≤ key ·) a ++ m :: back := by
  induction front with
  | nil => simp [orderedInsert, h.le]
  | cons b front ih =>
    simp only [cons_append, orderedInsert, ih]
    split_ifs <;> rfl

theorem orderedInsert_append_of_forall_lt {front : List α} (h : ∀ b ∈ front, key b < key a)
    (back : List α) :
    (front ++ back).orderedInsert (key · ≤ key ·) a =
      front ++ back.orderedInsert (key · ≤ key ·) a := by
  induction front with
  | nil => rfl
  | cons b front ih =>
    obtain ⟨hb, hfront⟩ := forall_mem_cons.mp h
    rw [cons_append, orderedInsert, if_neg (not_le.mpr hb), ih hfront, cons_append]

theorem pairwise_orderedInsert (h : l.Pairwise (key · ≤ key ·)) (a : α) :
    (l.orderedInsert (key · ≤ key ·) a).Pairwise (key · ≤ key ·) := by
  have : Std.Total fun x y => key x ≤ key y := ⟨fun x y => le_total (key x) (key y)⟩
  have : IsTrans α fun x y => key x ≤ key y := ⟨fun _ _ _ => le_trans⟩
  exact h.orderedInsert a _

/-- Lists of the same elements that increase are the same. -/
theorem eq_of_perm_of_pairwise (h : l ~ l') (hkey : (l.map key).Nodup)
    (hl : l.Pairwise (key · ≤ key ·)) (hl' : l'.Pairwise (key · ≤ key ·)) : l = l' :=
  h.eq_of_pairwise (fun _ _ hx hy hxy hyx =>
    inj_on_of_nodup_map hkey hx (h.mem_iff.mpr hy) (le_antisymm hxy hyx)) hl hl'

theorem ranked_append_singleton (h : ((l ++ [a]).map key).Nodup) :
    ranked key (l ++ [a]) = (ranked key l).orderedInsert (key · ≤ key ·) a := by
  have hperm : ranked key (l ++ [a]) ~ (ranked key l).orderedInsert (key · ≤ key ·) a :=
    calc ranked key (l ++ [a]) ~ l ++ [a] := perm_ranked key _
      _ ~ a :: l := perm_append_singleton _ _
      _ ~ a :: ranked key l := (perm_ranked key l).symm.cons _
      _ ~ (ranked key l).orderedInsert (key · ≤ key ·) a := (perm_orderedInsert _ _ _).symm
  exact eq_of_perm_of_pairwise key hperm (((perm_ranked key _).map key).nodup_iff.mpr h)
    (pairwise_ranked key _) (pairwise_orderedInsert key (pairwise_ranked key l) a)

theorem orderedInsert_reverse (h : ((a :: l).map key).Nodup) (hl : l.Pairwise (key · ≤ key ·))
    (hr : ∀ b ∈ l, r a b ↔ key b ≤ key a) :
    l.reverse.orderedInsert r a = (l.orderedInsert (key · ≤ key ·) a).reverse := by
  have hdual : l.reverse.orderedInsert r a =
      l.reverse.orderedInsert (fun x y => OrderDual.toDual (key x) ≤ OrderDual.toDual (key y)) a :=
    orderedInsert_congr r fun b hb => hr b (mem_reverse.mp hb)
  have hperm : l.reverse.orderedInsert
        (fun x y => OrderDual.toDual (key x) ≤ OrderDual.toDual (key y)) a ~
      (l.orderedInsert (key · ≤ key ·) a).reverse :=
    calc _ ~ a :: l.reverse := perm_orderedInsert _ _ _
      _ ~ a :: l := (reverse_perm l).cons _
      _ ~ l.orderedInsert (key · ≤ key ·) a := (perm_orderedInsert _ _ _).symm
      _ ~ _ := (reverse_perm _).symm
  have hnodup : (((l.reverse.orderedInsert
      (fun x y => OrderDual.toDual (key x) ≤ OrderDual.toDual (key y)) a)).map
        (OrderDual.toDual ∘ key)).Nodup := by
    have hcons : (l.reverse.orderedInsert
        (fun x y => OrderDual.toDual (key x) ≤ OrderDual.toDual (key y)) a) ~ a :: l :=
      (perm_orderedInsert _ _ _).trans ((reverse_perm l).cons _)
    exact ((hcons.map _).nodup_iff).mpr h
  rw [hdual]
  exact eq_of_perm_of_pairwise (OrderDual.toDual ∘ key) hperm hnodup
    (pairwise_orderedInsert (OrderDual.toDual ∘ key) (pairwise_reverse.mpr hl) a)
    (pairwise_reverse.mpr (pairwise_orderedInsert key hl a))

/-- One offer keeps the first elements of the ranking. -/
theorem reservoirAdd_take_ranked (cap : Nat) (h : ((l ++ [a]).map key).Nodup)
    (hr : ∀ b ∈ l, r a b ↔ key b ≤ key a) :
    reservoirAdd key r cap ((ranked key l).take cap).reverse a =
      ((ranked key (l ++ [a])).take cap).reverse := by
  have hcons : ((a :: ranked key l).map key).Nodup :=
    (((((perm_ranked key l).cons a).trans (perm_append_singleton a l).symm).map key).nodup_iff).mpr h
  obtain ⟨hfresh, -⟩ := nodup_cons.mp hcons
  have hsorted := pairwise_ranked key l
  have hr' : ∀ b ∈ ranked key l, r a b ↔ key b ≤ key a := fun b hb =>
    hr b ((mem_ranked key).mp hb)
  rw [ranked_append_singleton key h]
  unfold reservoirAdd
  rw [length_reverse, length_take]
  generalize ranked key l = sorted at hcons hfresh hsorted hr' ⊢
  split_ifs with hcap
  · -- There is room: the heap has every element so far.
    have hlength : sorted.length < cap := by omega
    rw [take_of_length_le hlength.le, orderedInsert_reverse key r hcons hsorted hr',
      take_of_length_le (by rw [orderedInsert_length]; omega)]
  · have hlength : (sorted.take cap).length = cap := by rw [length_take]; omega
    rcases eq_nil_or_concat' (sorted.take cap) with hnil | ⟨front, m, hfront⟩
    · have hzero : cap = 0 := by rw [← hlength, hnil]; rfl
      subst hzero
      simp
    · have hsplit : sorted = front ++ m :: sorted.drop cap := by
        conv_lhs => rw [← take_append_drop cap sorted, hfront]
        simp
      have hm : m ∈ sorted := by rw [hsplit]; simp
      have hcapEq : cap = front.length + 1 := by rw [← hlength, hfront]; simp
      have hsub : front <+ sorted := by
        conv_rhs => rw [hsplit]
        exact sublist_append_left _ _
      rw [hfront, reverse_append, reverse_singleton, singleton_append]
      simp only
      by_cases hlt : key a < key m
      · have hnew : ((a :: front).map key).Nodup := hcons.sublist ((hsub.cons_cons a).map key)
        rw [if_pos hlt, orderedInsert_reverse key r hnew (hsorted.sublist hsub)
          fun b hb => hr' b (hsub.subset hb)]
        conv_rhs => rw [hsplit, orderedInsert_append_of_lt key hlt]
        rw [take_left' (by rw [orderedInsert_length, hcapEq])]
      · -- The element comes after all that the heap has.
        have hlast : ∀ b ∈ front ++ [m], key b < key a := by
          intro b hb
          have hle : key b ≤ key m := by
            rcases mem_append.mp hb with hb | hb
            · rw [hsplit] at hsorted
              exact (pairwise_append.mp hsorted).2.2 b hb m mem_cons_self
            · rw [mem_singleton.mp hb]
          have hne : key m ≠ key a := fun heq => hfresh (mem_map.mpr ⟨m, hm, heq⟩)
          exact lt_of_le_of_lt hle (lt_of_le_of_ne (not_lt.mp hlt) hne)
        have hassoc : sorted = (front ++ [m]) ++ sorted.drop cap := by
          conv_lhs => rw [hsplit]
          simp
        rw [if_neg hlt]
        conv_rhs => rw [hassoc, orderedInsert_append_of_forall_lt key hlast]
        rw [take_left' (by simp [hcapEq]), reverse_append, reverse_singleton, singleton_append]

/-- The heap after the offers, from its first, has the first elements of the ranking in reverse. -/
theorem foldl_reservoirAdd (cap : Nat) (h : (l.map key).Nodup)
    (hr : ∀ a ∈ l, ∀ b ∈ l, r a b ↔ key b ≤ key a) :
    l.foldl (reservoirAdd key r cap) [] = ((ranked key l).take cap).reverse := by
  induction l using reverseRecOn with
  | nil => simp [ranked]
  | append_singleton l a ih =>
    have hl : (l.map key).Nodup := by
      rw [map_append] at h
      exact h.of_append_left
    have hmem : ∀ b ∈ l, b ∈ l ++ [a] := fun b hb => mem_append_left _ hb
    rw [foldl_append, foldl_cons, foldl_nil,
      ih hl fun x hx y hy => hr x (hmem x hx) y (hmem y hy)]
    exact reservoirAdd_take_ranked key r cap h fun b hb =>
      hr a (mem_append_right _ mem_cons_self) b (hmem b hb)

end List
