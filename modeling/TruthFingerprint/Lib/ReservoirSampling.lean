import Mathlib

/-!
# Reservoir sampling

Items of several classes pass by, and of each class a reservoir keeps so many. When it is full, the
`n`-th item of its class draws a number below `n` and, if there is a slot of this number, takes its
place. The outcomes are listed with each value of each draw once. In all of them the reservoir of a
class with `n` items has `min cap n` different items, and every item is kept in the same part of
them (`countP_outcomes`).
-/

namespace ReservoirSampling

variable {κ α β : Type} [DecidableEq κ]

structure State (κ α : Type) where
  kept : κ → List α
  seen : κ → ℕ

def State.start : State κ α := ⟨fun _ => [], fun _ => 0⟩

variable (cap : ℕ)

/-- How many values the draw of the next item of a class has; there is none while there is room. -/
def draws (state : State κ α) (key : κ) : ℕ :=
  if (state.kept key).length < cap then 1 else state.seen key + 1

/-- A reservoir with an item more, which replaces the one at the slot of the draw when it is full -/
def keep (kept : List α) (a : α) (draw : ℕ) : List α :=
  if kept.length < cap then kept ++ [a] else if draw < cap then kept.set draw a else kept

def add (state : State κ α) (item : κ × α) (draw : ℕ) : State κ α where
  kept := Function.update state.kept item.1 (keep cap (state.kept item.1) item.2 draw)
  seen := Function.update state.seen item.1 (state.seen item.1 + 1)

/-- The states after all items, for every value of every draw -/
def outcomes (state : State κ α) : List (κ × α) → List (State κ α)
  | [] => [state]
  | item :: items => (List.range (draws cap state item.1)).flatMap fun draw =>
      outcomes (add cap state item draw) items

variable {cap} {state : State κ α} {items : List (κ × α)} {item : κ × α} {key : κ}

@[simp] theorem kept_add_self (draw : ℕ) :
    (add cap state item draw).kept item.1 = keep cap (state.kept item.1) item.2 draw :=
  Function.update_self ..

theorem kept_add_of_ne (h : key ≠ item.1) (draw : ℕ) :
    (add cap state item draw).kept key = state.kept key :=
  Function.update_of_ne h ..

/-- The items of a second part are added to every outcome of the first. -/
theorem outcomes_append (state : State κ α) (items items' : List (κ × α)) :
    outcomes cap state (items ++ items') =
      (outcomes cap state items).flatMap fun s => outcomes cap s items' := by
  induction items generalizing state with
  | nil => rw [List.nil_append, outcomes, List.flatMap_singleton]
  | cons first items ih =>
    rw [List.cons_append, outcomes, outcomes, List.flatMap_assoc]
    simp only [ih]

theorem outcomes_append_singleton (state : State κ α) (items : List (κ × α)) (item : κ × α) :
    outcomes cap state (items ++ [item]) = (outcomes cap state items).flatMap fun s =>
      (List.range (draws cap s item.1)).map (add cap s item) := by
  rw [outcomes_append]
  simp only [outcomes, List.map_eq_flatMap]

/-! ## Items under other names -/

section Map

variable (f : α → β)

def State.map (state : State κ α) : State κ β := ⟨fun key => (state.kept key).map f, state.seen⟩

theorem keep_map (kept : List α) (a : α) (draw : ℕ) :
    keep cap (kept.map f) (f a) draw = (keep cap kept a draw).map f := by
  rw [keep, keep, List.length_map]
  split_ifs
  · rw [List.map_append, List.map_singleton]
  · exact List.map_set.symm
  · rfl

omit [DecidableEq κ] in
theorem draws_map (state : State κ α) (key : κ) :
    draws cap (state.map f) key = draws cap state key := by
  rw [draws, draws, State.map, List.length_map]

theorem add_map (state : State κ α) (item : κ × α) (draw : ℕ) :
    add cap (state.map f) (item.1, f item.2) draw = (add cap state item draw).map f := by
  rw [add, State.map, State.map, keep_map]
  refine congrArg₂ State.mk (funext fun key => ?_) rfl
  by_cases hkey : key = item.1
  · subst hkey
    rw [Function.update_self, kept_add_self]
  · rw [Function.update_of_ne hkey, kept_add_of_ne hkey]

/-- What the items are does not matter for the draws. -/
theorem outcomes_map (state : State κ α) (items : List (κ × α)) :
    outcomes cap (state.map f) (items.map fun item => (item.1, f item.2)) =
      (outcomes cap state items).map (State.map f) := by
  induction items generalizing state with
  | nil => rfl
  | cons item items ih =>
    rw [List.map_cons, outcomes, outcomes, draws_map, List.map_flatMap]
    simp only [add_map, ih]

end Map

/-! ## One reservoir -/

section Keep

variable {kept : List α} {a b : α} {draw : ℕ}

theorem length_keep : (keep cap kept a draw).length =
    if kept.length < cap then kept.length + 1 else kept.length := by
  rw [keep]
  split_ifs
  · rw [List.length_append, List.length_singleton]
  · rw [List.length_set]
  · rfl

theorem mem_of_mem_keep (h : b ∈ keep cap kept a draw) : b ∈ kept ∨ b = a := by
  rw [keep] at h
  split_ifs at h
  · exact (List.mem_append.mp h).imp_right List.mem_singleton.mp
  · exact List.mem_or_eq_of_mem_set h
  · exact .inl h

theorem nodup_keep (hkept : kept.Nodup) (hnew : a ∉ kept) : (keep cap kept a draw).Nodup := by
  rw [keep]
  split_ifs
  · exact List.nodup_append.mpr ⟨hkept, List.nodup_singleton a,
      fun b hb c hc => by rw [List.mem_singleton.mp hc]; exact fun h => hnew (h ▸ hb)⟩
  · exact hkept.set hnew
  · exact hkept

/-- A full reservoir loses what stands at the slot of the draw. -/
theorem mem_keep_getElem (hkept : kept.Nodup) (hnew : a ∉ kept) (hfull : kept.length = cap) {i : ℕ}
    (hi : i < kept.length) : kept[i] ∈ keep cap kept a draw ↔ draw ≠ i := by
  rw [keep, if_neg (by omega)]
  split_ifs with hdraw
  · rw [List.mem_iff_getElem]
    constructor
    · rintro ⟨j, hj, heq⟩ rfl
      rw [List.length_set] at hj
      by_cases hij : draw = j
      · subst hij
        rw [List.getElem_set_self] at heq
        exact hnew (heq ▸ List.getElem_mem hi)
      · rw [List.getElem_set_ne hij] at heq
        exact hij ((hkept.getElem_inj_iff).mp heq).symm
    · intro hne
      exact ⟨i, by rwa [List.length_set], List.getElem_set_ne hne _⟩
  · exact iff_of_true (List.getElem_mem hi) (by omega)

/-- A new item comes into a full reservoir for every slot. -/
theorem mem_keep_self (hnew : a ∉ kept) (hfull : kept.length = cap) :
    a ∈ keep cap kept a draw ↔ draw < cap := by
  rw [keep, if_neg (by omega)]
  split_ifs with hdraw
  · exact iff_of_true (List.mem_set (hfull ▸ hdraw) a) hdraw
  · exact iff_of_false hnew hdraw

theorem countP_range_ne {n i : ℕ} (hi : i < n + 1) :
    (List.range (n + 1)).countP (· ≠ i) = n := by
  have herase := List.length_erase_of_mem (List.mem_range.mpr hi)
  rw [List.nodup_range.erase_eq_filter, List.length_range, Nat.add_sub_cancel] at herase
  rw [List.countP_eq_length_filter]
  refine Eq.trans (congrArg List.length (List.filter_congr fun j _ => ?_)) herase
  rw [Bool.eq_iff_iff]
  simp

theorem countP_range_lt {n m : ℕ} (h : m ≤ n) : (List.range n).countP (· < m) = m := by
  obtain ⟨rest, rfl⟩ := Nat.exists_eq_add_of_le h
  rw [List.range_add, List.countP_append, List.countP_eq_length.mpr, List.countP_eq_zero.mpr,
    List.length_range, Nat.add_zero]
  · intro j hj
    obtain ⟨k, -, rfl⟩ := List.mem_map.mp hj
    simp
  · intro j hj
    simpa using hj

end Keep

/-! ## What holds in every outcome -/

/-- The reservoirs hold different items of their classes, as many as there are or can be. -/
structure Sampled (cap : ℕ) (items : List (κ × α)) (state : State κ α) : Prop where
  seen : ∀ key, state.seen key = items.countP (·.1 = key)
  length : ∀ key, (state.kept key).length = min cap (items.countP (·.1 = key))
  mem : ∀ key, ∀ a ∈ state.kept key, (key, a) ∈ items
  nodup : ∀ key, (state.kept key).Nodup

theorem sampled_start : Sampled cap [] (.start : State κ α) where
  seen _ := rfl
  length _ := by simp [State.start]
  mem _ _ h := absurd h List.not_mem_nil
  nodup _ := List.nodup_nil

theorem Sampled.notMem_kept (h : Sampled cap items state) (hnew : item.2 ∉ items.map Prod.snd) :
    item.2 ∉ state.kept item.1 :=
  fun hmem => hnew (List.mem_map.mpr ⟨_, h.mem _ _ hmem, rfl⟩)

theorem countP_append_self : (items ++ [item]).countP (·.1 = item.1) =
    items.countP (·.1 = item.1) + 1 := by
  rw [List.countP_append, List.countP_singleton, if_pos (decide_eq_true rfl)]

theorem countP_append_of_ne (h : key ≠ item.1) : (items ++ [item]).countP (·.1 = key) =
    items.countP (·.1 = key) := by
  rw [List.countP_append, List.countP_singleton, if_neg, Nat.add_zero]
  simpa using Ne.symm h

/-- A new item keeps the reservoirs as they have to be, whatever is drawn. -/
theorem Sampled.add (h : Sampled cap items state) (hnew : item.2 ∉ items.map Prod.snd) (draw : ℕ) :
    Sampled cap (items ++ [item]) (add cap state item draw) where
  seen key := by
    by_cases hkey : key = item.1
    · subst hkey
      rw [countP_append_self, ← h.seen]
      exact Function.update_self ..
    · rw [countP_append_of_ne hkey, ← h.seen]
      exact Function.update_of_ne hkey ..
  length key := by
    by_cases hkey : key = item.1
    · subst hkey
      have hlength := h.length item.1
      rw [countP_append_self, kept_add_self, length_keep]
      split_ifs <;> omega
    · rw [countP_append_of_ne hkey, ← h.length, kept_add_of_ne hkey]
  mem key a ha := by
    by_cases hkey : key = item.1
    · subst hkey
      rw [kept_add_self] at ha
      rcases mem_of_mem_keep ha with ha | rfl
      · exact List.mem_append_left _ (h.mem _ _ ha)
      · exact List.mem_append_right _ (List.mem_singleton_self _)
    · rw [kept_add_of_ne hkey] at ha
      exact List.mem_append_left _ (h.mem _ _ ha)
  nodup key := by
    by_cases hkey : key = item.1
    · subst hkey
      rw [kept_add_self]
      exact nodup_keep (h.nodup _) (h.notMem_kept hnew)
    · rw [kept_add_of_ne hkey]
      exact h.nodup key

/-- Items that all differ are sampled in every outcome. -/
theorem sampled_of_mem_outcomes (hnodup : (items.map Prod.snd).Nodup)
    (h : state ∈ outcomes cap .start items) : Sampled cap items state := by
  induction items using List.reverseRecOn generalizing state with
  | nil =>
    obtain rfl := List.mem_singleton.mp h
    exact sampled_start
  | append_singleton items item ih =>
    rw [List.map_append, List.map_singleton] at hnodup
    have hnew : item.2 ∉ items.map Prod.snd := fun hmem =>
      List.disjoint_of_nodup_append hnodup hmem (List.mem_singleton_self _)
    rw [outcomes_append_singleton] at h
    obtain ⟨before, hbefore, hstep⟩ := List.mem_flatMap.mp h
    obtain ⟨draw, -, rfl⟩ := List.mem_map.mp hstep
    exact (ih hnodup.of_append_left hbefore).add hnew draw

/-- How many values a draw has depends on the items alone. -/
theorem Sampled.draws (h : Sampled cap items state) (key : κ) : draws cap state key =
    if items.countP (·.1 = key) < cap then 1 else items.countP (·.1 = key) + 1 := by
  have hlength := h.length key
  rw [ReservoirSampling.draws, h.seen]
  congr 1
  exact propext (by omega)

/-! ## How often an item is kept -/

section Counting

variable [DecidableEq α] {a : α}

/-- How many values of a draw keep an item -/
def keeping (cap : ℕ) (state : State κ α) (item : κ × α) (key : κ) (a : α) : ℕ :=
  (List.range (draws cap state item.1)).countP fun draw =>
    a ∈ (add cap state item draw).kept key

/-- The draw for an item does nothing to the other classes. -/
theorem keeping_of_ne (hkey : key ≠ item.1) :
    keeping cap state item key a = if a ∈ state.kept key then draws cap state item.1 else 0 := by
  rw [keeping]
  simp only [kept_add_of_ne hkey]
  split_ifs with ha
  · rw [List.countP_eq_length.mpr (fun _ _ => decide_eq_true ha), List.length_range]
  · exact List.countP_eq_zero.mpr fun _ _ => by simpa using ha

/-- While there is room everything stays, and the item comes in. -/
theorem keeping_room (hroom : (state.kept item.1).length < cap) :
    keeping cap state item item.1 a = if a ∈ state.kept item.1 ∨ a = item.2 then 1 else 0 := by
  rw [keeping, draws, if_pos hroom, List.range_one, List.countP_singleton, kept_add_self, keep,
    if_pos hroom]
  simp only [decide_eq_true_eq, List.mem_append, List.mem_singleton]

/-- An item of a full reservoir stays for all values of the draw but one. -/
theorem keeping_full (h : Sampled cap items state) (hnew : item.2 ∉ items.map Prod.snd)
    (hfull : cap ≤ items.countP (·.1 = item.1)) (hother : a ≠ item.2) :
    keeping cap state item item.1 a =
      if a ∈ state.kept item.1 then items.countP (·.1 = item.1) else 0 := by
  have hlength : (state.kept item.1).length = cap := by rw [h.length, min_eq_left hfull]
  rw [keeping, h.draws, if_neg (not_lt.mpr hfull)]
  simp only [kept_add_self]
  split_ifs with ha
  · obtain ⟨i, hi, rfl⟩ := List.mem_iff_getElem.mp ha
    simp only [mem_keep_getElem (h.nodup _) (h.notMem_kept hnew) hlength hi]
    exact countP_range_ne (by omega)
  · exact List.countP_eq_zero.mpr fun draw _ => by
      simpa using fun hmem => (mem_of_mem_keep hmem).elim ha hother

/-- A new item comes into a full reservoir for as many values as there are slots. -/
theorem keeping_new (h : Sampled cap items state) (hnew : item.2 ∉ items.map Prod.snd)
    (hfull : cap ≤ items.countP (·.1 = item.1)) : keeping cap state item item.1 item.2 = cap := by
  have hlength : (state.kept item.1).length = cap := by rw [h.length, min_eq_left hfull]
  rw [keeping, h.draws, if_neg (not_lt.mpr hfull)]
  simp only [kept_add_self, mem_keep_self (h.notMem_kept hnew) hlength]
  exact countP_range_lt (by omega)

theorem sum_map_ite (l : List β) (p : β → Prop) [DecidablePred p] (n : ℕ) :
    (l.map fun b => if p b then n else 0).sum = l.countP p * n := by
  induction l with
  | nil => simp
  | cons b l ih =>
    rw [List.map_cons, List.sum_cons, ih, List.countP_cons]
    split_ifs <;> simp_all [Nat.add_mul, Nat.add_comm]

/-- The outcomes with an item more in which something is kept -/
theorem countP_outcomes_append {n : State κ α → ℕ}
    (h : ∀ s ∈ outcomes cap .start items, keeping cap s item key a = n s) :
    (outcomes cap .start (items ++ [item])).countP (a ∈ ·.kept key) =
      ((outcomes cap .start items).map n).sum := by
  rw [outcomes_append_singleton, List.countP_flatMap]
  refine congrArg List.sum (List.map_congr_left fun s hs => ?_)
  rw [Function.comp_apply, List.countP_map, ← h s hs]
  rfl

omit [DecidableEq α] in
theorem length_outcomes_append {d : ℕ}
    (h : ∀ s ∈ outcomes cap .start items, draws cap s item.1 = d) :
    (outcomes cap .start (items ++ [item])).length =
      (outcomes cap (.start : State κ α) items).length * d := by
  have hlengths : ((outcomes cap .start items).map fun s =>
      ((List.range (draws cap s item.1)).map (add cap s item)).length) =
        (outcomes cap (.start : State κ α) items).map fun _ => d :=
    List.map_congr_left fun s hs => by rw [List.length_map, List.length_range, h s hs]
  rw [outcomes_append_singleton, List.length_flatMap, hlengths, List.map_const', List.sum_replicate]
  rfl

/-- Every item is kept in the same part of the outcomes: with `n` items of its class, in `min cap n`
of every `n`. -/
theorem countP_outcomes (hnodup : (items.map Prod.snd).Nodup) (hmem : (key, a) ∈ items) :
    (outcomes cap .start items).countP (a ∈ ·.kept key) * items.countP (·.1 = key) =
      min cap (items.countP (·.1 = key)) * (outcomes cap .start items).length := by
  induction items using List.reverseRecOn with
  | nil => exact absurd hmem List.not_mem_nil
  | append_singleton items item ih =>
    rw [List.map_append, List.map_singleton] at hnodup
    have hnew : item.2 ∉ items.map Prod.snd := fun h =>
      List.disjoint_of_nodup_append hnodup h (List.mem_singleton_self _)
    have hsampled : ∀ s ∈ outcomes cap .start items, Sampled cap items s := fun s hs =>
      sampled_of_mem_outcomes hnodup.of_append_left hs
    have hdraws : ∀ s ∈ outcomes cap .start items, draws cap s item.1 =
        if items.countP (·.1 = item.1) < cap then 1 else items.countP (·.1 = item.1) + 1 :=
      fun s hs => (hsampled s hs).draws item.1
    rw [length_outcomes_append hdraws]
    by_cases hkey : key = item.1
    · subst hkey
      rw [countP_append_self]
      rcases List.mem_append.mp hmem with hold | hself
      · -- an item from before stays where there is room, and else for all draws but one
        have ih := ih hnodup.of_append_left hold
        have hne : a ≠ item.2 := fun heq => hnew (heq ▸ List.mem_map_of_mem hold)
        have hpos : 0 < items.countP (·.1 = item.1) :=
          List.countP_pos_iff.mpr ⟨_, hold, decide_eq_true rfl⟩
        by_cases hroom : items.countP (·.1 = item.1) < cap
        · rw [countP_outcomes_append (fun s hs => keeping_room (by
            rw [(hsampled s hs).length]
            omega)), if_pos hroom, sum_map_ite]
          rw [min_eq_right hroom.le] at ih
          simp only [hne, or_false]
          rw [Nat.eq_of_mul_eq_mul_right hpos (ih.trans (Nat.mul_comm _ _)),
            min_eq_right (by omega)]
          ring
        · rw [countP_outcomes_append (fun s hs =>
            keeping_full (hsampled s hs) hnew (not_lt.mp hroom) hne), if_neg hroom, sum_map_ite]
          rw [min_eq_left (not_lt.mp hroom)] at ih
          rw [ih, min_eq_left (by omega)]
          ring
      · obtain rfl : a = item.2 := congrArg Prod.snd (List.mem_singleton.mp hself)
        by_cases hroom : items.countP (·.1 = item.1) < cap
        · rw [countP_outcomes_append (fun s hs => keeping_room (by
            rw [(hsampled s hs).length]
            omega)), if_pos hroom, sum_map_ite, min_eq_right (by omega)]
          simp only [or_true, decide_true, List.countP_true]
          ring
        · rw [countP_outcomes_append (fun s hs =>
            keeping_new (hsampled s hs) hnew (not_lt.mp hroom)), if_neg hroom, List.map_const',
            List.sum_replicate, min_eq_left (by omega)]
          simp only [smul_eq_mul]
          ring
    · have hold : (key, a) ∈ items := (List.mem_append.mp hmem).resolve_right fun h =>
        hkey (congrArg Prod.fst (List.mem_singleton.mp h))
      have ih := ih hnodup.of_append_left hold
      have hkeeping : ∀ s ∈ outcomes cap .start items, keeping cap s item key a =
          if a ∈ s.kept key then
            (if items.countP (·.1 = item.1) < cap then 1 else items.countP (·.1 = item.1) + 1)
          else 0 := fun s hs => by rw [keeping_of_ne hkey, hdraws s hs]
      rw [countP_outcomes_append hkeeping, sum_map_ite, countP_append_of_ne hkey]
      linear_combination (if items.countP (·.1 = item.1) < cap then 1
        else items.countP (·.1 = item.1) + 1) * ih

end Counting

end ReservoirSampling
