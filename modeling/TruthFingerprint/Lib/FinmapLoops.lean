import Mathlib

/-!
# Loops over finite maps

A loop over the entries of a map sees them in an unspecified order, so a function of the map may
use such a loop only when its result does not depend on the order. Here that is the obligation of
`Finmap.liftOn`, discharged once for the loop that collects and sorts the keys (`sortedKeys`) and
for the one that copies one map over another (`overwrite`). `insertAll` loops over a list instead:
a later element replaces an earlier one with its key (`lookup_insertAll`).
-/

namespace Finmap

variable {α β γ : Type*}

section Sorted

variable [LinearOrder α]

/-- The keys of a map, collected in any order and sorted. -/
def sortedKeys (m : Finmap fun _ : α => β) : List α :=
  m.liftOn (fun l => l.keys.insertionSort (· ≤ ·)) fun _ _ h =>
    List.Perm.eq_of_pairwise' (List.pairwise_insertionSort _ _) (List.pairwise_insertionSort _ _)
      ((List.perm_insertionSort _ _).trans <| (h.map _).trans (List.perm_insertionSort _ _).symm)

theorem mem_sortedKeys {m : Finmap fun _ : α => β} {a : α} : a ∈ m.sortedKeys ↔ a ∈ m := by
  induction m using Finmap.induction_on with
  | H l => simp [sortedKeys, AList.mem_keys]

theorem pairwise_sortedKeys (m : Finmap fun _ : α => β) : m.sortedKeys.Pairwise (· ≤ ·) := by
  induction m using Finmap.induction_on with
  | H l => exact List.pairwise_insertionSort _ _

end Sorted

variable [DecidableEq α]

/-- Insert the elements of a list in order, each under its key. -/
def insertAll (key : γ → α) (val : γ → β) (xs : List γ) (m : Finmap fun _ : α => β) :
    Finmap fun _ : α => β :=
  xs.foldl (fun m x => m.insert (key x) (val x)) m

/-- A key is left with its last element of the list, if it has one. -/
theorem lookup_insertAll (key : γ → α) (val : γ → β) (xs : List γ) (m : Finmap fun _ : α => β)
    (a : α) : (insertAll key val xs m).lookup a =
      ((xs.reverse.find? (key · = a)).map val).or (m.lookup a) := by
  induction xs generalizing m with
  | nil => simp [insertAll]
  | cons x xs ih =>
    have hx : ((m.insert (key x) (val x)).lookup a) =
        (([x].find? (key · = a)).map val).or (m.lookup a) := by
      by_cases h : key x = a
      · subst h
        simp
      · simp [h, Finmap.lookup_insert_of_ne _ (Ne.symm h)]
    change (insertAll key val xs (m.insert (key x) (val x))).lookup a = _
    rw [ih, hx, List.reverse_cons, List.find?_append, ← Option.or_assoc]
    cases (xs.reverse.find? (key · = a)) <;> simp

/-- Elements with different keys all stay. -/
theorem lookup_insertAll_of_nodup {key : γ → α} {val : γ → β} {xs : List γ} {x : γ}
    (h : (xs.map key).Nodup) (hx : x ∈ xs) (m : Finmap fun _ : α => β) :
    (insertAll key val xs m).lookup (key x) = some (val x) := by
  obtain ⟨y, hy⟩ : ∃ y, xs.reverse.find? (key · = key x) = some y :=
    Option.isSome_iff_exists.mp <| List.find?_isSome.mpr ⟨x, List.mem_reverse.mpr hx, by simp⟩
  have hkey : key y = key x := by simpa using List.find?_some hy
  have hmem := List.mem_reverse.mp (List.mem_of_find?_eq_some hy)
  rw [lookup_insertAll, hy, Option.map_some, Option.some_or,
    List.inj_on_of_nodup_map h hmem hx hkey]

theorem insertAll_cons (key : γ → α) (val : γ → β) (x : γ) (xs : List γ)
    (m : Finmap fun _ : α => β) :
    insertAll key val (x :: xs) m = insertAll key val xs (m.insert (key x) (val x)) := rfl

/-- Elements with one key and one value may come in any order. -/
theorem insertAll_eq_of_mem_iff {key : γ → α} {val val' : γ → β} {xs ys : List γ}
    (hval : ∀ x ∈ xs, ∀ y ∈ xs, key x = key y → val x = val y) (hval' : ∀ x ∈ xs, val' x = val x)
    (h : ∀ x, x ∈ ys ↔ x ∈ xs) (m : Finmap fun _ : α => β) :
    insertAll key val' ys m = insertAll key val xs m := by
  refine Finmap.ext_lookup fun a => ?_
  rw [lookup_insertAll, lookup_insertAll]
  cases hys : ys.reverse.find? (key · = a) with
  | none =>
    have hxs : xs.reverse.find? (key · = a) = none := by
      refine List.find?_eq_none.mpr fun x hx => ?_
      exact List.find?_eq_none.mp hys x (List.mem_reverse.mpr ((h x).mpr (List.mem_reverse.mp hx)))
    rw [hxs]
    rfl
  | some y =>
    have hy : y ∈ xs := (h y).mp (List.mem_reverse.mp (List.mem_of_find?_eq_some hys))
    have hkey : key y = a := by simpa using List.find?_some hys
    obtain ⟨x, hxs⟩ : ∃ x, xs.reverse.find? (key · = a) = some x := Option.isSome_iff_exists.mp <|
      List.find?_isSome.mpr ⟨y, List.mem_reverse.mpr hy, by simpa using hkey⟩
    have hx : x ∈ xs := List.mem_reverse.mp (List.mem_of_find?_eq_some hxs)
    have hkey' : key x = a := by simpa using List.find?_some hxs
    rw [hxs, Option.map_some, Option.map_some, hval' y hy, hval x hx y hy (hkey'.trans hkey.symm)]

/-- A map filled from a list of its keys. -/
theorem lookup_insertAll_id (val : α → β) (xs : List α) (a : α) :
    (insertAll id val xs ∅).lookup a = if a ∈ xs then some (val a) else none := by
  rw [lookup_insertAll, Finmap.lookup_empty, Option.or_none]
  by_cases h : a ∈ xs
  · obtain ⟨b, hb⟩ : ∃ b, xs.reverse.find? (id · = a) = some b :=
      Option.isSome_iff_exists.mp <| List.find?_isSome.mpr ⟨a, List.mem_reverse.mpr h, by simp⟩
    obtain rfl : b = a := by simpa using List.find?_some hb
    rw [hb, if_pos h, Option.map_some]
  · have hnone : xs.reverse.find? (id · = a) = none := by
      refine List.find?_eq_none.mpr fun b hb => ?_
      simpa using ne_of_mem_of_not_mem (List.mem_reverse.mp hb) h
    rw [hnone, if_neg h, Option.map_none]

/-- `insertAll` with values that may fail to be computed. -/
def insertAllM {ε : Type*} (key : γ → α) (val : γ → Except ε β) (xs : List γ)
    (m : Finmap fun _ : α => β) : Except ε (Finmap fun _ : α => β) :=
  xs.foldlM (fun m x => (val x).map (m.insert (key x))) m

theorem insertAllM_map {ε δ : Type*} (key : γ → α) (val : γ → Except ε β) (f : δ → γ) (xs : List δ)
    (m : Finmap fun _ : α => β) :
    insertAllM key val (xs.map f) m = insertAllM (key ∘ f) (val ∘ f) xs m := List.foldlM_map

theorem insertAllM_eq_ok {ε : Type*} {key : γ → α} {val : γ → Except ε β} {val' : γ → β}
    {xs : List γ} (h : ∀ x ∈ xs, val x = .ok (val' x)) (m : Finmap fun _ : α => β) :
    insertAllM key val xs m = .ok (insertAll key val' xs m) := by
  induction xs generalizing m with
  | nil => rfl
  | cons x xs ih =>
    have hx := h x List.mem_cons_self
    have hxs := ih (fun y hy => h y (List.mem_cons_of_mem _ hy)) (m.insert (key x) (val' x))
    rw [insertAll_cons, ← hxs]
    simp [insertAllM, hx, Except.map, bind, Except.bind]

/-- Only values that are all computed are inserted. -/
theorem insertAllM_isOk {ε : Type*} {key : γ → α} {val : γ → Except ε β} {xs : List γ}
    {m m' : Finmap fun _ : α => β} (h : insertAllM key val xs m = .ok m') :
    ∀ x ∈ xs, ∃ b, val x = .ok b := by
  induction xs generalizing m with
  | nil => simp
  | cons x xs ih =>
    cases hx : val x with
    | error e => simp [insertAllM, hx, Except.map, bind, Except.bind] at h
    | ok b =>
      have hxs : insertAllM key val xs (m.insert (key x) b) = .ok m' := by
        simpa [insertAllM, hx, Except.map, bind, Except.bind] using h
      intro y hy
      rcases List.mem_cons.mp hy with rfl | hy
      · exact ⟨b, hx⟩
      · exact ih hxs y hy

/-- Entries with distinct keys are inserted independently of their order. -/
theorem lookup_insertAll_entries {es : List (Σ _ : α, β)} (h : es.NodupKeys)
    (m : Finmap fun _ : α => β) (a : α) :
    (insertAll Sigma.fst Sigma.snd es m).lookup a = (es.dlookup a).or (m.lookup a) := by
  induction es generalizing m with
  | nil => simp [insertAll]
  | cons e es ih =>
    obtain ⟨hnotMem, hes⟩ := List.nodupKeys_cons.mp h
    rw [insertAll_cons, ih hes]
    by_cases ha : a = e.1
    · subst ha
      rw [List.dlookup_eq_none.mpr hnotMem, Finmap.lookup_insert, List.dlookup_cons_eq]
      rfl
    · rw [Finmap.lookup_insert_of_ne _ ha, List.dlookup_cons_ne _ e ha]

/-- Copy the entries of `src` over `dst`, in any order. -/
def overwrite (src dst : Finmap fun _ : α => β) : Finmap fun _ : α => β :=
  src.liftOn (fun l => insertAll Sigma.fst Sigma.snd l.entries dst) fun l l' h =>
    Finmap.ext_lookup fun a => by
      rw [lookup_insertAll_entries l.nodupKeys, lookup_insertAll_entries l'.nodupKeys,
        List.perm_dlookup a l.nodupKeys h]

/-- After the copy, a key of `src` has its entry there and every other key keeps its own. -/
theorem lookup_overwrite (src dst : Finmap fun _ : α => β) (a : α) :
    (overwrite src dst).lookup a = (src.lookup a).or (dst.lookup a) := by
  induction src using Finmap.induction_on with
  | H l => exact lookup_insertAll_entries l.nodupKeys dst a

@[simp] theorem overwrite_overwrite (src dst : Finmap fun _ : α => β) :
    overwrite src (overwrite src dst) = overwrite src dst := by
  refine Finmap.ext_lookup fun a => ?_
  rw [lookup_overwrite, lookup_overwrite, ← Option.or_assoc, Option.or_self]

@[simp] theorem overwrite_onto_empty (src : Finmap fun _ : α => β) : overwrite src ∅ = src :=
  Finmap.ext_lookup fun a => by simp [lookup_overwrite]

@[simp] theorem overwrite_empty (dst : Finmap fun _ : α => β) : overwrite ∅ dst = dst :=
  Finmap.ext_lookup fun a => by simp [lookup_overwrite]

end Finmap
