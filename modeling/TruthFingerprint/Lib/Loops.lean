import Mathlib

/-!
# Loops that may fail

A loop whose body may fail succeeds when its body does on every element (`List.mapM_eq_ok`,
`List.exists_of_mapM_eq_ok`). Nested loops over one list that skip equal elements visit the pairs
of different ones (`List.orderedPairs`).
-/

universe u v

namespace Except

variable {ε : Type u} {α β : Type v}

theorem bind_eq_ok {x : Except ε α} {f : α → Except ε β} {b : β} :
    (x >>= f) = .ok b ↔ ∃ a, x = .ok a ∧ f a = .ok b := by
  cases x <;> simp [bind, Except.bind]

theorem eq_ok_of_toOption {x : Except ε α} {a : α} (h : x.toOption = some a) : x = .ok a := by
  cases x with
  | error e => cases h
  | ok b => exact congrArg _ (Option.some.inj h)

/-- How a computation ends: with a value that satisfies `P`, or with an error that satisfies `E`. -/
def Ends (P : α → Prop) (E : ε → Prop) : Except ε α → Prop
  | .ok a => P a
  | .error e => E e

variable {P : α → Prop} {Q : β → Prop} {E : ε → Prop}

theorem Ends.imp {x : Except ε α} {P' : α → Prop} (hx : x.Ends P E) (h : ∀ a, P a → P' a) :
    x.Ends P' E := by
  cases x with
  | error e => exact hx
  | ok a => exact h a hx

theorem Ends.bind {x : Except ε α} {f : α → Except ε β} (hx : x.Ends P E)
    (hf : ∀ a, P a → (f a).Ends Q E) : (x >>= f).Ends Q E := by
  cases x with
  | error e => exact hx
  | ok a => exact hf a hx

theorem Ends.map {x : Except ε α} {f : α → β} (hx : x.Ends P E) (hf : ∀ a, P a → Q (f a)) :
    (f <$> x).Ends Q E := by
  cases x with
  | error e => exact hx
  | ok a => exact hf a hx

end Except

namespace List

/-- A loop ends as its body does, when the body keeps what holds of the state. -/
theorem ends_foldlM {ε : Type u} {α β : Type v} {f : β → α → Except ε β} {xs : List α}
    {P : β → Prop} {E : ε → Prop} (hf : ∀ a ∈ xs, ∀ b, P b → (f b a).Ends P E) {b : β} (hb : P b) :
    (xs.foldlM f b).Ends P E := by
  induction xs generalizing b with
  | nil => exact hb
  | cons a xs ih =>
    obtain ⟨ha, hxs⟩ := forall_mem_cons.mp hf
    rw [foldlM_cons]
    exact (ha b hb).bind fun _ => ih hxs

/-- What the body keeps for the items that are done holds at the end for all of them. -/
theorem foldlM_done {ε : Type u} {α β : Type v} {f : β → α → Except ε β} {done xs : List α}
    {b b' : β} (P : List α → β → Prop)
    (hf : ∀ done a b next, P done b → f b a = .ok next → P (done ++ [a]) next) (hb : P done b)
    (h : xs.foldlM f b = .ok b') : P (done ++ xs) b' := by
  induction xs generalizing done b with
  | nil =>
    cases h
    rwa [append_nil]
  | cons a xs ih =>
    rw [foldlM_cons] at h
    obtain ⟨next, hnext, h⟩ := Except.bind_eq_ok.mp h
    rw [append_cons]
    exact ih (hf done a b next hb hnext) h

section MapM

variable {ε : Type u} {α β : Type v} {f : α → Except ε β} {g : α → β} {xs : List α} {ys : List β}

theorem mapM_eq_ok (h : ∀ x ∈ xs, f x = .ok (g x)) : xs.mapM f = .ok (xs.map g) := by
  induction xs with
  | nil => rfl
  | cons x xs ih =>
    have hx := h x mem_cons_self
    have hxs := ih fun y hy => h y (mem_cons_of_mem _ hy)
    rw [mapM_cons, hx, hxs, map_cons]
    rfl

theorem exists_of_mapM_eq_ok (h : xs.mapM f = .ok ys) : ∀ x ∈ xs, ∃ y, f x = .ok y := by
  induction xs generalizing ys with
  | nil => simp
  | cons x xs ih =>
    rw [mapM_cons] at h
    obtain ⟨y, hy, h⟩ := Except.bind_eq_ok.mp h
    obtain ⟨ys', hys, -⟩ := Except.bind_eq_ok.mp h
    exact forall_mem_cons.mpr ⟨⟨y, hy⟩, ih hys⟩

/-- A loop that may fail returns a list when its body returns its elements. -/
theorem mapM_eq_ok_iff : xs.mapM f = .ok ys ↔ Forall₂ (fun x y => f x = .ok y) xs ys := by
  constructor
  · intro h
    induction xs generalizing ys with
    | nil =>
      obtain rfl : [] = ys := Except.ok.inj h
      exact .nil
    | cons x xs ih =>
      rw [mapM_cons] at h
      obtain ⟨y, hy, h⟩ := Except.bind_eq_ok.mp h
      obtain ⟨ys', hys, h⟩ := Except.bind_eq_ok.mp h
      obtain rfl : y :: ys' = ys := Except.ok.inj h
      exact .cons hy (ih hys)
  · intro h
    induction h with
    | nil => rfl
    | cons hy _ ih =>
      rw [mapM_cons, hy, ih]
      rfl

/-- A loop fails with the error of one of its elements. -/
theorem exists_of_mapM_eq_error {e : ε} (h : xs.mapM f = .error e) : ∃ x ∈ xs, f x = .error e := by
  induction xs with
  | nil => cases h
  | cons x xs ih =>
    rw [mapM_cons] at h
    cases hx : f x with
    | error e' =>
      rw [hx] at h
      exact ⟨x, mem_cons_self, by rw [hx, Except.error.inj h]⟩
    | ok y =>
      cases hxs : xs.mapM f with
      | error e' =>
        rw [hx, hxs] at h
        obtain ⟨x', hx', heq⟩ := ih (by rw [hxs, Except.error.inj h])
        exact ⟨x', mem_cons_of_mem _ hx', heq⟩
      | ok ys =>
        rw [hx, hxs] at h
        cases h

theorem exists_mapM_eq_ok (h : ∀ x ∈ xs, ∃ y, f x = .ok y) : ∃ ys, xs.mapM f = .ok ys := by
  induction xs with
  | nil => exact ⟨[], rfl⟩
  | cons x xs ih =>
    obtain ⟨⟨y, hy⟩, hxs⟩ := forall_mem_cons.mp h
    obtain ⟨ys, hys⟩ := ih hxs
    exact ⟨y :: ys, mapM_eq_ok_iff.mpr (.cons hy (mapM_eq_ok_iff.mp hys))⟩

end MapM

section Forall₂

variable {α : Type u} {β : Type v} {r : α → β → Prop} {xs : List α} {ys : List β}

theorem Forall₂.exists_of_mem_right (h : Forall₂ r xs ys) {y : β} (hy : y ∈ ys) :
    ∃ x ∈ xs, r x y := by
  obtain ⟨i, hi, rfl⟩ := mem_iff_getElem.mp hy
  have hlen : i < xs.length := h.length_eq ▸ hi
  exact ⟨xs[i], getElem_mem hlen, h.get hlen hi⟩

theorem Forall₂.exists_of_mem_left (h : Forall₂ r xs ys) {x : α} (hx : x ∈ xs) :
    ∃ y ∈ ys, r x y := by
  obtain ⟨i, hi, rfl⟩ := mem_iff_getElem.mp hx
  have hlen : i < ys.length := h.length_eq ▸ hi
  exact ⟨ys[i], getElem_mem hlen, h.get hi hlen⟩

end Forall₂

section OptionMapM

variable {α β γ : Type u} {f : α → Option β} {xs : List α} {ys : List β}

theorem mapM_eq_some_iff : xs.mapM f = some ys ↔ Forall₂ (fun x y => f x = some y) xs ys := by
  induction xs generalizing ys with
  | nil => simp [eq_comm]
  | cons x xs ih =>
    simp only [mapM_cons, Option.bind_eq_bind, Option.bind_eq_some_iff, Option.pure_def,
      Option.some.injEq, ih, forall₂_cons_left_iff]
    constructor
    · rintro ⟨y, hy, rest, hrest, rfl⟩
      exact ⟨y, rest, hy, hrest, rfl⟩
    · rintro ⟨y, rest, hy, hrest, rfl⟩
      exact ⟨y, hy, rest, hrest, rfl⟩

/-- What the body keeps of an element, the loop keeps of all. -/
theorem map_eq_of_mapM {g : α → γ} {g' : β → γ} (hf : ∀ x ∈ xs, ∀ y, f x = some y → g' y = g x)
    (h : xs.mapM f = some ys) : ys.map g' = xs.map g := by
  have hrel := mapM_eq_some_iff.mp h
  induction hrel with
  | nil => rfl
  | cons hy hrest ih =>
    obtain ⟨hx, hxs⟩ := forall_mem_cons.mp hf
    rw [map_cons, map_cons, hx _ hy, ih hxs (mapM_eq_some_iff.mpr hrest)]

theorem exists_of_mem_mapM (h : xs.mapM f = some ys) {y : β} (hy : y ∈ ys) :
    ∃ x ∈ xs, f x = some y :=
  (mapM_eq_some_iff.mp h).exists_of_mem_right hy

theorem exists_of_mapM_eq_some (h : xs.mapM f = some ys) {x : α} (hx : x ∈ xs) :
    ∃ y ∈ ys, f x = some y :=
  (mapM_eq_some_iff.mp h).exists_of_mem_left hx

theorem exists_mapM_eq_some (h : ∀ x ∈ xs, ∃ y, f x = some y) : ∃ ys, xs.mapM f = some ys := by
  induction xs with
  | nil => exact ⟨[], rfl⟩
  | cons x xs ih =>
    obtain ⟨⟨y, hy⟩, hxs⟩ := forall_mem_cons.mp h
    obtain ⟨ys, hys⟩ := ih hxs
    exact ⟨y :: ys, mapM_eq_some_iff.mpr (.cons hy (mapM_eq_some_iff.mp hys))⟩

end OptionMapM

variable {α : Type u} {xs : List α}

theorem exists_ne_of_nodup (hnodup : xs.Nodup) (htwo : 2 ≤ xs.length) :
    ∃ x ∈ xs, ∃ y ∈ xs, x ≠ y := by
  match xs, htwo with
  | x :: y :: rest, _ => exact ⟨x, by simp, y, by simp, fun heq => by simp [heq] at hnodup⟩

variable [DecidableEq α]

/-- The pairs of different elements, in the order of two nested loops. -/
def orderedPairs (xs : List α) : List (α × α) :=
  xs.flatMap fun x => (xs.filter (x ≠ ·)).map (x, ·)

theorem mem_orderedPairs {pair : α × α} :
    pair ∈ xs.orderedPairs ↔ pair.1 ∈ xs ∧ pair.2 ∈ xs ∧ pair.1 ≠ pair.2 := by
  obtain ⟨x, y⟩ := pair
  simp [orderedPairs]

end List
