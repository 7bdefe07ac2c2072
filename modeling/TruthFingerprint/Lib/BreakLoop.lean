import Mathlib

/-!
# Loops that may raise and may break

The body of a loop says which state comes next and whether the loop breaks. An invariant of the body
is one of the loop (`BreakLoop.invariant`), and loops over one list whose bodies keep their states
related, and break together, end in states that are related (`BreakLoop.simulation`). The same holds
of a fold that may raise.
-/

universe u v

namespace BreakLoop

variable {α : Type v} {σ τ : Type u}

def run (body : σ → α → Option (σ × Bool)) : σ → List α → Option σ
  | s, [] => some s
  | s, a :: rest => (body s a).bind fun next => if next.2 then some next.1 else run body next.1 rest

variable {body : σ → α → Option (σ × Bool)} {body' : τ → α → Option (τ × Bool)} {s s' : σ} {t t' : τ}
  {xs : List α}

theorem invariant (good : σ → Prop)
    (hbody : ∀ a ∈ xs, ∀ s next, good s → body s a = some next → good next.1) (hs : good s)
    (h : run body s xs = some s') : good s' := by
  induction xs generalizing s with
  | nil =>
    cases h
    exact hs
  | cons a rest ih =>
    obtain ⟨ha, hrest⟩ := List.forall_mem_cons.mp hbody
    obtain ⟨next, hnext, h⟩ := Option.bind_eq_some_iff.mp h
    have hgood := ha s next hs hnext
    split_ifs at h
    · cases h
      exact hgood
    · exact ih hrest hgood h

theorem simulation (related : σ → τ → Prop)
    (hbody : ∀ a ∈ xs, ∀ s t next next', related s t → body s a = some next →
      body' t a = some next' → related next.1 next'.1 ∧ next.2 = next'.2)
    (hs : related s t) (h : run body s xs = some s') (h' : run body' t xs = some t') :
    related s' t' := by
  induction xs generalizing s t with
  | nil =>
    cases h
    cases h'
    exact hs
  | cons a rest ih =>
    obtain ⟨ha, hrest⟩ := List.forall_mem_cons.mp hbody
    obtain ⟨next, hnext, h⟩ := Option.bind_eq_some_iff.mp h
    obtain ⟨next', hnext', h'⟩ := Option.bind_eq_some_iff.mp h'
    obtain ⟨hrelated, hbreak⟩ := ha s t next next' hs hnext hnext'
    rw [← hbreak] at h'
    split_ifs at h h'
    · cases h
      cases h'
      exact hrelated
    · exact ih hrest hrelated h h'

section Fold

variable {step : σ → α → Option σ} {step' : τ → α → Option τ}

theorem foldlM_invariant (good : σ → Prop)
    (hstep : ∀ a ∈ xs, ∀ s next, good s → step s a = some next → good next) (hs : good s)
    (h : xs.foldlM step s = some s') : good s' := by
  induction xs generalizing s with
  | nil =>
    cases h
    exact hs
  | cons a rest ih =>
    obtain ⟨ha, hrest⟩ := List.forall_mem_cons.mp hstep
    rw [List.foldlM_cons] at h
    obtain ⟨next, hnext, h⟩ := Option.bind_eq_some_iff.mp h
    exact ih hrest (ha s next hs hnext) h

/-- What the body keeps for the items that are done holds at the end for all of them. -/
theorem foldlM_done {done : List α} (P : List α → σ → Prop)
    (hstep : ∀ done a s next, P done s → step s a = some next → P (done ++ [a]) next)
    (hs : P done s) (h : xs.foldlM step s = some s') : P (done ++ xs) s' := by
  induction xs generalizing done s with
  | nil =>
    cases h
    rwa [List.append_nil]
  | cons a rest ih =>
    rw [List.foldlM_cons] at h
    obtain ⟨next, hnext, h⟩ := Option.bind_eq_some_iff.mp h
    rw [List.append_cons]
    exact ih (hstep done a s next hs hnext) h

theorem foldlM_simulation (related : σ → τ → Prop)
    (hstep : ∀ a ∈ xs, ∀ s t next next', related s t → step s a = some next →
      step' t a = some next' → related next next')
    (hs : related s t) (h : xs.foldlM step s = some s') (h' : xs.foldlM step' t = some t') :
    related s' t' := by
  induction xs generalizing s t with
  | nil =>
    cases h
    cases h'
    exact hs
  | cons a rest ih =>
    obtain ⟨ha, hrest⟩ := List.forall_mem_cons.mp hstep
    rw [List.foldlM_cons] at h h'
    obtain ⟨next, hnext, h⟩ := Option.bind_eq_some_iff.mp h
    obtain ⟨next', hnext', h'⟩ := Option.bind_eq_some_iff.mp h'
    exact ih hrest (ha s t next next' hs hnext hnext') h h'

/-- A loop ends when its body does, wherever an invariant holds. -/
theorem exists_foldlM (good : σ → Prop)
    (hstep : ∀ a ∈ xs, ∀ s, good s → ∃ next, step s a = some next ∧ good next) (hs : good s) :
    ∃ s', xs.foldlM step s = some s' ∧ good s' := by
  induction xs generalizing s with
  | nil => exact ⟨s, rfl, hs⟩
  | cons a rest ih =>
    obtain ⟨ha, hrest⟩ := List.forall_mem_cons.mp hstep
    obtain ⟨next, hnext, hgood⟩ := ha s hs
    obtain ⟨s', h, hs'⟩ := ih hrest hgood
    exact ⟨s', by rw [List.foldlM_cons, hnext, Option.bind_eq_bind, Option.bind_some, h], hs'⟩

/-- A loop that changes something does so in one of its steps. -/
theorem exists_step_of_foldlM {β : Type*} (view : σ → β) (h : xs.foldlM step s = some s')
    (hne : view s' ≠ view s) :
    ∃ a ∈ xs, ∃ s₁ s₂, step s₁ a = some s₂ ∧ view s₂ ≠ view s₁ := by
  induction xs generalizing s with
  | nil =>
    cases h
    exact (hne rfl).elim
  | cons a rest ih =>
    rw [List.foldlM_cons] at h
    obtain ⟨next, hnext, h⟩ := Option.bind_eq_some_iff.mp h
    by_cases hsame : view next = view s
    · obtain ⟨b, hb, hstep⟩ := ih h (hsame ▸ hne)
      exact ⟨b, List.mem_cons_of_mem _ hb, hstep⟩
    · exact ⟨a, List.mem_cons_self, s, next, hnext, hsame⟩

theorem foldlM_mono {stepMore : σ → α → Option σ}
    (hstep : ∀ a ∈ xs, ∀ s next, step s a = some next → stepMore s a = some next)
    (h : xs.foldlM step s = some s') : xs.foldlM stepMore s = some s' := by
  induction xs generalizing s with
  | nil => exact h
  | cons a rest ih =>
    obtain ⟨ha, hrest⟩ := List.forall_mem_cons.mp hstep
    rw [List.foldlM_cons] at h ⊢
    obtain ⟨next, hnext, h⟩ := Option.bind_eq_some_iff.mp h
    rw [ha s next hnext]
    exact ih hrest h

theorem foldlM_take_eq {ys : List α} (hlength : xs.length = ys.length)
    (hstep : ∀ i a b s', xs[i]? = some a → ys[i]? = some b → (xs.take i).foldlM step s = some s' →
      step s' a = step s' b) (n : Nat) :
    (xs.take n).foldlM step s = (ys.take n).foldlM step s := by
  induction n with
  | zero => rfl
  | succ n ih =>
    by_cases hn : n < xs.length
    · have hn' : n < ys.length := hlength ▸ hn
      rw [List.take_add_one, List.take_add_one, List.getElem?_eq_getElem hn,
        List.getElem?_eq_getElem hn', Option.toList_some, Option.toList_some, List.foldlM_append,
        List.foldlM_append, ← ih]
      cases hs : (xs.take n).foldlM step s with
      | none => rfl
      | some s' =>
        have hsame := hstep n _ _ s' (List.getElem?_eq_getElem hn) (List.getElem?_eq_getElem hn') hs
        simp [hsame]
    · have hlast : xs.take (n + 1) = xs.take n := by
        rw [List.take_of_length_le (by omega), List.take_of_length_le (by omega)]
      have hlast' : ys.take (n + 1) = ys.take n := by
        rw [List.take_of_length_le (by omega), List.take_of_length_le (by omega)]
      rw [hlast, hlast', ih]

/-- Folds over two lists end alike when each step makes the same of both elements, in the states
that the fold over the first list passes through. -/
theorem foldlM_congr_of_take {ys : List α} (hlength : xs.length = ys.length)
    (hstep : ∀ i a b s', xs[i]? = some a → ys[i]? = some b → (xs.take i).foldlM step s = some s' →
      step s' a = step s' b) : xs.foldlM step s = ys.foldlM step s := by
  have h := foldlM_take_eq hlength hstep xs.length
  rwa [List.take_length, hlength, List.take_length] at h

end Fold

end BreakLoop
