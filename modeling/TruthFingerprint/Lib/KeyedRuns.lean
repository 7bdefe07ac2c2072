import Mathlib

/-!
# Runs with a state for each key

A loop over a list keeps one state for each key, and an element changes and reads only the state of
its key. The state of a key after the loop is that of the run over the elements of the key alone
(`keyedRun_state`), and what the loop emits is what these runs emit, in some order
(`keyedRun_output_perm`). Both depend on the order of the elements of one key only.
-/

namespace KeyedRuns

variable {α β κ σ : Type*} [DecidableEq κ] (key : α → κ) (step : κ → σ → α → σ × List β)

/-- The run over elements of one key -/
def run (k : κ) (state : σ) : List α → σ × List β
  | [] => (state, [])
  | a :: as =>
    let next := step k state a
    let rest := run k next.1 as
    (rest.1, next.2 ++ rest.2)

/-- The run over elements of all keys -/
def keyedRun (states : κ → σ) : List α → (κ → σ) × List β
  | [] => (states, [])
  | a :: as =>
    let next := step (key a) (states (key a)) a
    let rest := keyedRun (Function.update states (key a) next.1) as
    (rest.1, next.2 ++ rest.2)

variable {key step} {states : κ → σ} {as bs : List α}

theorem keyedRun_state (as : List α) (k : κ) :
    (keyedRun key step states as).1 k = (run step k (states k) (as.filter (key · = k))).1 := by
  induction as generalizing states with
  | nil => rfl
  | cons a as ih =>
    rw [keyedRun, List.filter_cons]
    by_cases hk : key a = k
    · subst hk
      rw [if_pos (decide_eq_true rfl), run, ih, Function.update_self]
    · rw [if_neg (by simpa using hk), ih, Function.update_of_ne (Ne.symm hk)]

/-- What is emitted, by key -/
theorem keyedRun_output_perm {ks : List κ} (hks : ks.Nodup) (has : ∀ a ∈ as, key a ∈ ks) :
    (keyedRun key step states as).2.Perm
      (ks.flatMap fun k => (run step k (states k) (as.filter (key · = k))).2) := by
  induction as generalizing states with
  | nil => simp [keyedRun, run]
  | cons a as ih =>
    obtain ⟨ha, has⟩ := List.forall_mem_cons.mp has
    let next := step (key a) (states (key a)) a
    obtain ⟨before, after, rfl⟩ := List.append_of_mem ha
    have hbefore : ∀ k ∈ before ++ after, k ≠ key a := fun k hk heq => by
      have hnodup := List.nodup_middle.mp hks
      exact (List.nodup_cons.mp hnodup).1 (heq ▸ hk)
    -- the runs of the other keys are those without the element
    have hother : ∀ k ∈ before ++ after,
        (run step k (Function.update states (key a) next.1 k) (as.filter (key · = k))).2 =
          (run step k (states k) ((a :: as).filter (key · = k))).2 := by
      intro k hk
      have hne := hbefore k hk
      rw [Function.update_of_ne hne, List.filter_cons, if_neg (by simpa using Ne.symm hne)]
    have hself : (run step (key a) (states (key a)) ((a :: as).filter (key · = key a))).2 =
        next.2 ++ (run step (key a) (Function.update states (key a) next.1 (key a))
          (as.filter (key · = key a))).2 := by
      rw [List.filter_cons, if_pos (decide_eq_true rfl), run, Function.update_self]
    have hleft := List.flatMap_congr fun k hk => hother k (List.mem_append_left after hk)
    have hright := List.flatMap_congr fun k hk => hother k (List.mem_append_right before hk)
    have ih := @ih (Function.update states (key a) next.1) has
    rw [List.flatMap_append, List.flatMap_cons, hleft, hright] at ih
    rw [List.flatMap_append, List.flatMap_cons, hself]
    refine (ih.append_left next.2).trans ?_
    rw [List.append_assoc next.2]
    exact List.perm_append_comm_assoc _ _ _

/-- Nothing is emitted when no run emits something. -/
theorem keyedRun_output_eq_nil_iff : (keyedRun key step states as).2 = [] ↔
    ∀ k, (run step k (states k) (as.filter (key · = k))).2 = [] := by
  have hperm : (keyedRun key step states as).2.Perm ((as.map key).dedup.flatMap fun k =>
      (run step k (states k) (as.filter (key · = k))).2) :=
    keyedRun_output_perm (List.nodup_dedup _) fun a ha =>
      List.mem_dedup.mpr (List.mem_map_of_mem ha)
  constructor
  · intro hnil k
    by_cases hk : k ∈ (as.map key).dedup
    · rw [hnil] at hperm
      exact List.flatMap_eq_nil_iff.mp (List.nil_perm.mp hperm) k hk
    · have hnone : as.filter (key · = k) = [] := List.filter_eq_nil_iff.mpr fun a ha hka =>
        hk (List.mem_dedup.mpr (List.mem_map.mpr ⟨a, ha, of_decide_eq_true hka⟩))
      rw [hnone, run]
  · intro hnil
    rw [List.flatMap_eq_nil_iff.mpr fun k _ => hnil k] at hperm
    exact hperm.eq_nil

/-- Interleaving the elements of different keys in another way emits the same. -/
theorem keyedRun_output_perm_of_interleaving
    (h : ∀ k, as.filter (key · = k) = bs.filter (key · = k)) :
    (keyedRun key step states as).2.Perm (keyedRun key step states bs).2 := by
  let ks := (as.map key ++ bs.map key).dedup
  have hmem : ∀ a ∈ as ++ bs, key a ∈ ks := fun a ha => by
    rw [List.mem_dedup, ← List.map_append]
    exact List.mem_map_of_mem ha
  have hks : ks.Nodup := List.nodup_dedup _
  have hleft : (keyedRun key step states as).2.Perm
      (ks.flatMap fun k => (run step k (states k) (as.filter (key · = k))).2) :=
    keyedRun_output_perm hks fun a ha => hmem a (List.mem_append_left _ ha)
  have hright : (keyedRun key step states bs).2.Perm
      (ks.flatMap fun k => (run step k (states k) (bs.filter (key · = k))).2) :=
    keyedRun_output_perm hks fun a ha => hmem a (List.mem_append_right _ ha)
  simp only [h] at hleft
  exact hleft.trans hright.symm

end KeyedRuns
