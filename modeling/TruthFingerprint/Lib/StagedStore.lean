import Mathlib

/-!
# Staged last-write-wins stores

A store with a live part, which readers see, and a staged part, which a commit copies over it.
Staging replaces everything that was staged before; within one staging the last write to a key
wins. What a run leaves under a key is the last value that one of its commits installed there, and
the old value when none did (`run_live`). The writes of one staging are all visible after the
commit exactly when no two of them give different values to one key (`all_visible_iff`).
-/

namespace StagedStore

variable {K V : Type*} [DecidableEq K]

structure Store (K V : Type*) where
  live : K → Option V
  staged : K → Option V

inductive Action (K V : Type*)
  | stage (writes : List (K × V))
  | commit
  | idle

/-- The last value a list of writes gives to a key. -/
def lastWrite (writes : List (K × V)) (k : K) : Option V :=
  (writes.reverse.find? (·.1 = k)).map (·.2)

def step (s : Store K V) : Action K V → Store K V
  | .stage writes => { s with staged := lastWrite writes }
  | .commit => { s with live := fun k => (s.staged k).or (s.live k) }
  | .idle => s

def run (s : Store K V) (acts : List (Action K V)) : Store K V := acts.foldl step s

/-- The value under `k` that the last commit to install one installs, when `staged` is what the
run finds staged there. -/
def installed (k : K) : Option V → List (Action K V) → Option V
  | _, [] => none
  | _, .stage writes :: acts => installed k (lastWrite writes k) acts
  | staged, .commit :: acts => (installed k staged acts).or staged
  | staged, .idle :: acts => installed k staged acts

theorem run_live (s : Store K V) (acts : List (Action K V)) (k : K) :
    (run s acts).live k = (installed k (s.staged k) acts).or (s.live k) := by
  induction acts generalizing s with
  | nil => rfl
  | cons act acts ih =>
    change (run (step s act) acts).live k = _
    cases act with
    | stage | idle => simp [ih, step, installed]
    | commit => simp [ih, step, installed, Option.or_assoc]

variable {s : Store K V} {acts : List (Action K V)} {writes : List (K × V)} {k : K} {v : V}

theorem exists_of_lastWrite (h : lastWrite writes k = some v) : (k, v) ∈ writes := by
  simp only [lastWrite, Option.map_eq_some_iff] at h
  obtain ⟨w, hw, rfl⟩ := h
  have hk : w.1 = k := by simpa using List.find?_some hw
  have hmem := List.mem_of_find?_eq_some hw
  rw [← hk]
  exact List.mem_reverse.mp hmem

theorem lastWrite_isSome (h : (k, v) ∈ writes) : ∃ v', lastWrite writes k = some v' := by
  have : (writes.reverse.find? (·.1 = k)).isSome :=
    List.find?_isSome.mpr ⟨_, List.mem_reverse.mpr h, by simp⟩
  obtain ⟨w, hw⟩ := Option.isSome_iff_exists.mp this
  exact ⟨w.2, by simp [lastWrite, hw]⟩

theorem live_stage_commit (s : Store K V) (writes : List (K × V)) (k : K) :
    (run s [.stage writes, .commit]).live k = (lastWrite writes k).or (s.live k) := rfl

/-- No write of a staging is lost to a later one exactly when writes to one key agree. -/
theorem all_visible_iff (s : Store K V) (writes : List (K × V)) :
    (∀ w ∈ writes, (run s [.stage writes, .commit]).live w.1 = some w.2) ↔
      ∀ w ∈ writes, ∀ w' ∈ writes, w.1 = w'.1 → w.2 = w'.2 := by
  constructor
  · intro h w hw w' hw' hk
    have h1 := h w hw
    rw [hk, h w' hw'] at h1
    exact (Option.some.inj h1).symm
  · intro h w hw
    obtain ⟨v, hv⟩ := lastWrite_isSome (v := w.2) hw
    have heq : v = w.2 := h (w.1, v) (exists_of_lastWrite hv) w hw rfl
    rw [live_stage_commit, hv, heq, Option.some_or]

end StagedStore
