import Mathlib

/-!
# Runs of marks

A run is a largest interval of a list that is marked throughout. Runs are numbered in the order of
the list: the number of an item that is marked is that of the run which it lies in
(`exists_run`), and different runs have different numbers (`number_inj`). A pass over the list knows
the number from the marks so far (`count_concat`).
-/

namespace MarkedRuns

variable {marks more : List Bool} {i start stop start' stop' : ℕ}

/-- A mark without one before it -/
def begins (marks : List Bool) (i : ℕ) : Bool :=
  marks[i]? = some true ∧ (i = 0 ∨ marks[i - 1]? ≠ some true)

/-- How many runs begin up to an item -/
def number (marks : List Bool) (i : ℕ) : ℕ := (List.range (i + 1)).countP (begins marks)

/-- How many runs there are -/
def count (marks : List Bool) : ℕ := (List.range marks.length).countP (begins marks)

structure IsRun (marks : List Bool) (start stop : ℕ) : Prop where
  lt : start < stop
  marked : ∀ i, start ≤ i → i < stop → marks[i]? = some true
  before : start = 0 ∨ marks[start - 1]? ≠ some true
  after : marks[stop]? ≠ some true

theorem begins_iff : begins marks i ↔
    marks[i]? = some true ∧ (i = 0 ∨ marks[i - 1]? ≠ some true) := decide_eq_true_iff

theorem IsRun.begins (h : IsRun marks start stop) : begins marks start :=
  begins_iff.mpr ⟨h.marked start le_rfl h.lt, h.before⟩

theorem number_succ (marks : List Bool) (i : ℕ) :
    number marks (i + 1) = number marks i + if begins marks (i + 1) then 1 else 0 := by
  rw [number, List.range_succ, List.countP_append, List.countP_singleton]
  rfl

theorem number_mono {j : ℕ} (h : i ≤ j) : number marks i ≤ number marks j :=
  (List.range_sublist.mpr (Nat.succ_le_succ h)).countP_le

/-! ## The run of an item -/

/-- A marked item lies in a run, and is numbered as its start. -/
theorem exists_start (h : marks[i]? = some true) : ∃ start ≤ i, begins marks start ∧
    (∀ j, start ≤ j → j ≤ i → marks[j]? = some true) ∧ number marks i = number marks start := by
  induction i with
  | zero =>
    refine ⟨0, le_rfl, begins_iff.mpr ⟨h, .inl rfl⟩, fun j _ hj => ?_, rfl⟩
    obtain rfl := Nat.le_zero.mp hj
    exact h
  | succ i ih =>
    by_cases hprevious : marks[i]? = some true
    · obtain ⟨start, hle, hbegins, hmarked, hnumber⟩ := ih hprevious
      refine ⟨start, by omega, hbegins, fun j hstart hj => ?_, ?_⟩
      · rcases Nat.lt_or_ge i j with hlt | hge
        · obtain rfl : j = i + 1 := by omega
          exact h
        · exact hmarked j hstart hge
      · have hnot : ¬begins marks (i + 1) := fun hbegins =>
          (begins_iff.mp hbegins).2.elim (Nat.succ_ne_zero i) fun hne => hne hprevious
        rw [number_succ, if_neg hnot, Nat.add_zero, hnumber]
    · refine ⟨i + 1, le_rfl, begins_iff.mpr ⟨h, .inr hprevious⟩, fun j hstart hj => ?_, rfl⟩
      obtain rfl : j = i + 1 := by omega
      exact h

theorem exists_stop (h : marks[i]? = some true) : ∃ stop, i < stop ∧
    (∀ j, i ≤ j → j < stop → marks[j]? = some true) ∧ marks[stop]? ≠ some true := by
  obtain ⟨hlt, -⟩ := List.getElem?_eq_some_iff.mp h
  have hend : ∃ d, marks[i + d]? ≠ some true := by
    refine ⟨marks.length, ?_⟩
    rw [List.getElem?_eq_none (by omega)]
    exact nofun
  have hfirst := Nat.find_spec hend
  have hbefore : ∀ d < Nat.find hend, marks[i + d]? = some true := fun d hd =>
    not_not.mp (Nat.find_min hend hd)
  refine ⟨i + Nat.find hend, ?_, fun j hi hj => ?_, hfirst⟩
  · have hne : Nat.find hend ≠ 0 := fun hzero => by
      rw [hzero] at hfirst
      exact hfirst h
    omega
  · obtain ⟨d, rfl⟩ := Nat.exists_eq_add_of_le hi
    exact hbefore d (by omega)

theorem exists_run (h : marks[i]? = some true) : ∃ start stop, IsRun marks start stop ∧
    start ≤ i ∧ i < stop ∧ number marks i = number marks start := by
  obtain ⟨start, hstart, hbegins, hbefore, hnumber⟩ := exists_start h
  obtain ⟨stop, hstop, hmarked, hafter⟩ := exists_stop h
  refine ⟨start, stop, ⟨by omega, fun j hj hjstop => ?_, (begins_iff.mp hbegins).2, hafter⟩, hstart,
    hstop, hnumber⟩
  rcases Nat.lt_or_ge i j with hlt | hge
  · exact hmarked j hlt.le hjstop
  · exact hbefore j hj hge

/-- Within a run the number does not change. -/
theorem IsRun.number_eq (h : IsRun marks start stop) (hstart : start ≤ i) (hstop : i < stop) :
    number marks i = number marks start := by
  induction i, hstart using Nat.le_induction with
  | base => rfl
  | succ i hi ih =>
    have hnot : ¬MarkedRuns.begins marks (i + 1) := fun hbegins =>
      (begins_iff.mp hbegins).2.elim (Nat.succ_ne_zero i) fun hne =>
        hne (h.marked i hi (by omega))
    rw [number_succ, if_neg hnot, Nat.add_zero, ih (by omega)]

theorem number_lt {j : ℕ} (hlt : i < j) (h : begins marks j) : number marks i < number marks j := by
  obtain ⟨k, rfl⟩ : ∃ k, j = k + 1 := ⟨j - 1, by omega⟩
  rw [number_succ, if_pos h]
  exact Nat.lt_succ_of_le (number_mono (by omega))

/-- Different runs have different numbers. -/
theorem IsRun.number_inj (h : IsRun marks start stop) (h' : IsRun marks start' stop')
    (heq : number marks start = number marks start') : start = start' := by
  rcases Nat.lt_trichotomy start start' with hlt | heq' | hlt
  · exact absurd heq (number_lt hlt h'.begins).ne
  · exact heq'
  · exact absurd heq (number_lt hlt h.begins).ne'

/-! ## Passing over a list -/

theorem begins_append (hi : i < marks.length) : begins (marks ++ more) i = begins marks i := by
  rw [begins, begins, List.getElem?_append_left hi, List.getElem?_append_left (by omega)]

theorem number_append (hi : i < marks.length) : number (marks ++ more) i = number marks i := by
  refine List.countP_congr fun j hj => ?_
  rw [begins_append (by have := List.mem_range.mp hj; omega)]

theorem number_length (marks : List Bool) (mark : Bool) :
    number (marks ++ [mark]) marks.length = count (marks ++ [mark]) := by
  rw [number, count, List.length_append, List.length_singleton]

/-- A mark begins a run when the last item is not marked. -/
theorem count_concat (marks : List Bool) (mark : Bool) : count (marks ++ [mark]) =
    if mark ∧ marks.getLast? ≠ some true then count marks + 1 else count marks := by
  have hold : (List.range marks.length).countP (begins (marks ++ [mark])) = count marks :=
    List.countP_congr fun j hj => by rw [begins_append (List.mem_range.mp hj)]
  have hlast : begins (marks ++ [mark]) marks.length ↔ mark ∧ marks.getLast? ≠ some true := by
    rw [begins_iff, List.getElem?_concat_length, Option.some_inj]
    refine and_congr_right fun _ => ?_
    rcases List.eq_nil_or_concat marks with rfl | ⟨before, last, rfl⟩
    · simp
    · simp
  rw [count, List.length_append, List.length_singleton, List.range_succ, List.countP_append,
    List.countP_singleton, hold]
  simp only [hlast]
  split_ifs <;> rfl

end MarkedRuns
