import Mathlib

/-!
# Merging files of events by time

Events of several files are sorted by their times, and by their names at one time. The names come in
an order in which the events can have been traced if and only if in each file the events of one time
have names that do not decrease (`traced_byTime_iff`).
-/

namespace TimedMerge

variable {τ ν : Type} [LinearOrder τ] [LinearOrder ν]

/-- By time, and by name at one time -/
def byTime (events : List (τ × ν)) : List (τ × ν) :=
  events.insertionSort fun a b => toLex a ≤ toLex b

/-- Events of files, each with the number of its file, which has its events in its own order -/
structure MergeOf (files : List (List (τ × ν))) (merged : List (ℕ × τ × ν)) : Prop where
  perm : (merged.map Prod.snd).Perm files.flatten
  file : ∀ i, (merged.filter (·.1 = i)).map Prod.snd = files.getD i []

/-- The names of the events of files in an order of time that keeps the order of each file -/
def Traced (files : List (List (τ × ν))) (names : List ν) : Prop :=
  ∃ merged, MergeOf files merged ∧ (merged.map (·.2.1)).Pairwise (· ≤ ·) ∧
    merged.map (·.2.2) = names

variable {files : List (List (τ × ν))} {events : List (τ × ν)}

theorem pairwise_byTime (events : List (τ × ν)) :
    (byTime events).Pairwise fun a b => toLex a ≤ toLex b := by
  have : Std.Total fun a b : τ × ν => toLex a ≤ toLex b :=
    ⟨fun a b => le_total (toLex a) (toLex b)⟩
  have : IsTrans (τ × ν) fun a b => toLex a ≤ toLex b := ⟨fun _ _ _ => le_trans⟩
  exact List.pairwise_insertionSort _ _

theorem fst_le_of_toLex_le {a b : τ × ν} (h : toLex a ≤ toLex b) : a.1 ≤ b.1 := by
  rcases Prod.Lex.toLex_le_toLex.mp h with hlt | ⟨heq, -⟩
  · exact hlt.le
  · exact heq.le

/-- Lists with the same events in the order of time and name are the same. -/
theorem eq_of_sorted {events' : List (τ × ν)} (hperm : events.Perm events')
    (h : events.Pairwise fun a b => toLex a ≤ toLex b)
    (h' : events'.Pairwise fun a b => toLex a ≤ toLex b) : events = events' :=
  hperm.eq_of_pairwise (fun _ _ _ _ hab hba => toLex.injective (le_antisymm hab hba)) h h'

/-- A window of the sorted events is the sorted window. -/
theorem filter_byTime (p : τ × ν → Bool) (events : List (τ × ν)) :
    (byTime events).filter p = byTime (events.filter p) :=
  eq_of_sorted (((List.perm_insertionSort _ _).filter p).trans (List.perm_insertionSort _ _).symm)
    ((pairwise_byTime events).filter p) (pairwise_byTime _)

/-- A part that is sorted keeps its order. -/
theorem filter_insertionSort {α : Type} {r : α → α → Prop} [DecidableRel r] [Std.Total r]
    [IsTrans α r] {l : List α} {p : α → Bool} (h : (l.filter p).Pairwise r) :
    (l.insertionSort r).filter p = l.filter p := by
  have hsublist := (List.sublist_insertionSort h List.filter_sublist).filter p
  rw [List.filter_filter] at hsublist
  simp only [Bool.and_self] at hsublist
  exact (hsublist.eq_of_length ((List.perm_insertionSort r l).filter p).length_eq.symm).symm

/-! ## The number of a file -/

/-- The events with the numbers of their files -/
def numbered (files : List (List (τ × ν))) : List (ℕ × τ × ν) :=
  files.zipIdx.flatMap fun file => file.1.map fun event => (file.2, event)

omit [LinearOrder τ] [LinearOrder ν] in
theorem map_snd_numbered (files : List (List (τ × ν))) :
    (numbered files).map Prod.snd = files.flatten := by
  have hfirst : files.zipIdx.map Prod.fst = files := List.zipIdx_map_fst 0 files
  conv_rhs => rw [← hfirst, List.flatten_eq_flatMap, List.flatMap_map]
  rw [numbered, List.map_flatMap]
  refine List.flatMap_congr fun file _ => ?_
  rw [List.map_map]
  exact List.map_id _

omit [LinearOrder τ] [LinearOrder ν] in
theorem filter_numbered (files : List (List (τ × ν))) (i : ℕ) :
    (numbered files).filter (·.1 = i) = (files.getD i []).map fun event => (i, event) := by
  rw [numbered]
  suffices h : ∀ start, ((files.zipIdx start).flatMap fun file =>
      file.1.map fun event => (file.2, event)).filter (·.1 = start + i) =
        (files.getD i []).map fun event => (start + i, event) by
    simpa using h 0
  induction files generalizing i with
  | nil => simp
  | cons file files ih =>
    intro start
    rw [List.zipIdx_cons, List.flatMap_cons, List.filter_append]
    cases i with
    | zero =>
      have hlater : (((files.zipIdx (start + 1)).flatMap fun file =>
          file.1.map fun event => (file.2, event)).filter (·.1 = start + 0)) = [] := by
        refine List.filter_eq_nil_iff.mpr fun event hevent => ?_
        obtain ⟨other, hother, hevent⟩ := List.mem_flatMap.mp hevent
        obtain ⟨_, -, rfl⟩ := List.mem_map.mp hevent
        have hle := List.le_snd_of_mem_zipIdx hother
        simp only [decide_eq_true_eq]
        omega
      rw [hlater, List.append_nil, List.filter_eq_self.mpr]
      · simp
      · intro event hevent
        obtain ⟨_, -, rfl⟩ := List.mem_map.mp hevent
        simp
    | succ i =>
      have hfirst : ((file.map fun event => (start, event)).filter (·.1 = start + (i + 1))) = [] := by
        refine List.filter_eq_nil_iff.mpr fun event hevent => ?_
        obtain ⟨_, -, rfl⟩ := List.mem_map.mp hevent
        simp
      have hrest := ih i (start + 1)
      have heq : start + 1 + i = start + (i + 1) := by omega
      rw [heq] at hrest
      rw [hfirst, List.nil_append, hrest, List.getD_cons_succ]

/-! ## Traces -/

theorem traced_byTime (h : ∀ file ∈ files, file.Pairwise fun a b => toLex a ≤ toLex b) :
    Traced files ((byTime files.flatten).map Prod.snd) := by
  let r : ℕ × τ × ν → ℕ × τ × ν → Prop := fun a b => toLex a.2 ≤ toLex b.2
  have : Std.Total r := ⟨fun a b => le_total (toLex a.2) (toLex b.2)⟩
  have : IsTrans (ℕ × τ × ν) r := ⟨fun _ _ _ => le_trans⟩
  have hmap : ((numbered files).insertionSort r).map Prod.snd = byTime files.flatten := by
    rw [byTime, ← map_snd_numbered]
    exact List.map_insertionSort _ _ Prod.snd _ fun _ _ _ _ => Iff.rfl
  refine ⟨(numbered files).insertionSort r, ⟨?_, fun i => ?_⟩, ?_, ?_⟩
  · exact hmap ▸ List.perm_insertionSort _ _
  · have hsorted : ((numbered files).filter (·.1 = i)).Pairwise r := by
      rw [filter_numbered, List.pairwise_map]
      rcases Nat.lt_or_ge i files.length with hi | hi
      · rw [List.getD_eq_getElem _ _ hi]
        exact h _ (List.getElem_mem hi)
      · rw [List.getD_eq_default _ _ hi]
        exact List.Pairwise.nil
    rw [filter_insertionSort hsorted, filter_numbered, List.map_map]
    exact List.map_id _
  · have htimes : ((numbered files).insertionSort r).map (·.2.1) =
        (byTime files.flatten).map Prod.fst := by
      rw [← hmap, List.map_map]
      rfl
    rw [htimes]
    exact List.pairwise_map.mpr ((pairwise_byTime _).imp fst_le_of_toLex_le)
  · rw [← hmap, List.map_map]
    rfl

/-- The times of events in an order of time are those of the sorted events. -/
theorem sorted_of_traced (h : Traced files ((byTime files.flatten).map Prod.snd)) :
    ∀ file ∈ files, file.Pairwise fun a b => toLex a ≤ toLex b := by
  obtain ⟨merged, hmerged, htimes, hnames⟩ := h
  have hperm : (merged.map Prod.snd).Perm (byTime files.flatten) :=
    hmerged.perm.trans (List.perm_insertionSort _ _).symm
  have hfirst : (merged.map Prod.snd).map Prod.fst = (byTime files.flatten).map Prod.fst := by
    refine (hperm.map Prod.fst).eq_of_pairwise (fun _ _ _ _ => le_antisymm) ?_
      (List.pairwise_map.mpr ((pairwise_byTime _).imp fst_le_of_toLex_le))
    rw [List.map_map]
    exact htimes
  have hsecond : (merged.map Prod.snd).map Prod.snd = (byTime files.flatten).map Prod.snd := by
    rw [List.map_map]
    exact hnames
  have hevents : merged.map Prod.snd = byTime files.flatten := by
    rw [← List.zip_unzip (merged.map Prod.snd), ← List.zip_unzip (byTime files.flatten)]
    simp only [List.unzip_fst, List.unzip_snd, hfirst, hsecond]
  have hsorted : merged.Pairwise fun a b => toLex a.2 ≤ toLex b.2 :=
    List.pairwise_map.mp (hevents ▸ pairwise_byTime _)
  intro file hfile
  obtain ⟨i, hi, rfl⟩ := List.mem_iff_getElem.mp hfile
  have hfile := hmerged.file i
  rw [List.getD_eq_getElem _ _ hi] at hfile
  rw [← hfile]
  exact List.pairwise_map.mpr (hsorted.filter _)

/-- Of files in the order of time, the names of the sorted events are traced if and only if in no file
an event comes before one of the same time whose name is smaller. -/
theorem traced_byTime_iff (hfiles : ∀ file ∈ files, file.Pairwise fun a b => a.1 ≤ b.1) :
    Traced files ((byTime files.flatten).map Prod.snd) ↔
      ∀ file ∈ files, file.Pairwise fun a b => a.1 = b.1 → a.2 ≤ b.2 := by
  constructor
  · intro h file hfile
    refine (sorted_of_traced h file hfile).imp fun hle heq => ?_
    rcases Prod.Lex.toLex_le_toLex.mp hle with hlt | ⟨-, hname⟩
    · exact absurd heq hlt.ne
    · exact hname
  · intro h
    refine traced_byTime fun file hfile => ?_
    refine ((hfiles file hfile).and (h file hfile)).imp fun hboth => ?_
    rcases hboth.1.lt_or_eq with hlt | heq
    · exact Prod.Lex.toLex_le_toLex.mpr (.inl hlt)
    · exact Prod.Lex.toLex_le_toLex.mpr (.inr ⟨heq, hboth.2 heq⟩)

end TimedMerge
