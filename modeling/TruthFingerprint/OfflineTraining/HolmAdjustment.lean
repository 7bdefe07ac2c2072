import Mathlib
import TruthFingerprint.Lib.Dict
import TruthFingerprint.Lib.Sorting
import TruthFingerprint.Lib.StepDown

/-!
# Holm adjustment

The family-wise correction of p-values, in an ordered field. Undefined comparisons are retained.
-/

namespace TruthFingerprint.OfflineTraining

open StepDown

variable {K κ : Type} [Field K] [LinearOrder K] [DecidableEq κ]

/-- The comparisons that have a p-value -/
def definedRows (pValues : List (κ × Option K)) : List (κ × K) :=
  pValues.filterMap fun row => row.2.map fun value => (row.1, value)

/-- What the loop does with a comparison at its rank -/
def adjustStep (count : ℕ) (state : K × List (κ × Option K)) (entry : (κ × K) × ℕ) :
    K × List (κ × Option K) :=
  let running := max state.1 (min 1 (((count : K) - entry.2) * entry.1.2))
  (running, Dict.setItem state.2 (entry.1.1, some running))

def holmAdjust (pValues : List (κ × Option K)) : List (κ × Option K) :=
  let defined := (definedRows pValues).insertionSort (·.2 ≤ ·.2)
  (defined.zipIdx.foldl (adjustStep defined.length) (0, pValues.map fun row => (row.1, none))).2

/-! ## The loop -/

/-- The items that the loop sets -/
def adjustedItems (running : K) (rows : List (κ × K)) : List (κ × Option K) :=
  (rows.zip (adjusted running (rows.map Prod.snd))).map fun entry => (entry.1.1, some entry.2)

theorem foldl_adjustStep (rows : List (κ × K)) (rank : ℕ) (running : K)
    (dictionary : List (κ × Option K)) :
    ((rows.zipIdx rank).foldl (adjustStep (rank + rows.length)) (running, dictionary)).2 =
      (adjustedItems running rows).foldl Dict.setItem dictionary := by
  induction rows generalizing rank running dictionary with
  | nil => rfl
  | cons row rest ih =>
    have hfactor : ((rank + (rest.length + 1) : ℕ) : K) - rank = rest.length + 1 := by
      push_cast
      ring
    have hcount : rank + (row :: rest).length = rank + 1 + rest.length := by
      rw [List.length_cons]
      omega
    rw [List.zipIdx_cons, List.foldl_cons, adjustStep, List.length_cons, hfactor]
    rw [List.length_cons] at hcount
    rw [hcount, ih, adjustedItems, adjustedItems, List.map_cons, adjusted, List.zip_cons_cons,
      List.map_cons, List.foldl_cons, List.length_map]

omit [DecidableEq κ] in
theorem names_adjustedItems (running : K) (rows : List (κ × K)) :
    (adjustedItems running rows).map Prod.fst = rows.map Prod.fst := by
  have hlength : rows.length ≤ (adjusted running (rows.map Prod.snd)).length := by simp
  have hfst := congrArg (List.map Prod.fst) (List.map_fst_zip hlength)
  rw [adjustedItems, List.map_map]
  rwa [List.map_map] at hfst

/-! ## The dictionary -/

section Rows

omit [Field K] [LinearOrder K] [DecidableEq κ]

variable {pValues : List (κ × Option K)} {name : κ} {p : K}

theorem mem_definedRows : (name, p) ∈ definedRows pValues ↔ (name, some p) ∈ pValues := by
  rw [definedRows, List.mem_filterMap]
  constructor
  · rintro ⟨⟨name', value⟩, hrow, hvalue⟩
    obtain ⟨p', rfl, heq⟩ := Option.map_eq_some_iff.mp hvalue
    cases heq
    exact hrow
  · intro hrow
    exact ⟨(name, some p), hrow, rfl⟩

theorem nodup_definedRows (hnames : (pValues.map Prod.fst).Nodup) :
    ((definedRows pValues).map Prod.fst).Nodup := by
  induction pValues with
  | nil => exact List.nodup_nil
  | cons row rest ih =>
    obtain ⟨hfresh, hrest⟩ := List.nodup_cons.mp hnames
    obtain ⟨name, value⟩ := row
    cases value with
    | none => exact ih hrest
    | some p =>
      refine List.nodup_cons.mpr ⟨fun hmem => hfresh ?_, ih hrest⟩
      obtain ⟨⟨name', p'⟩, hrow, rfl⟩ := List.mem_map.mp hmem
      have hdefined : (name', some p') ∈ rest := mem_definedRows.mp hrow
      exact List.mem_map.mpr ⟨_, hdefined, rfl⟩

end Rows

section Adjusted

variable {pValues : List (κ × Option K)} {name name' : κ} {p a level : K}

/-- The comparisons in the order of the loop -/
def sortedRows (pValues : List (κ × Option K)) : List (κ × K) :=
  (definedRows pValues).insertionSort (·.2 ≤ ·.2)

omit [Field K] [DecidableEq κ] in
theorem perm_sortedRows (pValues : List (κ × Option K)) :
    (sortedRows pValues).Perm (definedRows pValues) := List.perm_insertionSort _ _

omit [Field K] [DecidableEq κ] in
theorem pairwise_sortedRows (pValues : List (κ × Option K)) :
    (sortedRows pValues).Pairwise fun r s => r.2 ≤ s.2 :=
  List.pairwise_insertionSort_of_key Prod.snd (fun _ _ _ _ => Iff.rfl)

omit [Field K] [DecidableEq κ] in
theorem nodup_sortedRows (hnames : (pValues.map Prod.fst).Nodup) :
    ((sortedRows pValues).map Prod.fst).Nodup :=
  (((perm_sortedRows pValues).map _).nodup_iff).mpr (nodup_definedRows hnames)

theorem holmAdjust_eq (pValues : List (κ × Option K)) : holmAdjust pValues =
    (adjustedItems 0 (sortedRows pValues)).foldl Dict.setItem
      (pValues.map fun row => (row.1, none)) := by
  have hloop := foldl_adjustStep (sortedRows pValues) 0 (0 : K)
    (pValues.map fun row => (row.1, none))
  rwa [Nat.zero_add] at hloop

theorem lookup_holmAdjust (hnames : (pValues.map Prod.fst).Nodup) (name : κ) :
    (holmAdjust pValues).lookup name = ((adjustedItems 0 (sortedRows pValues)).lookup name).or
      ((pValues.map fun row => (row.1, (none : Option K))).lookup name) := by
  rw [holmAdjust_eq, Dict.lookup_foldl_setItem]
  rw [names_adjustedItems]
  exact nodup_sortedRows hnames

/-- A comparison with a p-value is adjusted. -/
theorem exists_adjusted (hnames : (pValues.map Prod.fst).Nodup) (h : (name, some p) ∈ pValues) :
    ∃ a, (holmAdjust pValues).lookup name = some (some a) ∧
      (p, a) ∈ ((sortedRows pValues).map Prod.snd).zip
        (adjusted 0 ((sortedRows pValues).map Prod.snd)) := by
  have hrow : (name, p) ∈ sortedRows pValues :=
    (perm_sortedRows pValues).mem_iff.mpr (mem_definedRows.mpr h)
  obtain ⟨i, hi, hget⟩ := List.getElem_of_mem hrow
  have hlength : i < (adjusted 0 ((sortedRows pValues).map Prod.snd)).length := by simpa using hi
  refine ⟨(adjusted 0 ((sortedRows pValues).map Prod.snd))[i], ?_, ?_⟩
  · have hitem : (name, some (adjusted 0 ((sortedRows pValues).map Prod.snd))[i]) ∈
        adjustedItems 0 (sortedRows pValues) := by
      refine List.mem_map.mpr ⟨((name, p), _), ?_, rfl⟩
      rw [← hget]
      exact List.mem_iff_getElem.mpr ⟨i, by simpa using hi, by simp⟩
    have hdistinct : ((adjustedItems 0 (sortedRows pValues)).map Prod.fst).Nodup := by
      rw [names_adjustedItems]
      exact nodup_sortedRows hnames
    rw [lookup_holmAdjust hnames, (Dict.lookup_eq_some_iff hdistinct).mpr hitem, Option.some_or]
  · refine List.mem_iff_getElem.mpr ⟨i, by simpa using hi, ?_⟩
    simp [hget]

/-- A comparison without a p-value is not. -/
theorem lookup_undefined (hnames : (pValues.map Prod.fst).Nodup) (h : (name, none) ∈ pValues) :
    (holmAdjust pValues).lookup name = some none := by
  have hnone : (adjustedItems 0 (sortedRows pValues)).lookup name = none := by
    rw [← Option.not_isSome_iff_eq_none, Dict.lookup_isSome_iff, names_adjustedItems]
    intro hmem
    obtain ⟨⟨name', p⟩, hrow, rfl⟩ := List.mem_map.mp hmem
    have hdefined := mem_definedRows.mp ((perm_sortedRows pValues).mem_iff.mp hrow)
    cases List.inj_on_of_nodup_map hnames hdefined h rfl
  have hkeys : ((pValues.map fun row => (row.1, (none : Option K))).map Prod.fst).Nodup := by
    rw [List.map_map]
    exact hnames
  rw [lookup_holmAdjust hnames, hnone, Option.none_or, Dict.lookup_eq_some_iff hkeys]
  exact List.mem_map_of_mem (f := fun row : κ × Option K => (row.1, (none : Option K))) h

theorem names_holmAdjust (pValues : List (κ × Option K)) :
    (holmAdjust pValues).map Prod.fst = pValues.map Prod.fst := by
  have hkeys : (pValues.map fun row => (row.1, (none : Option K))).map Prod.fst =
      pValues.map Prod.fst := by
    rw [List.map_map]
    rfl
  rw [holmAdjust_eq, Dict.keys_foldl_setItem, hkeys]
  intro name hname
  rw [names_adjustedItems] at hname
  obtain ⟨⟨name, p⟩, hrow, rfl⟩ := List.mem_map.mp hname
  rw [hkeys]
  exact List.mem_map_of_mem (mem_definedRows.mp ((perm_sortedRows pValues).mem_iff.mp hrow))

theorem exists_of_lookup_holmAdjust (hnames : (pValues.map Prod.fst).Nodup)
    (h : (holmAdjust pValues).lookup name = some (some a)) : ∃ p, (name, some p) ∈ pValues := by
  have hname : name ∈ pValues.map Prod.fst := by
    rw [← names_holmAdjust, ← Dict.lookup_isSome_iff, h]
    rfl
  obtain ⟨⟨name, value⟩, hrow, rfl⟩ := List.mem_map.mp hname
  cases value with
  | none => cases h.symm.trans (lookup_undefined hnames hrow)
  | some p => exact ⟨p, hrow⟩

/-! ## The step-down procedure -/

variable [IsStrictOrderedRing K]

omit [DecidableEq κ] in
/-- An adjusted value is within a level when every p-value up to the comparison's passes. -/
theorem adjusted_le_iff_passes (hrange : ∀ name p, (name, some p) ∈ pValues → 0 ≤ p ∧ p ≤ 1)
    (hlevel : 0 ≤ level) (hone : level < 1)
    (h : (p, a) ∈ ((sortedRows pValues).map Prod.snd).zip
      (adjusted 0 ((sortedRows pValues).map Prod.snd))) :
    a ≤ level ↔ Passes level ((definedRows pValues).map Prod.snd) p := by
  have hnonneg : ∀ p ∈ (sortedRows pValues).map Prod.snd, 0 ≤ p := by
    refine List.forall_mem_map.mpr fun ⟨name, p⟩ hrow => ?_
    exact (hrange name p (mem_definedRows.mp ((perm_sortedRows pValues).mem_iff.mp hrow))).1
  have hperm := (perm_sortedRows pValues).map Prod.snd
  rw [adjusted_le_iff hone (List.pairwise_map.mpr (pairwise_sortedRows pValues)) hnonneg h,
    and_iff_right hlevel]
  exact ⟨fun hpasses => hpasses.of_perm hperm, fun hpasses => hpasses.of_perm hperm.symm⟩

omit [DecidableEq κ] in
theorem adjusted_bounds_of_range
    (hrange : ∀ name p, (name, some p) ∈ pValues → 0 ≤ p ∧ p ≤ 1)
    (h : (p, a) ∈ ((sortedRows pValues).map Prod.snd).zip
      (adjusted 0 ((sortedRows pValues).map Prod.snd))) : 0 ≤ a ∧ p ≤ a ∧ a ≤ 1 := by
  refine adjusted_bounds zero_le_one (List.forall_mem_map.mpr fun ⟨name, p⟩ hrow => ?_) h
  exact hrange name p (mem_definedRows.mp ((perm_sortedRows pValues).mem_iff.mp hrow))

/-- Comparisons with one p-value, of two mappings with the same p-values, are adjusted alike. -/
theorem lookup_eq_of_perm {pValues' : List (κ × Option K)} (hperm : pValues'.Perm pValues)
    (hnames : (pValues.map Prod.fst).Nodup)
    (hrange : ∀ name p, (name, some p) ∈ pValues → 0 ≤ p ∧ p ≤ 1)
    (h : (name, some p) ∈ pValues) (h' : (name', some p) ∈ pValues') :
    (holmAdjust pValues').lookup name' = (holmAdjust pValues).lookup name := by
  have hnames' : (pValues'.map Prod.fst).Nodup := ((hperm.map _).nodup_iff).mpr hnames
  have hrange' : ∀ name p, (name, some p) ∈ pValues' → 0 ≤ p ∧ p ≤ 1 :=
    fun name p hrow => hrange name p (hperm.mem_iff.mp hrow)
  obtain ⟨a, hlookup, hpair⟩ := exists_adjusted hnames h
  obtain ⟨a', hlookup', hpair'⟩ := exists_adjusted hnames' h'
  obtain ⟨hpos, -, hone⟩ := adjusted_bounds_of_range hrange hpair
  obtain ⟨hpos', -, hone'⟩ := adjusted_bounds_of_range hrange' hpair'
  have hvalues : ((definedRows pValues').map Prod.snd).Perm ((definedRows pValues).map Prod.snd) :=
    (hperm.filterMap _).map _
  have heq : a' = a := by
    refine eq_of_levels ⟨hpos', hone'⟩ ⟨hpos, hone⟩ fun level hlevel hlevel' => ?_
    rw [adjusted_le_iff_passes hrange' hlevel hlevel' hpair',
      adjusted_le_iff_passes hrange hlevel hlevel' hpair]
    exact ⟨fun hpasses => hpasses.of_perm hvalues, fun hpasses => hpasses.of_perm hvalues.symm⟩
  rw [hlookup, hlookup', heq]

end Adjusted

/-- Two equal p-values, one greater and one that is not defined -/
def samplePValues : List (String × Option ℚ) :=
  [("recall", some (1 / 10)), ("auroc", some (1 / 100)), ("mcc", none), ("f1", some (1 / 100))]

example : holmAdjust samplePValues =
    [("recall", some (1 / 10)), ("auroc", some (3 / 100)), ("mcc", none),
      ("f1", some (3 / 100))] := by
  decide +kernel

end TruthFingerprint.OfflineTraining
