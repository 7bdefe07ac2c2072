import Mathlib
import TruthFingerprint.Lib.Dict
import TruthFingerprint.Lib.Grouping
import TruthFingerprint.Lib.Loops
import TruthFingerprint.Lib.NearestInt

/-!
# Stratified split

The indices of each class are shuffled and cut, and the two sides are shuffled again. No sample is
lost or put on both sides, and both sides have every class (`stratifiedTrainTestSplit_spec`),
whatever permutations the generator of shuffles comes to.
-/

namespace TruthFingerprint.OfflineTraining

open NearestInt

/-- `random.Random` by its state, the product of a count and a ratio, and how a ratio is printed -/
structure SplitEnvironment (K σ : Type) where
  seeded : ℤ → σ
  shuffle : σ → List ℕ → List ℕ × σ
  shuffle_perm : ∀ rng indices, (shuffle rng indices).1.Perm indices
  product : ℕ → K → K
  reprRatio : K → String

structure SplitRecord (K : Type) where
  seed : ℤ
  trainRatio : K
  totalSamples : ℕ
  trainSamples : ℕ
  testSamples : ℕ
  perClassCountsTrain : List (ℤ × ℕ)
  perClassCountsTest : List (ℤ × ℕ)

structure StratifiedSplit (K α : Type) where
  xTrain : List α
  yTrain : List ℤ
  xTest : List α
  yTest : List ℤ
  record : SplitRecord K

inductive SplitError where
  | value (message : String)
  | index
deriving DecidableEq

/-- The two sides while the classes are cut -/
structure SplitState (σ : Type) where
  rng : σ
  trainIndices : List ℕ
  testIndices : List ℕ

variable {K σ α : Type}

def indicesPerClass (labels : List ℤ) : List (ℤ × List ℕ) :=
  (labels.zipIdx.foldl (List.addToGroup Prod.fst) []).map fun group =>
    (group.1, group.2.map Prod.snd)

/-- `tuple(values[i] for i in indices)` -/
def itemsAt {β : Type} (values : List β) (indices : List ℕ) : Except SplitError (List β) :=
  indices.mapM fun i =>
    match values[i]? with
    | some value => .ok value
    | none => .error .index

section Split

variable [Field K] [LinearOrder K] [FloorRing K] (env : SplitEnvironment K σ)

/-- How many of a class are for training: at least one, and not all -/
def clampedTrain (trainRatio : K) (count : ℕ) : ℤ :=
  min (max (halfEven (env.product count trainRatio)) 1) (count - 1)

def splitClass (trainRatio : K) (state : SplitState σ) (indices : List ℕ) : SplitState σ :=
  let shuffled := env.shuffle state.rng indices
  let cut := (clampedTrain env trainRatio shuffled.1.length).toNat
  { rng := shuffled.2
    trainIndices := state.trainIndices ++ shuffled.1.take cut
    testIndices := state.testIndices ++ shuffled.1.drop cut }

/-- The indices of the two sides -/
def splitIndices (trainRatio : K) (seed : ℤ) (labels : List ℤ) : List ℕ × List ℕ :=
  let sorted := (indicesPerClass labels).insertionSort fun g h => g.1 ≤ h.1
  let state := (sorted.map Prod.snd).foldl (splitClass env trainRatio) ⟨env.seeded seed, [], []⟩
  let train := env.shuffle state.rng state.trainIndices
  let test := env.shuffle train.2 state.testIndices
  (train.1, test.1)

def checkSplit (sequences : List α) (labels : List ℤ) (trainRatio : K) : Except SplitError Unit :=
  if ¬(0 < trainRatio ∧ trainRatio < 1) then
    .error (.value
      s!"train_ratio must be strictly between 0 and 1; got {env.reprRatio trainRatio}.")
  else if sequences.length ≠ labels.length then
    .error (.value s!"sequences and labels must align: got {sequences.length} vs {labels.length}.")
  else if sequences = [] then .error (.value "Cannot split an empty dataset.")
  else
    match (indicesPerClass labels).find? fun group => group.2.length < 2 with
    | some (classId, indices) =>
      .error (.value (s!"Class {classId} has only {indices.length} sample(s); " ++
        "stratification requires at least 2."))
    | none => .ok ()

def stratifiedTrainTestSplit (sequences : List α) (labels : List ℤ) (trainRatio : K) (seed : ℤ) :
    Except SplitError (StratifiedSplit K α) := do
  checkSplit env sequences labels trainRatio
  let (trainIndices, testIndices) := splitIndices env trainRatio seed labels
  let xTrain ← itemsAt sequences trainIndices
  let yTrain ← itemsAt labels trainIndices
  let xTest ← itemsAt sequences testIndices
  let yTest ← itemsAt labels testIndices
  .ok
    { xTrain, yTrain, xTest, yTest
      record :=
        { seed, trainRatio
          totalSamples := sequences.length
          trainSamples := yTrain.length
          testSamples := yTest.length
          perClassCountsTrain := Dict.counter yTrain
          perClassCountsTest := Dict.counter yTest } }

end Split

/-! ## The indices of the classes -/

section Classes

variable {labels : List ℤ} {group : ℤ × List ℕ} {k : ℤ} {i : ℕ}

theorem indicesPerClass_eq (labels : List ℤ) : indicesPerClass labels =
    (List.firstOccurrences labels).map fun k =>
      (k, (List.groupOf Prod.fst labels.zipIdx k).map Prod.snd) := by
  rw [indicesPerClass, List.foldl_addToGroup, List.groups, List.zipIdx_map_fst, List.map_map]
  rfl

/-- Every index is in one class. -/
theorem perm_indicesPerClass (labels : List ℤ) :
    ((indicesPerClass labels).map Prod.snd).flatten.Perm (List.range labels.length) := by
  have hperm := (List.perm_flatMap_groups Prod.fst labels.zipIdx).map Prod.snd
  rw [List.zipIdx_map_snd, List.range'_eq_map_range] at hperm
  rw [indicesPerClass, List.foldl_addToGroup, List.map_map]
  simpa [List.map_flatMap, List.flatMap_def, Function.comp_def] using hperm

theorem exists_mem_indicesPerClass (hk : k ∈ labels) :
    ∃ indices, (k, indices) ∈ indicesPerClass labels := by
  rw [indicesPerClass_eq]
  exact ⟨_, List.mem_map.mpr ⟨k, List.mem_firstOccurrences.mpr hk, rfl⟩⟩

theorem mem_labels_of_mem_indicesPerClass (h : group ∈ indicesPerClass labels) :
    group.1 ∈ labels := by
  rw [indicesPerClass_eq] at h
  obtain ⟨k, hk, rfl⟩ := List.mem_map.mp h
  exact List.mem_firstOccurrences.mp hk

theorem length_of_mem_indicesPerClass (h : group ∈ indicesPerClass labels) :
    group.2.length = labels.count group.1 := by
  rw [indicesPerClass_eq] at h
  obtain ⟨k, -, rfl⟩ := List.mem_map.mp h
  have hcount : labels.count k = (labels.zipIdx.map Prod.fst).count k := by
    rw [List.zipIdx_map_fst]
  rw [hcount, List.count, List.countP_map, List.countP_eq_length_filter, List.length_map,
    List.groupOf]
  rfl

theorem getElem?_of_mem_indicesPerClass (h : group ∈ indicesPerClass labels) (hi : i ∈ group.2) :
    labels[i]? = some group.1 := by
  rw [indicesPerClass_eq] at h
  obtain ⟨k, -, rfl⟩ := List.mem_map.mp h
  obtain ⟨⟨label, i⟩, hmem, rfl⟩ := List.mem_map.mp hi
  obtain ⟨hzip, rfl⟩ := (List.mem_groupOf Prod.fst).mp hmem
  exact List.mem_zipIdx_iff_getElem?.mp hzip

end Classes

/-! ## The cuts -/

section Cuts

variable [Field K] [LinearOrder K] [FloorRing K] (env : SplitEnvironment K σ) (trainRatio : K)
  (state : SplitState σ) (indices : List ℕ) (classes : List (List ℕ))

theorem clampedTrain_bounds {count : ℕ} (hcount : 2 ≤ count) :
    1 ≤ (clampedTrain env trainRatio count).toNat ∧
      (clampedTrain env trainRatio count).toNat < count := by
  rw [clampedTrain]
  omega

theorem splitClass_perm : ((splitClass env trainRatio state indices).trainIndices ++
    (splitClass env trainRatio state indices).testIndices).Perm
      (state.trainIndices ++ state.testIndices ++ indices) := by
  let shuffled := (env.shuffle state.rng indices).1
  let cut := (clampedTrain env trainRatio shuffled.length).toNat
  have hmoved : (state.trainIndices ++ shuffled.take cut ++
      (state.testIndices ++ shuffled.drop cut)).Perm
        (state.trainIndices ++ state.testIndices ++ (shuffled.take cut ++ shuffled.drop cut)) := by
    simp only [List.append_assoc]
    exact (List.perm_append_comm_assoc _ _ _).append_left _
  rw [List.take_append_drop] at hmoved
  exact hmoved.trans ((env.shuffle_perm state.rng indices).append_left _)

/-- A class of two is on both sides. -/
theorem splitClass_both (htwo : 2 ≤ indices.length) :
    (∃ i ∈ indices, i ∈ (splitClass env trainRatio state indices).trainIndices) ∧
      ∃ i ∈ indices, i ∈ (splitClass env trainRatio state indices).testIndices := by
  let shuffled := (env.shuffle state.rng indices).1
  let cut := (clampedTrain env trainRatio shuffled.length).toNat
  have hperm : shuffled.Perm indices := env.shuffle_perm state.rng indices
  have hlength : 2 ≤ shuffled.length := hperm.length_eq ▸ htwo
  obtain ⟨hpos, hlt⟩ : 1 ≤ cut ∧ cut < shuffled.length :=
    clampedTrain_bounds env trainRatio hlength
  have htake : 0 < (shuffled.take cut).length := by
    rw [List.length_take]
    exact lt_min hpos (by omega)
  have hdrop : 0 < (shuffled.drop cut).length := by
    rw [List.length_drop]
    exact Nat.sub_pos_of_lt hlt
  constructor
  · obtain ⟨i, hi⟩ := List.exists_mem_of_length_pos htake
    exact ⟨i, hperm.mem_iff.mp (List.mem_of_mem_take hi), List.mem_append_right _ hi⟩
  · obtain ⟨i, hi⟩ := List.exists_mem_of_length_pos hdrop
    exact ⟨i, hperm.mem_iff.mp (List.mem_of_mem_drop hi), List.mem_append_right _ hi⟩

/-- The cuts put every index of the classes on one side. -/
theorem foldl_splitClass_perm :
    ((classes.foldl (splitClass env trainRatio) state).trainIndices ++
      (classes.foldl (splitClass env trainRatio) state).testIndices).Perm
        (state.trainIndices ++ state.testIndices ++ classes.flatten) := by
  induction classes generalizing state with
  | nil => simp
  | cons indices classes ih =>
    rw [List.foldl_cons, List.flatten_cons, ← List.append_assoc]
    exact (ih _).trans ((splitClass_perm env trainRatio state indices).append_right _)

theorem foldl_splitClass_subset :
    state.trainIndices ⊆ (classes.foldl (splitClass env trainRatio) state).trainIndices ∧
      state.testIndices ⊆ (classes.foldl (splitClass env trainRatio) state).testIndices := by
  induction classes generalizing state with
  | nil => exact ⟨List.Subset.refl _, List.Subset.refl _⟩
  | cons indices classes ih =>
    obtain ⟨htrain, htest⟩ := ih (splitClass env trainRatio state indices)
    exact ⟨fun i hi => htrain (List.mem_append_left _ hi),
      fun i hi => htest (List.mem_append_left _ hi)⟩

variable {classes indices} in
theorem foldl_splitClass_both (htwo : ∀ indices ∈ classes, 2 ≤ indices.length)
    (hmem : indices ∈ classes) :
    (∃ i ∈ indices, i ∈ (classes.foldl (splitClass env trainRatio) state).trainIndices) ∧
      ∃ i ∈ indices, i ∈ (classes.foldl (splitClass env trainRatio) state).testIndices := by
  induction classes generalizing state with
  | nil => cases hmem
  | cons head classes ih =>
    rw [List.foldl_cons]
    cases hmem with
    | head =>
      obtain ⟨⟨i, hi, htrain⟩, ⟨j, hj, htest⟩⟩ :=
        splitClass_both env trainRatio state indices (htwo indices List.mem_cons_self)
      obtain ⟨hsubTrain, hsubTest⟩ :=
        foldl_splitClass_subset env trainRatio (splitClass env trainRatio state indices) classes
      exact ⟨⟨i, hi, hsubTrain htrain⟩, ⟨j, hj, hsubTest htest⟩⟩
    | tail _ hmem =>
      exact ih _ (fun other hother => htwo other (List.mem_cons_of_mem _ hother)) hmem

/-- Every index is on one side, and both sides have every class. -/
theorem splitIndices_spec (seed : ℤ) {labels : List ℤ}
    (hclasses : ∀ k ∈ labels, 2 ≤ labels.count k) :
    ((splitIndices env trainRatio seed labels).1 ++
      (splitIndices env trainRatio seed labels).2).Perm (List.range labels.length) ∧
    ∀ k ∈ labels, (∃ i ∈ (splitIndices env trainRatio seed labels).1, labels[i]? = some k) ∧
      ∃ i ∈ (splitIndices env trainRatio seed labels).2, labels[i]? = some k := by
  let sorted := (indicesPerClass labels).insertionSort fun g h => g.1 ≤ h.1
  let classes := sorted.map Prod.snd
  let start : SplitState σ := ⟨env.seeded seed, [], []⟩
  let state := classes.foldl (splitClass env trainRatio) start
  have hsorted : sorted.Perm (indicesPerClass labels) := List.perm_insertionSort _ _
  have htrain : (splitIndices env trainRatio seed labels).1.Perm state.trainIndices :=
    env.shuffle_perm _ _
  have htest : (splitIndices env trainRatio seed labels).2.Perm state.testIndices :=
    env.shuffle_perm _ _
  have hclassPerm : classes.flatten.Perm (List.range labels.length) :=
    (hsorted.map Prod.snd).flatten.trans (perm_indicesPerClass labels)
  have htwo : ∀ indices ∈ classes, 2 ≤ indices.length := by
    intro indices hindices
    obtain ⟨group, hgroup, rfl⟩ := List.mem_map.mp hindices
    have hgroup := hsorted.mem_iff.mp hgroup
    rw [length_of_mem_indicesPerClass hgroup]
    exact hclasses _ (mem_labels_of_mem_indicesPerClass hgroup)
  refine ⟨(htrain.append htest).trans
    ((foldl_splitClass_perm env trainRatio start classes).trans hclassPerm), fun k hk => ?_⟩
  obtain ⟨indices, hmem⟩ := exists_mem_indicesPerClass hk
  have hindices : indices ∈ classes := List.mem_map.mpr ⟨_, hsorted.mem_iff.mpr hmem, rfl⟩
  obtain ⟨⟨i, hi, hitrain⟩, ⟨j, hj, hjtest⟩⟩ :=
    foldl_splitClass_both env trainRatio start htwo hindices
  exact ⟨⟨i, htrain.mem_iff.mpr hitrain, getElem?_of_mem_indicesPerClass hmem hi⟩,
    ⟨j, htest.mem_iff.mpr hjtest, getElem?_of_mem_indicesPerClass hmem hj⟩⟩

end Cuts

/-! ## The split -/

section Spec

theorem itemsAt_ok {β : Type} {values : List β} {indices : List ℕ}
    (h : ∀ i ∈ indices, i < values.length) :
    ∃ items, itemsAt values indices = .ok items ∧ items.map some = indices.map (values[·]?) := by
  induction indices with
  | nil => exact ⟨[], rfl, rfl⟩
  | cons i indices ih =>
    obtain ⟨hi, hindices⟩ := List.forall_mem_cons.mp h
    obtain ⟨items, hok, hitems⟩ := ih hindices
    refine ⟨values[i] :: items, ?_, ?_⟩
    · rw [itemsAt] at hok
      rw [itemsAt, List.mapM_cons, List.getElem?_eq_getElem hi, hok]
      rfl
    · rw [List.map_cons, List.map_cons, hitems, List.getElem?_eq_getElem hi]

theorem length_eq_of_map_some {β : Type} {items values : List β} {indices : List ℕ}
    (h : items.map some = indices.map (values[·]?)) : items.length = indices.length := by
  simpa using congrArg List.length h

theorem mem_of_map_some {β : Type} {items values : List β} {indices : List ℕ} {b : β}
    (h : items.map some = indices.map (values[·]?)) (hb : ∃ i ∈ indices, values[i]? = some b) :
    b ∈ items := by
  obtain ⟨i, hi, hb⟩ := hb
  have hmem : some b ∈ items.map some := h ▸ List.mem_map.mpr ⟨i, hi, hb⟩
  simpa using hmem

variable [Field K] [LinearOrder K] [FloorRing K] (env : SplitEnvironment K σ)
  {sequences : List α} {labels : List ℤ} {trainRatio : K}

omit [FloorRing K] in
theorem checkSplit_ok (hratio : 0 < trainRatio ∧ trainRatio < 1)
    (haligned : sequences.length = labels.length) (hne : sequences ≠ [])
    (hclasses : ∀ k ∈ labels, 2 ≤ labels.count k) :
    checkSplit env sequences labels trainRatio = .ok () := by
  have hnone : (indicesPerClass labels).find? (fun group => group.2.length < 2) = none := by
    refine List.find?_eq_none.mpr fun group hgroup => ?_
    have htwo := hclasses _ (mem_labels_of_mem_indicesPerClass hgroup)
    rw [decide_eq_true_eq, length_of_mem_indicesPerClass hgroup]
    exact htwo.not_gt
  rw [checkSplit, if_neg (not_not.mpr hratio), if_neg (not_not.mpr haligned), if_neg hne, hnone]

/-- Every sample is on one side with its label, both sides have every class, and the counts of the
record are those of the sides. -/
theorem stratifiedTrainTestSplit_spec (env : SplitEnvironment K σ) (sequences : List α)
    (labels : List ℤ) (trainRatio : K) (seed : ℤ) (hratio : 0 < trainRatio ∧ trainRatio < 1)
    (haligned : sequences.length = labels.length) (hne : sequences ≠ [])
    (hclasses : ∀ k ∈ labels, 2 ≤ labels.count k) :
    ∃ (split : StratifiedSplit K α) (train test : List ℕ),
      stratifiedTrainTestSplit env sequences labels trainRatio seed = .ok split ∧
      (train ++ test).Perm (List.range sequences.length) ∧
      split.xTrain.map some = train.map (sequences[·]?) ∧
      split.yTrain.map some = train.map (labels[·]?) ∧
      split.xTest.map some = test.map (sequences[·]?) ∧
      split.yTest.map some = test.map (labels[·]?) ∧
      (∀ k ∈ labels, k ∈ split.yTrain ∧ k ∈ split.yTest) ∧
      (∀ k, split.record.perClassCountsTrain.lookup k =
        if k ∈ split.yTrain then some (split.yTrain.count k) else none) ∧
      (∀ k, split.record.perClassCountsTest.lookup k =
        if k ∈ split.yTest then some (split.yTest.count k) else none) ∧
      split.record.totalSamples = sequences.length ∧
      split.record.trainSamples = split.xTrain.length ∧
      split.record.testSamples = split.xTest.length := by
  obtain ⟨hperm, hboth⟩ := splitIndices_spec env trainRatio seed hclasses
  generalize hindices : splitIndices env trainRatio seed labels = sides at hperm hboth
  obtain ⟨train, test⟩ := sides
  have hrange : ∀ i ∈ train ++ test, i < labels.length := fun i hi =>
    List.mem_range.mp (hperm.mem_iff.mp hi)
  have htrain : ∀ i ∈ train, i < labels.length := fun i hi =>
    hrange i (List.mem_append_left _ hi)
  have htest : ∀ i ∈ test, i < labels.length := fun i hi =>
    hrange i (List.mem_append_right _ hi)
  obtain ⟨xTrain, hxTrain, hxTrainMap⟩ := itemsAt_ok fun i hi => haligned ▸ htrain i hi
  obtain ⟨yTrain, hyTrain, hyTrainMap⟩ := itemsAt_ok htrain
  obtain ⟨xTest, hxTest, hxTestMap⟩ := itemsAt_ok fun i hi => haligned ▸ htest i hi
  obtain ⟨yTest, hyTest, hyTestMap⟩ := itemsAt_ok htest
  have hok := checkSplit_ok env hratio haligned hne hclasses
  let record : SplitRecord K := ⟨seed, trainRatio, sequences.length, yTrain.length, yTest.length,
    Dict.counter yTrain, Dict.counter yTest⟩
  refine ⟨⟨xTrain, yTrain, xTest, yTest, record⟩, train, test, ?_, haligned ▸ hperm, hxTrainMap,
    hyTrainMap, hxTestMap, hyTestMap, fun k hk =>
      ⟨mem_of_map_some hyTrainMap (hboth k hk).1, mem_of_map_some hyTestMap (hboth k hk).2⟩,
    Dict.lookup_counter _, Dict.lookup_counter _, rfl, ?_, ?_⟩
  · rw [stratifiedTrainTestSplit, hok, hindices]
    simp only [bind, Except.bind]
    rw [hxTrain, hyTrain, hxTest, hyTest]
  · exact (length_eq_of_map_some hyTrainMap).trans (length_eq_of_map_some hxTrainMap).symm
  · exact (length_eq_of_map_some hyTestMap).trans (length_eq_of_map_some hxTestMap).symm

end Spec

/-- The generator of seed 15 turns both classes of four samples around, and then both sides. -/
def turningEnvironment : SplitEnvironment ℚ Unit where
  seeded _ := ()
  shuffle _ indices := (indices.reverse, ())
  shuffle_perm _ _ := List.reverse_perm _
  product count trainRatio := count * trainRatio
  reprRatio _ := "0.5"

theorem turningEnvironment_split :
    ∃ (split : StratifiedSplit ℚ String) (train test : List ℕ),
      stratifiedTrainTestSplit turningEnvironment ["a", "b", "c", "d"] [0, 1, 0, 1] (1 / 2) 15 =
        .ok split ∧
      (train ++ test).Perm (List.range 4) ∧
      split.xTrain.map some = train.map (["a", "b", "c", "d"][·]?) ∧
      split.yTrain.map some = train.map (([0, 1, 0, 1] : List ℤ)[·]?) ∧
      ∀ k ∈ ([0, 1, 0, 1] : List ℤ), k ∈ split.yTrain ∧ k ∈ split.yTest := by
  obtain ⟨split, train, test, hok, hperm, hxTrain, hyTrain, -, -, hboth, -⟩ :=
    stratifiedTrainTestSplit_spec turningEnvironment ["a", "b", "c", "d"] [0, 1, 0, 1] (1 / 2) 15
      (by norm_num) rfl (by decide) (by decide)
  exact ⟨split, train, test, hok, hperm, hxTrain, hyTrain, hboth⟩

end TruthFingerprint.OfflineTraining
