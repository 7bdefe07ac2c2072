import Mathlib
import TruthFingerprint.Lib.Loops
import TruthFingerprint.Lstm.DatasetArtifactsLemmas

/-!
# The windows of a store

The builder on a store reads its JSON objects in the order of their keys. When the first eligible
artifact has features, the selected artifacts are the eligible ones with its schema, and the windows
are their slices in the order of time (`buildWindowsOfStore_exact`). The windows are named by the
rounds at their ends, which tells them apart if no round ends or contains the separator.
-/

namespace TruthFingerprint.Lstm

variable {F A : Type}

/-! ## The builder on a store -/

/-- A JSON object without a consensus context, of which nothing else is read -/
def withoutConsensus : ValidArtifact F := ⟨[], [], [], none, false, []⟩

/-- What the builder reads of a JSON object -/
def readObject : StoredObject F A → Option (ValidArtifact F)
  | .artifact artifact => some artifact
  | .dataset _ | .metadata _ => some withoutConsensus
  | .archive _ | .weights _ | .other => none

namespace ArtifactStore

def loadObject (store : ArtifactStore F A) (key : Text) : Option (StoredArtifact F) := do
  some (key, ← readObject (← store.load key))

/-- The JSON objects that the builder loads -/
def listedObjects (store : ArtifactStore F A) : Option (List (StoredArtifact F)) :=
  (store.listJsonObjects validArtifactPrefix).mapM store.loadObject

end ArtifactStore

/-- `_build_windows_from_artifacts`, unless it raises -/
def buildWindowsOfStore [FloatArith F] (eligibility : ValidArtifact F → Bool × Text)
    (manifestLabel : Text) (store : ArtifactStore F A) (sequenceLength : ℤ) :
    Option (List (TrainingWindow F) × TrainingDatasetManifest) :=
  if sequenceLength ≤ 0 then none
  else store.listedObjects.map
    (buildWindows eligibility manifestLabel store.bucket sequenceLength.toNat)

/-! ## What a dataset is -/

section Statement

variable (eligibility : ValidArtifact F → Bool × Text) (listed : List (StoredArtifact F))

def firstEligible : Option (StoredArtifact F) := listed.find? fun stored => (eligibility stored.2).1

/-- An eligible artifact with the schema of the first eligible one -/
def IsSelected (stored : StoredArtifact F) : Prop :=
  (eligibility stored.2).1 ∧ ∀ first ∈ firstEligible eligibility listed,
    featureSchema stored.2 = featureSchema first.2

instance : DecidablePred (IsSelected eligibility listed) := fun _ =>
  inferInstanceAs (Decidable (_ ∧ _))

/-- The label of an artifact -/
def scenarioLabel (stored : StoredArtifact F) : Text :=
  (stored.2.datasetContext.map (·.scenarioLabel)).getD (text "unknown")

/-- Artifacts in the order of their ends and then of their keys -/
def Chronological (selected : List (StoredArtifact F)) : Prop :=
  selected.Pairwise fun x y => toLex (x.2.windowEndedAt, x.1) ≤ toLex (y.2.windowEndedAt, y.1)

/-- A window shows the artifacts of a slice. -/
structure IsWindowOf [FloatArith F] (slice : List (StoredArtifact F)) (window : TrainingWindow F) :
    Prop where
  artifactKeys : window.artifactKeys = slice.map (·.1)
  roundIds : window.roundIds = slice.map (·.2.roundId)
  timestamps : window.timestamps = slice.map (·.2.windowEndedAt)
  features : window.featureMatrix = slice.map fun stored => featureVector stored.2
  schema : ∀ stored ∈ slice, featureSchema stored.2 = window.featureSchema
  common : ∀ label, (∀ stored ∈ slice, scenarioLabel stored = label) → window.label = label
  mixed : (∀ label, ∃ stored ∈ slice, scenarioLabel stored ≠ label) → window.label = text "mixed"

/-- A round that does not contain the separator, nor ends with the half of it -/
def Separable (roundId : Text) : Prop := ¬text "::" <:+: roundId ++ text ":"

/-- What is in a dataset: which keys are selected and which are skipped, and which slices of the
selected artifacts are its windows. -/
structure ExactDataset [FloatArith F] (length : ℕ)
    (dataset : List (TrainingWindow F) × TrainingDatasetManifest) : Prop where
  partition : ∀ stored ∈ listed, Xor (stored.1 ∈ dataset.2.selectedArtifactKeys)
    (stored.1 ∈ dataset.2.skippedArtifacts.map Prod.fst)
  skipped : dataset.2.skippedArtifacts.map Prod.fst =
    (listed.filter fun stored => ¬IsSelected eligibility listed stored).map Prod.fst
  windows : ∃ selected,
    selected.Perm (listed.filter fun stored => IsSelected eligibility listed stored) ∧
    Chronological selected ∧ dataset.2.selectedArtifactKeys = selected.map Prod.fst ∧
    dataset.1.length = selected.length + 1 - length ∧
    (∀ i window, dataset.1[i]? = some window →
      ((selected.drop i).take length).length = length ∧
        IsWindowOf ((selected.drop i).take length) window) ∧
    ((selected.map (·.2.roundId)).Nodup → (∀ stored ∈ selected, Separable stored.2.roundId) →
      (dataset.1.map (·.windowId)).Nodup)

end Statement

/-! ## Names of windows -/

theorem Separable.tail {c : CodePoint} {t : Text} (h : Separable (c :: t)) : Separable t :=
  fun hinside => h (hinside.trans (List.suffix_cons c _).isInfix)

/-- A separator does not begin inside of a separable text. -/
theorem separator_ne {t s s' : Text} (ht : Separable t) (hne : t ≠ []) :
    text "::" ++ s ≠ t ++ text "::" ++ s' := by
  intro h
  rw [Separable] at ht
  have hsep : text "::" = [':'.codePoint, ':'.codePoint] := rfl
  rw [hsep] at h ht
  obtain ⟨c, _ | ⟨d, t⟩, rfl⟩ := List.exists_cons_of_ne_nil hne
  · obtain ⟨hc, -⟩ := List.cons.inj h
    exact ht (hc ▸ List.infix_refl _)
  · obtain ⟨hc, h⟩ := List.cons.inj h
    obtain ⟨hd, -⟩ := List.cons.inj h
    exact ht (hc ▸ hd ▸ ⟨[], t ++ text ":", rfl⟩)

/-- What comes before the separator is determined, if it is separable. -/
theorem separable_inj {a a' b b' : Text} (ha : Separable a) (ha' : Separable a')
    (h : a ++ text "::" ++ b = a' ++ text "::" ++ b') : a = a' := by
  induction a generalizing a' with
  | nil =>
    by_contra hne
    exact separator_ne ha' (Ne.symm hne) h
  | cons c a ih =>
    cases a' with
    | nil => exact absurd h.symm (separator_ne ha (List.cons_ne_nil c a))
    | cons c' a' =>
      obtain ⟨rfl, hrest⟩ := List.cons.inj h
      rw [ih ha.tail ha'.tail hrest]

/-! ## What is read -/

section Reading

variable {eligibility : ValidArtifact F → Bool × Text} {schema : List Text}
  {listed : List (StoredArtifact F)}

/-- Once the schema is set, it selects. -/
theorem readArtifacts_of_schema (hne : schema ≠ []) :
    (readArtifacts eligibility schema listed).schema = schema ∧
    (readArtifacts eligibility schema listed).selected = (listed.filter fun stored =>
      (eligibility stored.2).1 ∧ featureSchema stored.2 = schema) ∧
    (readArtifacts eligibility schema listed).skipped.map Prod.fst = (listed.filter fun stored =>
      ¬((eligibility stored.2).1 ∧ featureSchema stored.2 = schema)).map Prod.fst := by
  induction listed with
  | nil => exact ⟨rfl, rfl, rfl⟩
  | cons stored rest ih =>
    obtain ⟨key, artifact⟩ := stored
    obtain ⟨hschema, hselected, hskipped⟩ := ih
    rw [readArtifacts]
    by_cases heligible : (eligibility artifact).1
    · by_cases hequal : featureSchema artifact = schema
      · subst hequal
        simp [heligible, hschema, hselected, hskipped]
      · simp [heligible, hequal, hne, hschema, hselected, hskipped]
    · simp [heligible, hschema, hselected, hskipped]

theorem firstEligible_cons_of_not {stored : StoredArtifact F} (h : ¬(eligibility stored.2).1) :
    firstEligible eligibility (stored :: listed) = firstEligible eligibility listed :=
  List.find?_cons_of_neg h

theorem firstEligible_cons {stored : StoredArtifact F} (h : (eligibility stored.2).1) :
    firstEligible eligibility (stored :: listed) = some stored :=
  List.find?_cons_of_pos h

theorem isSelected_cons_of_not {stored : StoredArtifact F} (h : ¬(eligibility stored.2).1) :
    IsSelected eligibility (stored :: listed) = IsSelected eligibility listed := by
  funext other
  rw [IsSelected, IsSelected, firstEligible_cons_of_not h]

theorem isSelected_cons {stored other : StoredArtifact F} (h : (eligibility stored.2).1) :
    IsSelected eligibility (stored :: listed) other ↔
      (eligibility other.2).1 ∧ featureSchema other.2 = featureSchema stored.2 := by
  rw [IsSelected, firstEligible_cons h]
  simp

/-- What is read, when the first eligible artifact has features -/
theorem readArtifacts_exact (hfirst : ∀ first ∈ firstEligible eligibility listed,
    featureSchema first.2 ≠ []) :
    let reading := readArtifacts eligibility [] listed
    reading.selected = (listed.filter fun stored => IsSelected eligibility listed stored) ∧
    reading.skipped.map Prod.fst =
      (listed.filter fun stored => ¬IsSelected eligibility listed stored).map Prod.fst ∧
    ∀ stored ∈ reading.selected, featureSchema stored.2 = reading.schema := by
  induction listed with
  | nil => exact ⟨rfl, rfl, fun _ h => absurd h List.not_mem_nil⟩
  | cons stored rest ih =>
    obtain ⟨key, artifact⟩ := stored
    dsimp only
    rw [readArtifacts]
    by_cases heligible : (eligibility artifact).1
    · have hne : featureSchema artifact ≠ [] :=
        hfirst (key, artifact) (firstEligible_cons heligible)
      obtain ⟨hschema, hselected, hskipped⟩ :=
        @readArtifacts_of_schema _ eligibility _ rest hne
      have hselects : ∀ stored, IsSelected eligibility ((key, artifact) :: rest) stored ↔
          (eligibility stored.2).1 ∧ featureSchema stored.2 = featureSchema artifact :=
        fun _ => isSelected_cons heligible
      simp only [heligible, Bool.not_true, Bool.false_eq_true, if_false, true_or, if_true,
        hselects, hselected, hskipped, hschema]
      refine ⟨?_, ?_, ?_⟩
      · rw [List.filter_cons_of_pos (by simp [heligible])]
      · rw [List.filter_cons_of_neg (by simp [heligible])]
      · intro stored hstored
        rcases List.mem_cons.mp hstored with rfl | hstored
        · rfl
        · exact (of_decide_eq_true (List.mem_filter.mp hstored).2).2
    · rw [firstEligible_cons_of_not heligible] at hfirst
      have hrest := ih hfirst
      have hselects : IsSelected eligibility ((key, artifact) :: rest) =
          IsSelected eligibility rest := isSelected_cons_of_not heligible
      have hunselected : ¬IsSelected eligibility rest (key, artifact) := fun h => heligible h.1
      simp only [heligible, Bool.not_false, if_true, hselects, List.map_cons]
      rw [List.filter_cons_of_neg (by simpa using hunselected),
        List.filter_cons_of_pos (by simpa using hunselected), List.map_cons, hrest.2.1]
      exact ⟨hrest.1, rfl, hrest.2.2⟩

end Reading

/-! ## Windows -/

section Windows

variable [FloatArith F] {selected : List (StoredArtifact F)} {schema : List Text} {length : ℕ}

/-- The selected artifacts in the order of time -/
def chronological (selected : List (StoredArtifact F)) : List (StoredArtifact F) :=
  selected.insertionSort fun x y =>
    toLex (x.2.windowEndedAt, x.1) ≤ toLex (y.2.windowEndedAt, y.1)

omit [FloatArith F] in
theorem chronological_sorted (selected : List (StoredArtifact F)) :
    Chronological (chronological selected) :=
  List.pairwise_insertionSort_of_key (fun stored : StoredArtifact F =>
    toLex (stored.2.windowEndedAt, stored.1)) fun _ _ _ _ => Iff.rfl

theorem eligibleRecords_eq :
    eligibleRecords selected = (chronological selected).map eligibleRecord :=
  (List.map_insertionSort _ _ eligibleRecord selected fun _ _ _ _ => Iff.rfl).symm

theorem isWindowOf_windowOf {slice : List (StoredArtifact F)}
    (hne : slice ≠ []) (hschema : ∀ stored ∈ slice, featureSchema stored.2 = schema) :
    IsWindowOf slice (windowOf schema (slice.map eligibleRecord)) := by
  obtain ⟨first, rest, rfl⟩ := List.exists_cons_of_ne_nil hne
  have hall : ((first :: rest).map eligibleRecord).all (·.label = scenarioLabel first) ↔
      ∀ stored ∈ first :: rest, scenarioLabel stored = scenarioLabel first := by
    rw [List.all_map, List.all_eq_true]
    exact forall₂_congr fun stored _ => decide_eq_true_iff
  have hlabel : (windowOf schema ((first :: rest).map eligibleRecord)).label =
      if ((first :: rest).map eligibleRecord).all (·.label = scenarioLabel first) then
        scenarioLabel first else text "mixed" := rfl
  refine ⟨List.map_map, List.map_map, List.map_map, List.map_map, hschema, ?_, ?_⟩
  · intro label hcommon
    have hfirst := hcommon first List.mem_cons_self
    rw [hlabel, if_pos (hall.mpr fun stored hstored => (hcommon stored hstored).trans hfirst.symm),
      hfirst]
  · intro hmixed
    obtain ⟨stored, hstored, hne⟩ := hmixed (scenarioLabel first)
    rw [hlabel, if_neg fun h => hne (hall.mp h stored hstored)]

theorem windowsOf_map {slices : List (StoredArtifact F)} :
    windowsOf (slices.map eligibleRecord) schema length =
      (List.range (slices.length + 1 - length)).map fun start =>
        windowOf schema (((slices.drop start).take length).map eligibleRecord) := by
  rw [windowsOf, List.length_map]
  split_ifs with hshort
  · rw [Nat.sub_eq_zero_of_le hshort]
    rfl
  · rw [Nat.sub_add_comm (not_lt.mp hshort)]
    simp only [List.map_drop, List.map_take]

/-- The rounds at the ends of a window -/
theorem windowId_windowOf {slice : List (StoredArtifact F)} :
    (windowOf schema (slice.map eligibleRecord)).windowId = text "window::" ++
      ((slice.head?.map (·.2.roundId)).getD [] ++ text "::" ++
        (slice.getLast?.map (·.2.roundId)).getD []) := by
  simp only [windowOf, endText, List.head?_map, List.getLast?_map, Option.map_map,
    List.append_assoc]
  rfl

/-- Windows begin with different rounds, and so they have different names. -/
theorem nodup_windowIds {slices : List (StoredArtifact F)} (hpos : 0 < length)
    (hrounds : (slices.map (·.2.roundId)).Nodup)
    (hseparable : ∀ stored ∈ slices, Separable stored.2.roundId) :
    ((windowsOf (slices.map eligibleRecord) schema length).map (·.windowId)).Nodup := by
  rw [windowsOf_map, List.map_map]
  have hhead : ∀ start (hstart : start < slices.length),
      ((((slices.drop start).take length).head?.map (·.2.roundId)).getD []) =
        (slices.get ⟨start, hstart⟩).2.roundId := by
    intro start hstart
    rw [List.head?_take, if_neg hpos.ne', List.head?_drop, List.getElem?_eq_getElem hstart]
    rfl
  refine List.nodup_range.map_on fun i hi j hj heq => ?_
  have hi : i < slices.length := by
    have := List.mem_range.mp hi
    omega
  have hj : j < slices.length := by
    have := List.mem_range.mp hj
    omega
  simp only [Function.comp_apply, windowId_windowOf, hhead i hi, hhead j hj] at heq
  have hround := separable_inj (hseparable _ (List.get_mem _ _)) (hseparable _ (List.get_mem _ _))
    (List.append_cancel_left heq)
  have hindex := (hrounds.get_inj_iff (i := ⟨i, by rwa [List.length_map]⟩)
    (j := ⟨j, by rwa [List.length_map]⟩)).mp (by simpa using hround)
  exact Fin.mk.inj hindex

end Windows

/-! ## Datasets -/

/-- With distinct keys, a key is among those of a part exactly when its artifact is. -/
theorem key_mem_filter_iff {listed : List (StoredArtifact F)} (hkeys : (listed.map Prod.fst).Nodup)
    {p : StoredArtifact F → Bool} {stored : StoredArtifact F} (hmem : stored ∈ listed) :
    stored.1 ∈ (listed.filter p).map Prod.fst ↔ p stored := by
  rw [List.mem_map]
  constructor
  · rintro ⟨other, hother, hkey⟩
    obtain ⟨hlisted, hp⟩ := List.mem_filter.mp hother
    rwa [← List.inj_on_of_nodup_map hkeys hlisted hmem hkey]
  · exact fun hp => ⟨stored, List.mem_filter.mpr ⟨hmem, hp⟩, rfl⟩

/-- A dataset that is built from a listing whose first eligible artifact has features -/
theorem buildWindows_exact [FloatArith F] {eligibility : ValidArtifact F → Bool × Text}
    {manifestLabel bucket : Text} {listed : List (StoredArtifact F)} {length : ℕ}
    (hpos : 0 < length) (hkeys : (listed.map Prod.fst).Nodup)
    (hfirst : ∀ first ∈ firstEligible eligibility listed, featureSchema first.2 ≠ []) :
    ExactDataset eligibility listed length
      (buildWindows eligibility manifestLabel bucket length listed) := by
  obtain ⟨hselected, hskipped, hschema⟩ := readArtifacts_exact hfirst
  let selected := chronological (readArtifacts eligibility [] listed).selected
  have hperm : selected.Perm (readArtifacts eligibility [] listed).selected :=
    List.perm_insertionSort _ _
  have hkeysSelected : (buildWindows eligibility manifestLabel bucket length
      listed).2.selectedArtifactKeys = selected.map Prod.fst := by
    rw [buildWindows, eligibleRecords_eq, List.map_map]
    rfl
  have hwindows : (buildWindows eligibility manifestLabel bucket length listed).1 =
      windowsOf (selected.map eligibleRecord) (readArtifacts eligibility [] listed).schema
        length := by
    rw [buildWindows, eligibleRecords_eq]
  refine ⟨?_, hskipped, selected, hselected ▸ hperm, chronological_sorted _, hkeysSelected, ?_, ?_,
    ?_⟩
  · intro stored hmem
    rw [hkeysSelected, (hperm.map Prod.fst).mem_iff, hselected, key_mem_filter_iff hkeys hmem]
    change Xor _ (stored.1 ∈ (readArtifacts eligibility [] listed).skipped.map Prod.fst)
    rw [hskipped, key_mem_filter_iff hkeys hmem]
    simp only [decide_eq_true_eq]
    exact xor_not_right.mpr Iff.rfl
  · rw [hwindows, windowsOf_map, List.length_map, List.length_range]
  · rw [hwindows, windowsOf_map]
    intro i window hwindow
    rw [List.getElem?_map, Option.map_eq_some_iff] at hwindow
    obtain ⟨start, hstart, rfl⟩ := hwindow
    obtain ⟨hlt, hget⟩ := List.getElem?_eq_some_iff.mp hstart
    rw [List.length_range] at hlt
    rw [List.getElem_range] at hget
    subst hget
    have hlength : ((selected.drop i).take length).length = length := by
      rw [List.length_take, List.length_drop]
      omega
    refine ⟨hlength, isWindowOf_windowOf (List.ne_nil_of_length_pos (by rwa [hlength])) ?_⟩
    exact fun stored hstored => hschema stored
      (hperm.subset (List.mem_of_mem_drop (List.mem_of_mem_take hstored)))
  · rw [hwindows]
    exact nodup_windowIds hpos

namespace ArtifactStore

variable {store : ArtifactStore F A} {listed : List (StoredArtifact F)}

theorem key_loadObject {key : Text} {stored : StoredArtifact F}
    (h : store.loadObject key = some stored) : stored.1 = key := by
  obtain ⟨object, -, hobject⟩ := Option.bind_eq_some_iff.mp h
  obtain ⟨artifact, -, hartifact⟩ := Option.bind_eq_some_iff.mp hobject
  cases hartifact
  rfl

theorem keys_of_loads {keys : List Text}
    (h : List.Forall₂ (fun key stored => store.loadObject key = some stored) keys listed) :
    listed.map Prod.fst = keys := by
  induction h with
  | nil => rfl
  | cons hload _ ih => rw [List.map_cons, ih, key_loadObject hload]

theorem keys_listedObjects (h : store.listedObjects = some listed) :
    listed.map Prod.fst = store.listJsonObjects validArtifactPrefix :=
  keys_of_loads (List.mapM_eq_some_iff.mp h)

end ArtifactStore

/-- What the builder returns for a store: every key of the listing is selected or skipped, and the
windows are the slices of the selected artifacts, if the first eligible artifact has features. -/
theorem buildWindowsOfStore_exact [FloatArith F] (eligibility : ValidArtifact F → Bool × Text)
    (manifestLabel : Text) (store : ArtifactStore F A) (sequenceLength : ℤ)
    (dataset : List (TrainingWindow F) × TrainingDatasetManifest)
    (h : buildWindowsOfStore eligibility manifestLabel store sequenceLength = some dataset) :
    ∃ listed, store.listedObjects = some listed ∧
      listed.map Prod.fst = store.listJsonObjects validArtifactPrefix ∧
      ((∀ first ∈ firstEligible eligibility listed, featureSchema first.2 ≠ []) →
        ExactDataset eligibility listed sequenceLength.toNat dataset) := by
  rw [buildWindowsOfStore] at h
  split_ifs at h with hpos
  obtain ⟨listed, hlisted, rfl⟩ := Option.map_eq_some_iff.mp h
  have hkeys := ArtifactStore.keys_listedObjects hlisted
  refine ⟨listed, hlisted, hkeys, buildWindows_exact (by omega) ?_⟩
  rw [hkeys]
  exact Bucket.nodup_listing _ _

/-! ## Examples -/

/-- A normal artifact of a round with its payloads -/
def normalRound (roundId ended : String) (payloads : List (Text × LoopPayload ℚ)) :
    StoredArtifact ℚ :=
  (validArtifactPrefix ++ text roundId ++ text ".json",
    { finalConsensusStatus := text "success"
      roundId := text roundId
      windowEndedAt := text ended
      datasetContext := some ⟨text "normal", text "normal", true, text "normal_eligible"⟩
      hasScadaDivergence := false
      payloadsBySensor := payloads })

def pressurePayload : List (Text × LoopPayload ℚ) := [(text "pressure", ⟨12, false, false, false⟩)]

def storeOf (artifacts : List (StoredArtifact ℚ)) : ArtifactStore ℚ Unit :=
  artifacts.foldl (fun store stored => store.save stored.1 (.artifact stored.2)) ⟨text "bucket", ∅⟩

def twoRounds (payloads : List (Text × LoopPayload ℚ)) : List (StoredArtifact ℚ) :=
  [normalRound "round-1" "2026-01-01T12:00:00+00:00" payloads,
    normalRound "round-2" "2026-01-01T13:00:00+00:00" pressurePayload]

/-- Rounds with separators in them -/
def separatedRounds : List (StoredArtifact ℚ) :=
  [normalRound "a" "2026-01-01T12:00:00+00:00" pressurePayload,
    normalRound "b::c" "2026-01-01T13:00:00+00:00" pressurePayload,
    normalRound "a::b" "2026-01-01T14:00:00+00:00" pressurePayload,
    normalRound "c" "2026-01-01T15:00:00+00:00" pressurePayload]

/-- The windows of two rounds -/
theorem twoRounds_exact : ∃ dataset,
    buildWindowsOfStore evaluateTrainingEligibility (text "normal")
      (storeOf (twoRounds pressurePayload)) 2 = some dataset ∧
    ExactDataset evaluateTrainingEligibility (twoRounds pressurePayload) 2 dataset := by
  have hsome : (buildWindowsOfStore evaluateTrainingEligibility (text "normal")
      (storeOf (twoRounds pressurePayload)) 2).isSome := by decide +kernel
  obtain ⟨dataset, hdataset⟩ := Option.isSome_iff_exists.mp hsome
  obtain ⟨listed, hlisted, -, hexact⟩ := buildWindowsOfStore_exact _ _ _ _ _ hdataset
  have hstore : (storeOf (twoRounds pressurePayload)).listedObjects =
      some (twoRounds pressurePayload) := by decide +kernel
  obtain rfl := Option.some.inj (hlisted.symm.trans hstore)
  exact ⟨dataset, hdataset, hexact (by decide +kernel)⟩

/-- An eligible artifact without features does not fix the schema: an artifact with another schema
is not skipped. Rounds with separators in them can give two windows one name. -/
theorem buildWindowsOfStore_not_exact :
    (∃ dataset, buildWindowsOfStore evaluateTrainingEligibility (text "normal")
        (storeOf (twoRounds [])) 1 = some dataset ∧
      (storeOf (twoRounds [])).listedObjects = some (twoRounds []) ∧
      ∃ stored ∈ twoRounds [], ¬IsSelected evaluateTrainingEligibility (twoRounds []) stored ∧
        stored.1 ∉ dataset.2.skippedArtifacts.map Prod.fst) ∧
    ∃ dataset, buildWindowsOfStore evaluateTrainingEligibility (text "normal")
        (storeOf separatedRounds) 2 = some dataset ∧
      (separatedRounds.map (·.2.roundId)).Nodup ∧ ¬(dataset.1.map (·.windowId)).Nodup := by
  constructor
  · have hskipped : (buildWindowsOfStore evaluateTrainingEligibility (text "normal")
        (storeOf (twoRounds [])) 1).map (·.2.skippedArtifacts) = some [] := by decide +kernel
    obtain ⟨dataset, hdataset, hnil⟩ := Option.map_eq_some_iff.mp hskipped
    refine ⟨dataset, hdataset, by decide +kernel, _, List.mem_cons_of_mem _ List.mem_cons_self,
      by decide +kernel, ?_⟩
    rw [hnil]
    exact List.not_mem_nil
  · have hnames : (buildWindowsOfStore evaluateTrainingEligibility (text "normal")
        (storeOf separatedRounds) 2).map (·.1.map (·.windowId)) =
          some [text "window::a::b::c", text "window::b::c::a::b", text "window::a::b::c"] := by
      decide +kernel
    obtain ⟨dataset, hdataset, hids⟩ := Option.map_eq_some_iff.mp hnames
    refine ⟨dataset, hdataset, by decide +kernel, ?_⟩
    rw [hids]
    decide +kernel

end TruthFingerprint.Lstm
