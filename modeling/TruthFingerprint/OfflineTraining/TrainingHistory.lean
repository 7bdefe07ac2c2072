import Mathlib
import TruthFingerprint.Lib.Bucket
import TruthFingerprint.Lib.FirstOccurrences

/-!
# The history of training runs

A run is written as an object of its own, its confusion matrix as another, and its identifier into
the index of its benchmark, which is read, extended and written back. Any operation of the store may
fail. An index that cannot be read is taken for an absent one: the index keeps every run exactly as
long as no failing read hides another run (`neverForgets_iff`).
-/

namespace TruthFingerprint.OfflineTraining

/-- `HISTORY_PREFIX` -/
def defaultHistoryPrefix : String := "fingerprint-training-history/"

def runsSubprefix : String := "runs/"

def indexSubprefix : String := "index/by-benchmark/"

/-- A record: the fields that the writer uses by name, and the others as they are serialized -/
structure TrainingRunRecord (D : Type) where
  runId : String
  datasetName : String
  confusionMatrix : Option (List (List Int))
  otherFields : D

/-- The objects of a history -/
inductive HistoryObject (D : Type) where
  | run (record : TrainingRunRecord D)
  | confusion (runId datasetName : String) (confusionMatrix : Option (List (List Int)))
  | index (dataset : String) (runIds : List String)

/-- `payload.get("run_ids", [])` -/
def HistoryObject.runIds {D : Type} : HistoryObject D → List String
  | .index _ runIds => runIds
  | .run _ | .confusion .. => []

abbrev HistoryStore (D : Type) := AList fun _ : String => HistoryObject D

/-- Which operations of a call raise. They leave the store as it is. -/
structure Faults where
  saveRun : Bool
  saveConfusion : Bool
  loadIndex : Bool
  saveIndex : Bool
deriving DecidableEq

def Faults.none : Faults := ⟨false, false, false, false⟩

/-- `WrittenRun` -/
structure WrittenRun where
  runId : String
  runObjectKey : String
  confusionObjectKey : String
  indexObjectKey : String
deriving DecidableEq

section Keys

variable (historyPrefix : String)

def runObjectKey (runId : String) : String := historyPrefix ++ runsSubprefix ++ runId ++ ".json"

def confusionObjectKey (runId : String) : String :=
  historyPrefix ++ runsSubprefix ++ runId ++ ".confusion.json"

def indexObjectKey (datasetName : String) : String :=
  historyPrefix ++ indexSubprefix ++ datasetName ++ ".json"

variable {historyPrefix}

theorem indexObjectKey_inj {dataset dataset' : String} :
    indexObjectKey historyPrefix dataset = indexObjectKey historyPrefix dataset' ↔
      dataset = dataset' := by
  rw [indexObjectKey, indexObjectKey, String.append_left_inj, String.append_right_inj]

/-- No object of a run is stored under the key of an index. -/
theorem indexObjectKey_ne (dataset rest : String) :
    indexObjectKey historyPrefix dataset ≠ historyPrefix ++ runsSubprefix ++ rest := by
  intro heq
  rw [indexObjectKey, String.append_assoc, String.append_assoc, String.append_assoc,
    String.append_right_inj] at heq
  have hhead := congrArg (fun s => s.toList.head?) heq
  simp only [String.toList_append, List.head?_append] at hhead
  exact absurd (Option.some.inj hhead) (by decide)

theorem indexObjectKey_ne_runObjectKey (dataset runId : String) :
    indexObjectKey historyPrefix dataset ≠ runObjectKey historyPrefix runId := by
  rw [runObjectKey, String.append_assoc]
  exact indexObjectKey_ne dataset _

theorem indexObjectKey_ne_confusionObjectKey (dataset runId : String) :
    indexObjectKey historyPrefix dataset ≠ confusionObjectKey historyPrefix runId := by
  rw [confusionObjectKey, String.append_assoc]
  exact indexObjectKey_ne dataset _

end Keys

/-! ## Writing and listing -/

variable {D : Type}

/-- `save_json`, which may raise -/
def saveJson (fails : Bool) (store : HistoryStore D) (key : String) (object : HistoryObject D) :
    Option (HistoryStore D) :=
  if fails then none else some (store.insert key object)

/-- `load_json`, which raises where there is no object too -/
def loadJson (fails : Bool) (store : HistoryStore D) (key : String) : Option (HistoryObject D) :=
  if fails then none else store.lookup key

/-- `_update_benchmark_index`. Whatever a read raises, the index is taken for a new one. -/
def updateBenchmarkIndex (faults : Faults) (store : HistoryStore D)
    (indexKey datasetName runId : String) : Option (HistoryStore D) :=
  let existing := (loadJson faults.loadIndex store indexKey).getD (.index datasetName [])
  saveJson faults.saveIndex store indexKey
    (.index datasetName (existing.runIds.appendNew runId))

/-- `write_training_run`: the store that it leaves, and what it returns unless it raises -/
def writeTrainingRun (faults : Faults) (historyPrefix : String) (store : HistoryStore D)
    (record : TrainingRunRecord D) : HistoryStore D × Option WrittenRun :=
  let runKey := runObjectKey historyPrefix record.runId
  let confusionKey := confusionObjectKey historyPrefix record.runId
  let indexKey := indexObjectKey historyPrefix record.datasetName
  match saveJson faults.saveRun store runKey (.run record) with
  | none => (store, none)
  | some withRun =>
    match saveJson faults.saveConfusion withRun confusionKey
        (.confusion record.runId record.datasetName record.confusionMatrix) with
    | none => (withRun, none)
    | some withConfusion =>
      match updateBenchmarkIndex faults withConfusion indexKey record.datasetName record.runId with
      | none => (withConfusion, none)
      | some written => (written, some ⟨record.runId, runKey, confusionKey, indexKey⟩)

/-- `list_training_runs` whose reads do not fail -/
def listTrainingRuns (historyPrefix : String) (store : HistoryStore D) :
    Option String → List String
  | some benchmark =>
    match loadJson false store (indexObjectKey historyPrefix benchmark) with
    | none => []
    | some payload => payload.runIds
  | none =>
    let isIndexKey (key : String) : Bool :=
      (historyPrefix ++ indexSubprefix).toList.isPrefixOf key.toList &&
        ".json".toList.isSuffixOf key.toList
    (Bucket.listing store isIndexKey).flatMap fun key =>
      ((loadJson false store key).map (·.runIds)).getD []

section Write

variable {faults : Faults} {historyPrefix : String} {store : HistoryStore D}
  {record : TrainingRunRecord D} {benchmark : String}

theorem listTrainingRuns_insert_of_ne {key : String} {object : HistoryObject D}
    (h : indexObjectKey historyPrefix benchmark ≠ key) :
    listTrainingRuns historyPrefix (store.insert key object) (some benchmark) =
      listTrainingRuns historyPrefix store (some benchmark) := by
  simp [listTrainingRuns, loadJson, AList.lookup_insert_ne h]

theorem listTrainingRuns_insert {dataset : String} {runIds : List String} :
    listTrainingRuns historyPrefix
        (store.insert (indexObjectKey historyPrefix benchmark) (.index dataset runIds))
        (some benchmark) = runIds := by
  simp [listTrainingRuns, loadJson, HistoryObject.runIds]

/-- The identifiers that the update starts from: those of the index, or none if the read fails. -/
theorem existing_runIds :
    ((loadJson faults.loadIndex store (indexObjectKey historyPrefix benchmark)).getD
        (.index benchmark [])).runIds =
      if faults.loadIndex then []
      else listTrainingRuns historyPrefix store (some benchmark) := by
  rw [loadJson]
  split_ifs with hfails
  · rfl
  · rw [listTrainingRuns, loadJson, if_neg Bool.false_ne_true]
    cases store.lookup (indexObjectKey historyPrefix benchmark) with
    | none => rfl
    | some payload => rfl

/-- A call returns if none of its writes fails. -/
theorem writeTrainingRun_isSome :
    (writeTrainingRun faults historyPrefix store record).2.isSome ↔
      faults.saveRun = false ∧ faults.saveConfusion = false ∧ faults.saveIndex = false := by
  cases hrun : faults.saveRun <;> cases hconfusion : faults.saveConfusion <;>
    cases hindex : faults.saveIndex <;>
      simp [writeTrainingRun, saveJson, updateBenchmarkIndex, hrun, hconfusion, hindex]

/-- What a call does to the index of a benchmark: nothing unless it returns and is for it. -/
theorem listTrainingRuns_write :
    listTrainingRuns historyPrefix (writeTrainingRun faults historyPrefix store record).1
        (some benchmark) =
      if (writeTrainingRun faults historyPrefix store record).2.isSome ∧
          record.datasetName = benchmark then
        (if faults.loadIndex then []
          else listTrainingRuns historyPrefix store (some benchmark)).appendNew record.runId
      else listTrainingRuns historyPrefix store (some benchmark) := by
  have hrunKey : indexObjectKey historyPrefix benchmark ≠ runObjectKey historyPrefix record.runId :=
    indexObjectKey_ne_runObjectKey benchmark record.runId
  have hconfusionKey : indexObjectKey historyPrefix benchmark ≠
      confusionObjectKey historyPrefix record.runId :=
    indexObjectKey_ne_confusionObjectKey benchmark record.runId
  cases hrun : faults.saveRun with
  | true => simp [writeTrainingRun, saveJson, hrun]
  | false =>
    cases hconfusion : faults.saveConfusion with
    | true =>
      simp [writeTrainingRun, saveJson, hrun, hconfusion, listTrainingRuns_insert_of_ne hrunKey]
    | false =>
      cases hindex : faults.saveIndex with
      | true =>
        simp [writeTrainingRun, saveJson, updateBenchmarkIndex, hrun, hconfusion, hindex,
          listTrainingRuns_insert_of_ne hrunKey, listTrainingRuns_insert_of_ne hconfusionKey]
      | false =>
        by_cases hbenchmark : record.datasetName = benchmark
        · subst hbenchmark
          simp only [writeTrainingRun, saveJson, updateBenchmarkIndex, hrun, hconfusion, hindex,
            Bool.false_eq_true, if_false, existing_runIds, listTrainingRuns_insert,
            listTrainingRuns_insert_of_ne hrunKey, listTrainingRuns_insert_of_ne hconfusionKey,
            Option.isSome_some, and_self, if_true]
        · have hkey : indexObjectKey historyPrefix benchmark ≠
              indexObjectKey historyPrefix record.datasetName :=
            mt indexObjectKey_inj.mp (Ne.symm hbenchmark)
          simp [writeTrainingRun, saveJson, updateBenchmarkIndex, hrun, hconfusion, hindex,
            hbenchmark, listTrainingRuns_insert_of_ne hkey,
            listTrainingRuns_insert_of_ne hrunKey, listTrainingRuns_insert_of_ne hconfusionKey]

end Write

/-! ## Sequences of calls -/

/-- A call, with what fails of it -/
structure Call (D : Type) where
  record : TrainingRunRecord D
  faults : Faults

def Call.write (historyPrefix : String) (store : HistoryStore D) (call : Call D) :
    HistoryStore D × Option WrittenRun :=
  writeTrainingRun call.faults historyPrefix store call.record

def afterCalls (historyPrefix : String) (store : HistoryStore D) (calls : List (Call D)) :
    HistoryStore D :=
  calls.foldl (fun store call => (call.write historyPrefix store).1) store

/-- The runs of a benchmark whose calls return, in the order of the calls -/
def returnedIds (historyPrefix benchmark : String) : HistoryStore D → List (Call D) → List String
  | _, [] => []
  | store, call :: calls =>
    let written := call.write historyPrefix store
    let rest := returnedIds historyPrefix benchmark written.1 calls
    if written.2.isSome ∧ call.record.datasetName = benchmark then call.record.runId :: rest
    else rest

/-- A listing has these runs, without repetition and in the order in which they come first. -/
structure Remembers (listing runIds : List String) : Prop where
  contains : runIds.firstOccurrences.Sublist listing
  nodup : listing.Nodup

/-- After every call that returns, the listing of every benchmark has the runs of all calls for it
that have returned. -/
def NeverForgets (historyPrefix : String) (store : HistoryStore D) (calls : List (Call D)) : Prop :=
  ∀ before call, before ++ [call] <+: calls →
    (call.write historyPrefix (afterCalls historyPrefix store before)).2.isSome →
      ∀ benchmark, Remembers
        (listTrainingRuns historyPrefix (afterCalls historyPrefix store (before ++ [call]))
          (some benchmark))
        (returnedIds historyPrefix benchmark store (before ++ [call]))

/-- Only the read of the index fails. -/
def Faults.OnlyRead (faults : Faults) : Prop :=
  faults.loadIndex = true ∧ faults.saveRun = false ∧ faults.saveConfusion = false ∧
    faults.saveIndex = false

/-- Where only the read of the index fails, the index has no run but that of the call. -/
def ReadsHideNothing (historyPrefix : String) (store : HistoryStore D) (calls : List (Call D)) :
    Prop :=
  ∀ before call, before ++ [call] <+: calls → call.faults.OnlyRead →
    ∀ runId ∈ listTrainingRuns historyPrefix (afterCalls historyPrefix store before)
      (some call.record.datasetName), runId = call.record.runId

/-- There is no index yet. -/
def Fresh (historyPrefix : String) (store : HistoryStore D) : Prop :=
  ∀ benchmark, store.lookup (indexObjectKey historyPrefix benchmark) = none

section Calls

variable {historyPrefix benchmark : String} {store : HistoryStore D} {calls before : List (Call D)}
  {call : Call D}

theorem afterCalls_append_singleton :
    afterCalls historyPrefix store (before ++ [call]) =
      (call.write historyPrefix (afterCalls historyPrefix store before)).1 := by
  rw [afterCalls, List.foldl_append]
  rfl

theorem returnedIds_append_singleton :
    returnedIds historyPrefix benchmark store (before ++ [call]) =
      returnedIds historyPrefix benchmark store before ++
        if (call.write historyPrefix (afterCalls historyPrefix store before)).2.isSome ∧
          call.record.datasetName = benchmark then [call.record.runId] else [] := by
  induction before generalizing store with
  | nil => rfl
  | cons first before ih =>
    have hafter : afterCalls historyPrefix (first.write historyPrefix store).1 before =
        afterCalls historyPrefix store (first :: before) := rfl
    rw [List.cons_append, returnedIds, returnedIds, ih, hafter]
    by_cases hfirst : (first.write historyPrefix store).2.isSome ∧
        first.record.datasetName = benchmark
    · rw [if_pos hfirst, if_pos hfirst, List.cons_append]
    · rw [if_neg hfirst, if_neg hfirst]

/-- The index after some calls is what it should be. -/
def Indexed (historyPrefix : String) (store : HistoryStore D) (before : List (Call D)) : Prop :=
  ∀ benchmark,
    listTrainingRuns historyPrefix (afterCalls historyPrefix store before) (some benchmark) =
      (returnedIds historyPrefix benchmark store before).firstOccurrences

theorem Indexed.remembers (h : Indexed historyPrefix store before) :
    Remembers (listTrainingRuns historyPrefix (afterCalls historyPrefix store before)
        (some benchmark)) (returnedIds historyPrefix benchmark store before) := by
  rw [h benchmark]
  exact ⟨.refl _, List.nodup_firstOccurrences _⟩

theorem indexed_nil (h : Fresh historyPrefix store) : Indexed historyPrefix store [] := by
  intro benchmark
  have hnone : listTrainingRuns historyPrefix store (some benchmark) = [] := by
    simp [listTrainingRuns, loadJson, h benchmark]
  rw [returnedIds, List.firstOccurrences_nil]
  exact hnone

/-- One call keeps the index, unless its read fails and hides another run. -/
theorem Indexed.step (h : Indexed historyPrefix store before)
    (hread : call.faults.OnlyRead →
      ∀ runId ∈ listTrainingRuns historyPrefix (afterCalls historyPrefix store before)
        (some call.record.datasetName), runId = call.record.runId) :
    Indexed historyPrefix store (before ++ [call]) := by
  intro benchmark
  rw [afterCalls_append_singleton, returnedIds_append_singleton, Call.write,
    listTrainingRuns_write]
  split_ifs with hreturns hfails
  · obtain ⟨hreturns, rfl⟩ := hreturns
    rw [h] at hread
    rw [List.firstOccurrences_append_singleton, List.appendNew_eq_singleton
      (List.nodup_firstOccurrences _) (hread ⟨hfails, writeTrainingRun_isSome.mp hreturns⟩)]
    rfl
  · rw [List.firstOccurrences_append_singleton, h]
  · rw [List.append_nil, h]

/-- A call whose listing is complete has hidden no run. -/
theorem Indexed.hides_nothing (h : Indexed historyPrefix store before)
    (hread : call.faults.OnlyRead)
    (hafter : Remembers
      (listTrainingRuns historyPrefix (afterCalls historyPrefix store (before ++ [call]))
        (some call.record.datasetName))
      (returnedIds historyPrefix call.record.datasetName store (before ++ [call]))) :
    ∀ runId ∈ listTrainingRuns historyPrefix (afterCalls historyPrefix store before)
      (some call.record.datasetName), runId = call.record.runId := by
  have hcontains := hafter.contains
  have hreturns : (writeTrainingRun call.faults historyPrefix
      (afterCalls historyPrefix store before) call.record).2.isSome :=
    writeTrainingRun_isSome.mpr hread.2
  rw [afterCalls_append_singleton, returnedIds_append_singleton, Call.write,
    listTrainingRuns_write, if_pos ⟨hreturns, rfl⟩, if_pos ⟨hreturns, rfl⟩, if_pos hread.1,
    List.firstOccurrences_append_singleton, ← h] at hcontains
  exact List.forall_eq_of_appendNew_sublist hcontains

theorem indexed_of_readsHideNothing (hfresh : Fresh historyPrefix store)
    (h : ReadsHideNothing historyPrefix store calls) (hbefore : before <+: calls) :
    Indexed historyPrefix store before := by
  induction before using List.reverseRecOn with
  | nil => exact indexed_nil hfresh
  | append_singleton before call ih =>
    have hprefix : before <+: calls := (List.prefix_append _ _).trans hbefore
    exact (ih hprefix).step (h before call hbefore)

theorem indexed_of_neverForgets (hfresh : Fresh historyPrefix store)
    (h : NeverForgets historyPrefix store calls) (hbefore : before <+: calls) :
    Indexed historyPrefix store before := by
  induction before using List.reverseRecOn with
  | nil => exact indexed_nil hfresh
  | append_singleton before call ih =>
    have hindexed := ih ((List.prefix_append _ _).trans hbefore)
    refine hindexed.step fun hread => hindexed.hides_nothing hread ?_
    exact h before call hbefore (writeTrainingRun_isSome.mpr hread.2) _

end Calls

/-- The index never forgets a run exactly if no failing read hides one. -/
theorem neverForgets_iff {historyPrefix : String} {store : HistoryStore D} {calls : List (Call D)}
    (hfresh : Fresh historyPrefix store) :
    NeverForgets historyPrefix store calls ↔ ReadsHideNothing historyPrefix store calls := by
  constructor
  · intro h before call hbefore hread
    have hindexed := indexed_of_neverForgets hfresh h ((List.prefix_append _ _).trans hbefore)
    exact hindexed.hides_nothing hread
      (h before call hbefore (writeTrainingRun_isSome.mpr hread.2) _)
  · intro h before call hbefore _ benchmark
    exact (indexed_of_readsHideNothing hfresh h hbefore).remembers

/-! ## A failing read -/

def sampleRecord (runId : String) : TrainingRunRecord Unit := ⟨runId, "adfa-ld", none, ()⟩

/-- Two runs of one benchmark. The second call cannot read the index. -/
def sampleCalls : List (Call Unit) :=
  [⟨sampleRecord "run-1", .none⟩, ⟨sampleRecord "run-2", { Faults.none with loadIndex := true }⟩]

/-- The first run is forgotten: the index is written anew with the second one. -/
theorem first_run_forgotten : ¬NeverForgets defaultHistoryPrefix ∅ sampleCalls := by
  intro h
  have hlisting := (h [⟨sampleRecord "run-1", .none⟩]
    ⟨sampleRecord "run-2", { Faults.none with loadIndex := true }⟩ (List.prefix_refl _)
    (by decide +kernel) "adfa-ld").contains
  have hlast : listTrainingRuns defaultHistoryPrefix
      (afterCalls defaultHistoryPrefix ∅ sampleCalls) (some "adfa-ld") = ["run-2"] := by
    decide +kernel
  have hids : (returnedIds defaultHistoryPrefix "adfa-ld" ∅ sampleCalls).firstOccurrences =
      ["run-1", "run-2"] := by
    decide +kernel
  have hsublist : List.Sublist ["run-1", "run-2"] ["run-2"] := by
    change (returnedIds defaultHistoryPrefix "adfa-ld" ∅ sampleCalls).firstOccurrences.Sublist
      (listTrainingRuns defaultHistoryPrefix (afterCalls defaultHistoryPrefix ∅ sampleCalls)
        (some "adfa-ld")) at hlisting
    rwa [hids, hlast] at hlisting
  exact absurd hsublist (by decide)

/-- Where the read of the first call fails, there is nothing to be hidden. -/
theorem first_read_fails :
    Fresh (D := Unit) defaultHistoryPrefix ∅ ∧
      (NeverForgets defaultHistoryPrefix ∅
          [⟨sampleRecord "run-1", { Faults.none with loadIndex := true }⟩] ↔
        ReadsHideNothing defaultHistoryPrefix ∅
          [⟨sampleRecord "run-1", { Faults.none with loadIndex := true }⟩]) :=
  ⟨fun _ => rfl, neverForgets_iff fun _ => rfl⟩

end TruthFingerprint.OfflineTraining
