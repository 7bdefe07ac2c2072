import TruthFingerprint.Evidence.ConfigurationIdentity
import TruthFingerprint.Lib.Dict
import TruthFingerprint.Lib.Loops
import TruthFingerprint.Lib.TimedMerge
import TruthFingerprint.Lstm.DatasetBuilder
import TruthFingerprint.Python.Timestamps

/-!
# Datasets of custom campaigns

The lines of the traces of a campaign that can be parsed are events, which are sorted by their times
and names, and the row of an artifact has those in its window. Their order is one of the traces as
long as no file has, in the window, two lines of one time whose names decrease
(`syscallTokens_exact_iff`). Timestamps are rational numbers, and how a date is read is a parameter.
-/

namespace TruthFingerprint.Evidence.CustomCampaign

open Evidence.Configuration (isKeyStart splitlines)
open TimedMerge (Traced byTime)

/-! ## `_STRACE_LINE` -/

/-- The characters of a class at the beginning of a text, at least one -/
def takeSome (p : CodePoint → Bool) (t : Text) : Option (Text × Text) :=
  if t.takeWhile p = [] then none else some (t.takeWhile p, t.dropWhile p)

def takeChar (c : CodePoint) : Text → Option Text
  | [] => none
  | d :: t => if d = c then some t else none

def isNameChar (c : CodePoint) : Bool := isKeyStart c || JsonText.isDigit c

/-- The time and the name of a line, `(?P<timestamp>\d+\.\d+)\s+(?P<name>[A-Za-z_][A-Za-z0-9_]*)\(` -/
def straceLine (line : Text) : Option (ℚ × Text) := do
  let (seconds, t) ← takeSome Python.isDecimal line
  let t ← takeChar '.'.codePoint t
  let (fraction, t) ← takeSome Python.isDecimal t
  let (_, t) ← takeSome Python.isSpace t
  let name := t.takeWhile isNameChar
  guard (name.head?.any isKeyStart)
  let _ ← takeChar '('.codePoint (t.dropWhile isNameChar)
  some (Python.digitsNumber seconds + Python.digitsFraction fraction, name)

/-! ## What a campaign is built from -/

/-- A file of the capture with its text -/
structure Trace where
  name : Text
  content : Text
deriving DecidableEq

/-- The directory of a capture: whether it has the log of the runtime, and the traces -/
structure Capture where
  path : Text
  hasRuntimeLog : Bool
  traces : List Trace

/-- The log of a runtime: its status, and the results of the inferences of its cycles with the rounds
that they are about -/
structure RuntimePayload (ρ : Type) where
  status : Option Text
  modelStatus : Option Text
  cycleHistory : List (List (List Text × ρ))

structure CampaignContext where
  campaignId : Text
  scenarioLabel : Text

structure RoundIdentity where
  roundId : Text
  windowStartedAt : Text
  windowEndedAt : Text

/-- An artifact, with its context and its round unless these are no objects -/
structure CampaignArtifact (F : Type) where
  artifactKey : Text
  datasetContext : Option CampaignContext
  roundIdentity : Option RoundIdentity
  state : Lstm.ValidArtifact F

structure SynchronizedCampaignRow (F ρ : Type) where
  campaignId : Text
  roundId : Text
  windowStartedAt : Text
  windowEndedAt : Text
  artifactKey : Text
  scenarioLabel : Text
  currentFeatureSchema : List Text
  currentFeatureVector : List F
  syscallTokens : List Text
  autoencoderResults : List ρ

structure CampaignDataset (F ρ : Type) where
  campaignId : Text
  rows : List (SynchronizedCampaignRow F ρ)
  rowsWithSyscalls : ℕ
  artifactKeys : List Text

inductive CampaignError where
  | value (message : Text)
  /-- A date that cannot be read -/
  | date (value : Text)
deriving DecidableEq

def valueError (message : String) : CampaignError := .value (text message)

variable {F ρ : Type}

/-! ## The events -/

/-- The events of a trace in the order of its lines -/
def traceEvents (trace : Trace) : List (ℚ × Text) := (splitlines trace.content).filterMap straceLine

/-- `_read_syscall_events` -/
def readSyscallEvents (tracePaths : List Trace) : List (ℚ × Text) :=
  byTime (tracePaths.flatMap traceEvents)

def inWindow (startedAt endedAt : ℚ) (event : ℚ × Text) : Bool :=
  startedAt ≤ event.1 && event.1 ≤ endedAt

/-- `_tokens_in_window` -/
def tokensInWindow (events : List (ℚ × Text)) (startedAt endedAt : ℚ) : List Text :=
  (events.filter (inWindow startedAt endedAt)).map Prod.snd

/-- `_inference_by_round` -/
def inferenceByRound (payload : RuntimePayload ρ) : List (Text × List ρ) :=
  payload.cycleHistory.flatten.foldl (fun result inference =>
    inference.1.foldl (fun result roundId =>
      Dict.setItem result (roundId, (result.lookup roundId).getD [] ++ [inference.2])) result) []

/-! ## `build_synchronized_campaign_dataset` -/

/-- `_artifact_window_end` -/
def artifactWindowEnd (artifact : CampaignArtifact F) : Text :=
  (artifact.roundIdentity.map (·.windowEndedAt)).getD []

/-- `value.replace("Z", "+00:00")` -/
def replaceZulu (value : Text) : Text :=
  value.flatMap fun c => if c = 'Z'.codePoint then text "+00:00" else [c]

section Build

variable (timestamp : Text → Option ℚ)

/-- `_to_epoch`, over what the parsed date is as a timestamp -/
def toEpoch (value : Text) : Except CampaignError ℚ :=
  match timestamp (replaceZulu value) with
  | some instant => .ok instant
  | none => .error (.date value)

/-- The row of an artifact -/
def campaignRow [FloatArith F] (campaignId : Text) (events : List (ℚ × Text))
    (inferences : List (Text × List ρ)) (artifact : CampaignArtifact F) :
    Except CampaignError (SynchronizedCampaignRow F ρ) :=
  match artifact.datasetContext, artifact.roundIdentity with
  | some context, some identity =>
    if context.campaignId ≠ campaignId then
      .error (valueError "Artifact campaign_id does not match the capture run id.")
    else do
      let startedAt ← toEpoch timestamp identity.windowStartedAt
      let endedAt ← toEpoch timestamp identity.windowEndedAt
      let tokens := tokensInWindow events startedAt endedAt
      if tokens = [] then
        .error (.value (text "No raw edge syscall is correlated to round " ++ identity.roundId ++
          text "."))
      else
        .ok
          { campaignId
            roundId := identity.roundId
            windowStartedAt := identity.windowStartedAt
            windowEndedAt := identity.windowEndedAt
            artifactKey := artifact.artifactKey
            scenarioLabel := context.scenarioLabel
            currentFeatureSchema := Lstm.featureSchema artifact.state
            currentFeatureVector := Lstm.featureVector artifact.state
            syscallTokens := tokens
            autoencoderResults := (inferences.lookup identity.roundId).getD [] }
  | _, _ => .error (valueError "Campaign artifact lacks dataset_context or round_identity.")

/-- The traces of a capture in the order of their names -/
def tracePaths (capture : Capture) : List Trace := capture.traces.insertionSort (·.name ≤ ·.name)

def buildSynchronizedCampaignDataset [FloatArith F] (campaignId : Text) (capture : Capture)
    (payload : RuntimePayload ρ) (artifacts : List (CampaignArtifact F)) :
    Except CampaignError (CampaignDataset F ρ) :=
  if !capture.hasRuntimeLog then
    .error (.value (text "Missing runtime log: " ++ capture.path ++ text "/runtime.json"))
  else if payload.status ≠ some (text "completed") then
    .error (valueError "Custom campaign requires a completed live runtime log.")
  else if payload.modelStatus = some (text "runtime_autoencoder_disabled") then
    .error (valueError "Custom campaign requires DEMO_DISABLE_RUNTIME_AUTOENCODER=false.")
  else if capture.traces = [] then
    .error (valueError "Custom campaign requires raw edge-syscalls.* traces.")
  else if readSyscallEvents (tracePaths capture) = [] then
    .error (valueError "No parseable timestamped syscalls were found in the capture.")
  else do
    let rows ← (artifacts.insertionSort (artifactWindowEnd · ≤ artifactWindowEnd ·)).mapM
      (campaignRow timestamp campaignId (readSyscallEvents (tracePaths capture))
        (inferenceByRound payload))
    if rows = [] then .error (valueError "No persisted campaign artifacts were supplied.")
    else if (rows.map (·.currentFeatureSchema)).dedup.length ≠ 1 then
      .error (valueError "Current feature schema drifted within one campaign.")
    else
      .ok
        { campaignId
          rows
          rowsWithSyscalls := rows.countP fun row => row.syscallTokens ≠ []
          artifactKeys := rows.map (·.artifactKey) }

end Build

/-! ## The order of the tokens -/

section Tokens

variable [FloatArith F] {timestamp : Text → Option ℚ} {campaignId : Text} {capture : Capture}
  {payload : RuntimePayload ρ} {artifacts : List (CampaignArtifact F)} {dataset : CampaignDataset F ρ}

/-- The events of each trace in a window, the traces in the order of their names -/
def windowFiles (capture : Capture) (startedAt endedAt : ℚ) : List (List (ℚ × Text)) :=
  (tracePaths capture).map fun trace => (traceEvents trace).filter (inWindow startedAt endedAt)

/-- The window of a row in rational numbers -/
def WindowOf (timestamp : Text → Option ℚ) (row : SynchronizedCampaignRow F ρ)
    (startedAt endedAt : ℚ) : Prop :=
  toEpoch timestamp row.windowStartedAt = .ok startedAt ∧
    toEpoch timestamp row.windowEndedAt = .ok endedAt

omit [FloatArith F] in
theorem mem_windowFiles {startedAt endedAt : ℚ} {P : List (ℚ × Text) → Prop} :
    (∀ file ∈ windowFiles capture startedAt endedAt, P file) ↔
      ∀ trace ∈ capture.traces, P ((traceEvents trace).filter (inWindow startedAt endedAt)) := by
  simp only [windowFiles, tracePaths, List.forall_mem_map, List.mem_insertionSort]

/-- The tokens of a window are the names of its events by time and name. -/
theorem tokensInWindow_eq (capture : Capture) (startedAt endedAt : ℚ) :
    tokensInWindow (readSyscallEvents (tracePaths capture)) startedAt endedAt =
      (byTime (windowFiles capture startedAt endedAt).flatten).map Prod.snd := by
  rw [tokensInWindow, readSyscallEvents, TimedMerge.filter_byTime, List.filter_flatMap, windowFiles,
    List.flatten_eq_flatMap, List.flatMap_map]
  rfl

theorem campaignRow_eq_ok {events : List (ℚ × Text)} {inferences : List (Text × List ρ)}
    {artifact : CampaignArtifact F} {row : SynchronizedCampaignRow F ρ}
    (h : campaignRow timestamp campaignId events inferences artifact = .ok row) :
    ∃ startedAt endedAt, WindowOf timestamp row startedAt endedAt ∧
      row.syscallTokens = tokensInWindow events startedAt endedAt := by
  rw [campaignRow] at h
  split at h
  · split_ifs at h
    obtain ⟨startedAt, hstarted, h⟩ := Except.bind_eq_ok.mp h
    obtain ⟨endedAt, hended, h⟩ := Except.bind_eq_ok.mp h
    simp only at h
    split_ifs at h
    obtain rfl := Except.ok.inj h
    exact ⟨startedAt, endedAt, ⟨hstarted, hended⟩, rfl⟩
  · exact nomatch h

theorem rows_of_build
    (h : buildSynchronizedCampaignDataset timestamp campaignId capture payload artifacts =
      .ok dataset) :
    ∀ row ∈ dataset.rows, ∃ startedAt endedAt, WindowOf timestamp row startedAt endedAt ∧
      row.syscallTokens =
        (byTime (windowFiles capture startedAt endedAt).flatten).map Prod.snd := by
  rw [buildSynchronizedCampaignDataset] at h
  split_ifs at h
  obtain ⟨rows, hrows, h⟩ := Except.bind_eq_ok.mp h
  split_ifs at h
  obtain rfl := Except.ok.inj h
  intro row hrow
  obtain ⟨artifact, -, hartifact⟩ := (List.mapM_eq_ok_iff.mp hrows).exists_of_mem_right hrow
  obtain ⟨startedAt, endedAt, hwindow, htokens⟩ := campaignRow_eq_ok hartifact
  exact ⟨startedAt, endedAt, hwindow, htokens.trans (tokensInWindow_eq capture startedAt endedAt)⟩

/-- Of traces whose lines are in the order of time, a row has the names of the events in its window in
an order of time that keeps the order of the lines of each trace if and only if in no trace a line
in the window comes before one of the same time whose name is smaller. -/
theorem syscallTokens_exact_iff
    (h : buildSynchronizedCampaignDataset timestamp campaignId capture payload artifacts =
      .ok dataset)
    (hordered : ∀ trace ∈ capture.traces, (traceEvents trace).Pairwise fun a b => a.1 ≤ b.1) :
    ∀ row ∈ dataset.rows, ∃ startedAt endedAt, WindowOf timestamp row startedAt endedAt ∧
      (Traced (windowFiles capture startedAt endedAt) row.syscallTokens ↔
        ∀ trace ∈ capture.traces, ((traceEvents trace).filter (inWindow startedAt endedAt)).Pairwise
          fun a b => a.1 = b.1 → a.2 ≤ b.2) := by
  intro row hrow
  obtain ⟨startedAt, endedAt, hwindow, htokens⟩ := rows_of_build h row hrow
  refine ⟨startedAt, endedAt, hwindow, ?_⟩
  rw [htokens, TimedMerge.traced_byTime_iff, mem_windowFiles]
  exact mem_windowFiles.mpr fun trace htrace => (hordered trace htrace).filter _

end Tokens

/-! ## A campaign with one artifact -/

/-- The seconds that the digits of a text write -/
def secondsOf (t : Text) : Option ℚ := some (DecimalText.natValue (t.filter JsonText.isDigit))

/-- Two traces, of which the first has two lines of one time -/
def sampleCapture (first second : String) : Capture where
  path := text "capture"
  hasRuntimeLog := true
  traces := [⟨text "edge-syscalls.1", text ("7.50 " ++ first ++ "(3) = 0\n7.50 " ++ second ++
      "(3) = 0\n")⟩,
    ⟨text "edge-syscalls.2", text "7.25 read(0) = 1\nresumed\n"⟩]

def samplePayload : RuntimePayload Unit := ⟨some (text "completed"), none, [[([text "r1"], ())]]⟩

def sampleArtifacts : List (CampaignArtifact ℚ) :=
  [⟨text "a1", some ⟨text "c1", text "normal"⟩, some ⟨text "r1", text "7", text "8"⟩,
    ⟨text "success", text "r1", text "8", none, false, []⟩⟩]

/-- The windows and the tokens of the rows that are built of a capture -/
def builtRows (capture : Capture) : Option (List ((Text × Text) × List Text)) :=
  (buildSynchronizedCampaignDataset secondsOf (text "c1") capture samplePayload
    sampleArtifacts).toOption.map fun dataset =>
      dataset.rows.map fun row => ((row.windowStartedAt, row.windowEndedAt), row.syscallTokens)

theorem exists_of_builtRows {capture : Capture} {rows : List ((Text × Text) × List Text)}
    (h : builtRows capture = some rows) : ∃ dataset,
      buildSynchronizedCampaignDataset secondsOf (text "c1") capture samplePayload sampleArtifacts =
        .ok dataset ∧
      dataset.rows.map (fun row => ((row.windowStartedAt, row.windowEndedAt), row.syscallTokens)) =
        rows := by
  obtain ⟨dataset, hdataset, hrows⟩ := Option.map_eq_some_iff.mp h
  exact ⟨dataset, Except.eq_ok_of_toOption hdataset, hrows⟩

theorem sampleCapture_ordered : ∀ trace ∈ (sampleCapture "close" "openat").traces,
    (traceEvents trace).Pairwise fun a b => a.1 ≤ b.1 := by decide +kernel

theorem sampleCapture_exact : ∃ dataset,
    buildSynchronizedCampaignDataset secondsOf (text "c1") (sampleCapture "close" "openat")
        samplePayload sampleArtifacts = .ok dataset ∧
      dataset.rows.map (fun row => ((row.windowStartedAt, row.windowEndedAt), row.syscallTokens)) =
        [((text "7", text "8"), [text "read", text "close", text "openat"])] ∧
      ∀ row ∈ dataset.rows, ∃ startedAt endedAt, WindowOf secondsOf row startedAt endedAt ∧
        (Traced (windowFiles (sampleCapture "close" "openat") startedAt endedAt) row.syscallTokens ↔
          ∀ trace ∈ (sampleCapture "close" "openat").traces,
            ((traceEvents trace).filter (inWindow startedAt endedAt)).Pairwise
              fun a b => a.1 = b.1 → a.2 ≤ b.2) := by
  have hbuilt : builtRows (sampleCapture "close" "openat") =
      some [((text "7", text "8"), [text "read", text "close", text "openat"])] := by decide +kernel
  obtain ⟨dataset, hdataset, hrows⟩ := exists_of_builtRows hbuilt
  exact ⟨dataset, hdataset, hrows, syscallTokens_exact_iff hdataset sampleCapture_ordered⟩

/-- Two calls of one time come out in the order of their names. -/
theorem sameTime_not_traced : ¬∀ (capture : Capture) (dataset : CampaignDataset ℚ Unit),
    buildSynchronizedCampaignDataset secondsOf (text "c1") capture samplePayload sampleArtifacts =
        .ok dataset →
      (∀ trace ∈ capture.traces, (traceEvents trace).Pairwise fun a b => a.1 ≤ b.1) →
      ∀ row ∈ dataset.rows, ∀ startedAt endedAt, WindowOf secondsOf row startedAt endedAt →
        Traced (windowFiles capture startedAt endedAt) row.syscallTokens := by
  intro h
  have hbuilt : builtRows (sampleCapture "openat" "close") =
      some [((text "7", text "8"), [text "read", text "close", text "openat"])] := by decide +kernel
  obtain ⟨dataset, hdataset, hrows⟩ := exists_of_builtRows hbuilt
  obtain ⟨row, hrow, heq⟩ := List.mem_map.mp (hrows.symm ▸ List.mem_singleton_self _)
  obtain ⟨hwindow, htokens⟩ := Prod.mk.inj heq
  obtain ⟨hstarted, hended⟩ := Prod.mk.inj hwindow
  have hwindow : WindowOf secondsOf row 7 8 := by
    rw [WindowOf, hstarted, hended]
    constructor
    · exact congrArg Except.ok (by decide +kernel)
    · exact congrArg Except.ok (by decide +kernel)
  have htraced := h _ dataset hdataset (by decide +kernel) row hrow 7 8 hwindow
  have hsorted : (byTime (windowFiles (sampleCapture "openat" "close") 7 8).flatten).map Prod.snd =
      [text "read", text "close", text "openat"] := by decide +kernel
  rw [htokens, ← hsorted] at htraced
  have hfirst := mem_windowFiles.mp (TimedMerge.sorted_of_traced htraced) ⟨text "edge-syscalls.1",
    text "7.50 openat(3) = 0\n7.50 close(3) = 0\n"⟩ (by decide)
  exact absurd hfirst (by decide +kernel)

end TruthFingerprint.Evidence.CustomCampaign
