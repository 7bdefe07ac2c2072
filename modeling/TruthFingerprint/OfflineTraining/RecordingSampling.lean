import Mathlib
import TruthFingerprint.Lib.BreakLoop
import TruthFingerprint.Lib.Chunks
import TruthFingerprint.Lib.Framing
import TruthFingerprint.Lib.Utf8
import TruthFingerprint.OfflineTraining.Selection
import TruthFingerprint.Python.Coercions

/-!
# The sequences of a recording

A recording is read one system call at a time. The calls are cut into sequences, of which a heap
keeps those with the smallest priorities. The state of the loop is that of the calls so far
(`Projected`), and what is kept at the end are the first of the ranking of all sequences
(`projectRecording_exact`).
-/

namespace TruthFingerprint.OfflineTraining

open List (ranked)

/-! ## Sequences of a recording -/

/-- A sequence of a recording: where it starts, and its rows of one name each -/
abbrev SampledSequence := Nat × List (List Text)

section Recording

variable (seed : Int) (identity : Text)

def sequencePriority (sequence : SampledSequence) : Nat :=
  stablePriority seed (identity ++ text ":sequence:" ++ DecimalText.natText sequence.1)

/-- The order of the items of the heap, `(-priority, start, values)` -/
def SequenceBefore (s t : SampledSequence) : Prop :=
  toLex (-(sequencePriority seed identity s : Int), toLex s) ≤
    toLex (-(sequencePriority seed identity t : Int), toLex t)

instance : DecidableRel (SequenceBefore seed identity) := fun _ _ =>
  inferInstanceAs (Decidable (_ ≤ _))

/-- `_retain_lid_sequence`, where the heap is kept sorted -/
def retainLidSequence (cap : Nat) (retained : List SampledSequence) (sequence : SampledSequence) :
    List SampledSequence :=
  if retained.length < cap then retained.orderedInsert (SequenceBefore seed identity) sequence
  else match retained with
    | [] => []
    | greatest :: rest =>
      if sequencePriority seed identity sequence < sequencePriority seed identity greatest then
        rest.orderedInsert (SequenceBefore seed identity) sequence
      else greatest :: rest

/-- `LidDs2021Benchmark._syscall_name` -/
def syscallName (line : Text) : Option Text :=
  (Python.split line)[5]?.filter fun name => name ≠ text ">" && name ≠ text "<"

/-- The strict decoding of `utf-8` -/
def decodeLine (line : Bytes) : Option Text :=
  (Utf8.scan (fun c => !c.isSurrogate) 0 line).mapM id

/-- What the loop over the lines of a recording keeps -/
structure Projecting where
  retained : List SampledSequence
  current : List (List Text)
  currentStart : Nat
  parsedCount : Nat
  /-- What the digest of the detector input was given -/
  detectorInput : Bytes

/-- A name with its length in eight bytes -/
def framedName (name : Text) : Bytes :=
  (Sha256.bigEndian 8 name.utf8.length).map UInt8.ofNat ++ name.utf8

variable (sequenceLength maxSequences : Nat)

def takeName (s : Projecting) (name : Text) : Projecting :=
  let start := if s.current = [] then s.parsedCount else s.currentStart
  let current := s.current ++ [[name]]
  let s := { s with
    parsedCount := s.parsedCount + 1
    detectorInput := s.detectorInput ++ framedName name }
  if current.length = sequenceLength then
    { s with
      retained := retainLidSequence seed identity maxSequences s.retained (start, current)
      current := []
      currentStart := start }
  else { s with current := current, currentStart := start }

/-- A line that is no `utf-8` and a name whose length does not fit are refused. -/
def takeRecordingLine (s : Projecting) (line : Bytes) : Option Projecting := do
  let line ← decodeLine line
  match syscallName line with
  | none => some s
  | some name =>
    if name.utf8.length < 2 ^ 64 then
      some (takeName seed identity sequenceLength maxSequences s name)
    else none

/-- What is read of the system calls of a recording -/
structure SampledRecording where
  sampled : List SampledSequence
  detectorInput : Bytes
  parsedCount : Nat

/-- The system calls in `_project_lid_consumed_archive`, for positive numbers -/
def projectRecording (lines : List Bytes) : Option SampledRecording := do
  let s ← lines.foldlM (takeRecordingLine seed identity sequenceLength maxSequences)
    ⟨[], [], 0, 0, []⟩
  let retained := if s.current = [] then s.retained
    else retainLidSequence seed identity maxSequences s.retained (s.currentStart, s.current)
  some ⟨retained.insertionSort (·.1 ≤ ·.1), s.detectorInput, s.parsedCount⟩

end Recording

/-! ### All sequences of a recording -/

def namesOf (lines : List Bytes) : List Text :=
  lines.filterMap fun line => (decodeLine line).bind syscallName

def rowsOf (names : List Text) : List (List Text) := names.map ([·])

/-- The complete sequences, each with its start -/
def completeSequences (n : Nat) (names : List Text) : List SampledSequence :=
  (Chunks.chunks n (rowsOf names)).zipIdx.map fun chunk => (chunk.2 * n, chunk.1)

/-- The sequences of a recording, the last of which may be shorter -/
def allSequences (n : Nat) (names : List Text) : List SampledSequence :=
  completeSequences n names ++
    if Chunks.leftover n (rowsOf names) = [] then []
    else [(names.length / n * n, Chunks.leftover n (rowsOf names))]

section Sequences

variable {n : Nat} {names : List Text} {name : Text}

/-- No name is lost. -/
theorem flatMap_allSequences (n : Nat) (names : List Text) :
    (allSequences n names).flatMap (·.2) = rowsOf names := by
  have hcomplete : (completeSequences n names).flatMap (·.2) =
      (Chunks.chunks n (rowsOf names)).flatten := by
    rw [completeSequences, List.flatMap_map, List.flatMap_def]
    exact congrArg List.flatten (List.zipIdx_map_fst 0 _)
  conv_rhs => rw [← Chunks.flatten_chunks_append n (rowsOf names)]
  rw [allSequences, List.flatMap_append, hcomplete]
  split_ifs with hnil
  · rw [hnil, List.flatMap_nil]
  · rw [List.flatMap_singleton]

theorem completeSequences_concat (hn : 0 < n) : completeSequences n (names ++ [name]) =
    if (Chunks.leftover n (rowsOf names)).length + 1 = n then
      completeSequences n names ++
        [(names.length / n * n, Chunks.leftover n (rowsOf names) ++ [[name]])]
    else completeSequences n names := by
  have hrows : rowsOf (names ++ [name]) = rowsOf names ++ [[name]] := List.map_append
  rw [completeSequences, hrows, Chunks.chunks_concat hn]
  split_ifs with hfull
  · rw [List.zipIdx_append, List.map_append, Chunks.length_chunks, Nat.zero_add, rowsOf,
      List.length_map]
    rfl
  · rfl

/-- Where a sequence starts when none is begun -/
theorem start_of_leftover_nil (h : Chunks.leftover n (rowsOf names) = []) :
    names.length / n * n = names.length := by
  have hmod := Chunks.length_leftover n (rowsOf names)
  rw [h, List.length_nil, rowsOf, List.length_map] at hmod
  have hdiv := Nat.div_add_mod' names.length n
  omega

theorem start_concat (hn : 0 < n) (hopen : (Chunks.leftover n (rowsOf names)).length + 1 ≠ n) :
    (names ++ [name]).length / n * n = names.length / n * n := by
  have hmod := Chunks.length_leftover n (rowsOf names)
  rw [rowsOf, List.length_map] at hmod
  rw [rowsOf, hmod] at hopen
  rw [List.length_append, List.length_singleton, Chunks.succ_div hn, if_neg hopen]

end Sequences

/-! ### The loop -/

section Loop

variable {seed : Int} {identity : Text} {n cap : Nat} {names : List Text} {s next : Projecting}

/-- What the loop has after the names that it was given -/
structure Projected (seed : Int) (identity : Text) (n cap : Nat) (names : List Text)
    (s : Projecting) : Prop where
  retained : s.retained = (completeSequences n names).foldl (retainLidSequence seed identity cap) []
  current : s.current = Chunks.leftover n (rowsOf names)
  start : s.current ≠ [] → s.currentStart = names.length / n * n
  parsedCount : s.parsedCount = names.length
  detectorInput : s.detectorInput = names.flatMap framedName

theorem projected_nil (seed : Int) (identity : Text) (n cap : Nat) :
    Projected seed identity n cap [] ⟨[], [], 0, 0, []⟩ := by
  refine ⟨?_, ?_, fun h => absurd rfl h, rfl, rfl⟩
  · rw [completeSequences, rowsOf, List.map_nil, Chunks.chunks_nil]
    rfl
  · rw [rowsOf, List.map_nil, Chunks.leftover_nil]

theorem Projected.takeName (h : Projected seed identity n cap names s) (hn : 0 < n) (name : Text) :
    Projected seed identity n cap (names ++ [name]) (takeName seed identity n cap s name) := by
  have hrows : rowsOf (names ++ [name]) = rowsOf names ++ [[name]] := List.map_append
  have hstart : (if s.current = [] then s.parsedCount else s.currentStart) =
      names.length / n * n := by
    split_ifs with hnil
    · rw [h.parsedCount, start_of_leftover_nil (h.current ▸ hnil)]
    · exact h.start hnil
  have hlength : (s.current ++ [[name]]).length =
      (Chunks.leftover n (rowsOf names)).length + 1 := by
    rw [h.current, List.length_append, List.length_singleton]
  have hinput : s.detectorInput ++ framedName name = (names ++ [name]).flatMap framedName := by
    rw [List.flatMap_append, List.flatMap_singleton, h.detectorInput]
  have hcount : s.parsedCount + 1 = (names ++ [name]).length := by
    rw [List.length_append, List.length_singleton, h.parsedCount]
  unfold OfflineTraining.takeName
  simp only [hstart, hlength]
  by_cases hfull : (Chunks.leftover n (rowsOf names)).length + 1 = n
  · rw [if_pos hfull]
    refine ⟨?_, ?_, fun h => absurd rfl h, hcount, hinput⟩
    · rw [completeSequences_concat hn, if_pos hfull, List.foldl_append, List.foldl_cons,
        List.foldl_nil, ← h.retained, h.current]
    · rw [hrows, Chunks.leftover_concat hn, if_pos hfull]
  · rw [if_neg hfull]
    refine ⟨?_, ?_, fun _ => (start_concat hn hfull).symm, hcount, hinput⟩
    · rw [completeSequences_concat hn, if_neg hfull]
      exact h.retained
    · rw [hrows, Chunks.leftover_concat hn, if_neg hfull, ← h.current]

/-- A name that is framed has a length that fits. -/
theorem projected_of_foldlM {lines : List Bytes} (hn : 0 < n)
    (h : lines.foldlM (takeRecordingLine seed identity n cap) ⟨[], [], 0, 0, []⟩ = some s) :
    Projected seed identity n cap (namesOf lines) s ∧
      ∀ name ∈ namesOf lines, name.utf8.length < 2 ^ 64 := by
  refine @BreakLoop.foldlM_done _ _ _ _ _ _ [] (fun done s =>
    Projected seed identity n cap (namesOf done) s ∧
      ∀ name ∈ namesOf done, name.utf8.length < 2 ^ 64) ?_
    ⟨projected_nil seed identity n cap, fun _ hname => absurd hname List.not_mem_nil⟩ h
  rintro done line s next ⟨hdone, hfits⟩ hnext
  have hnames : namesOf (done ++ [line]) =
      namesOf done ++ ((decodeLine line).bind syscallName).toList := by
    rw [namesOf, List.filterMap_append, List.filterMap_cons, List.filterMap_nil]
    cases (decodeLine line).bind syscallName <;> rfl
  rw [takeRecordingLine] at hnext
  obtain ⟨decoded, hdecoded, hnext⟩ := Option.bind_eq_some_iff.mp hnext
  rw [hnames, hdecoded, Option.bind_some]
  cases hname : syscallName decoded with
  | none =>
    simp only [hname, Option.some.injEq] at hnext
    rw [Option.toList_none, List.append_nil]
    exact hnext ▸ ⟨hdone, hfits⟩
  | some name =>
    simp only [hname] at hnext
    split_ifs at hnext with hfit
    rw [Option.toList_some]
    refine ⟨Option.some.inj hnext ▸ hdone.takeName hn name, fun other hother => ?_⟩
    rcases List.mem_append.mp hother with hother | hother
    · exact hfits other hother
    · exact List.mem_singleton.mp hother ▸ hfit

/-- The sequences that are kept are the first of the ranking, and begin where they did. -/
theorem foldl_retainLidSequence {sequences : List SampledSequence}
    (h : (sequences.map (sequencePriority seed identity)).Nodup) :
    sequences.foldl (retainLidSequence seed identity cap) [] =
      ((ranked (sequencePriority seed identity) sequences).take cap).reverse := by
  have hretain : retainLidSequence seed identity cap =
      List.reservoirAdd (sequencePriority seed identity) (SequenceBefore seed identity) cap := by
    funext retained sequence
    unfold retainLidSequence List.reservoirAdd
    split_ifs
    · rfl
    · cases retained <;> rfl
  rw [hretain]
  refine List.foldl_reservoirAdd _ _ cap h fun a ha b hb => ?_
  rw [SequenceBefore, Prod.Lex.toLex_le_toLex]
  constructor
  · rintro (hlt | ⟨heq, -⟩)
    · simp only [neg_lt_neg_iff, Nat.cast_lt] at hlt
      exact hlt.le
    · simp only [neg_inj, Nat.cast_inj] at heq
      exact heq.ge
  · intro hle
    rcases hle.lt_or_eq with hlt | heq
    · exact .inl (by simpa using hlt)
    · exact .inr ⟨by simp [heq], (List.inj_on_of_nodup_map h ha hb heq.symm) ▸ le_rfl⟩

/-- The starts of the sequences increase. -/
theorem pairwise_start_allSequences (hn : 0 < n) (names : List Text) :
    (allSequences n names).Pairwise (·.1 < ·.1) := by
  have hlength : (Chunks.chunks n (rowsOf names)).length = names.length / n := by
    rw [Chunks.length_chunks, rowsOf, List.length_map]
  rw [allSequences, List.pairwise_append]
  refine ⟨?_, ?_, fun s hs t ht => ?_⟩
  · rw [completeSequences, List.pairwise_iff_getElem]
    intro i j hi hj hij
    rw [List.getElem_map, List.getElem_map, List.getElem_zipIdx, List.getElem_zipIdx]
    exact Nat.mul_lt_mul_of_pos_right (by omega) hn
  · split_ifs
    · exact List.Pairwise.nil
    · exact List.pairwise_singleton _ _
  · -- The sequence that is left over starts after the last complete one.
    split_ifs at ht with hnil
    · exact absurd ht List.not_mem_nil
    · obtain ⟨chunk, hchunk, rfl⟩ := List.mem_map.mp hs
      obtain rfl := List.mem_singleton.mp ht
      have hlt := List.snd_lt_of_mem_zipIdx hchunk
      rw [hlength, Nat.add_zero] at hlt
      exact Nat.mul_lt_mul_of_pos_right hlt hn

/-- The recording ends with the sequence that is open, if there is one. -/
theorem Projected.close (h : Projected seed identity n cap names s) :
    (if s.current = [] then s.retained
      else retainLidSequence seed identity cap s.retained (s.currentStart, s.current)) =
      (allSequences n names).foldl (retainLidSequence seed identity cap) [] := by
  rw [allSequences, List.foldl_append, ← h.retained, ← h.current]
  split_ifs with hnil
  · rfl
  · rw [h.start hnil]
    rfl

/-- The detector input determines the names. -/
theorem names_eq_of_flatMap_framedName {other : List Text}
    (hfits : ∀ name ∈ names, name.utf8.length < 2 ^ 64)
    (hother : ∀ name ∈ other, name.utf8.length < 2 ^ 64)
    (h : names.flatMap framedName = other.flatMap framedName) : names = other := by
  let head (size : Nat) : Bytes := (Sha256.bigEndian 8 size).map UInt8.ofNat
  have hlength (size : Nat) : (head size).length = 8 :=
    List.length_map _ |>.trans (Framing.length_bigEndian 8 size)
  have hhead (size size' : Nat) (hsize : size < 2 ^ 64) (hsize' : size' < 2 ^ 64)
      (heq : head size = head size') : size = size' := by
    have hbytes := congrArg (List.map UInt8.toNat) heq
    rw [Framing.map_toNat_bigEndian, Framing.map_toNat_bigEndian] at hbytes
    exact @Framing.bigEndian_injective 8 _ _ hsize hsize' hbytes
  refine (Framing.prefixFree_sized hlength hhead Utf8.utf8_injective).flatMap_injective
    (fun name _ hnil => ?_) hfits hother h
  have := congrArg List.length hnil
  rw [List.length_append, hlength, List.length_nil] at this
  omega

/-- What a recording is read as -/
theorem projectRecording_eq_some {lines : List Bytes} {recording : SampledRecording} (hn : 0 < n)
    (h : projectRecording seed identity n cap lines = some recording) :
    recording.sampled = ((allSequences n (namesOf lines)).foldl
        (retainLidSequence seed identity cap) []).insertionSort (·.1 ≤ ·.1) ∧
      recording.detectorInput = (namesOf lines).flatMap framedName ∧
      recording.parsedCount = (namesOf lines).length ∧
      ∀ name ∈ namesOf lines, name.utf8.length < 2 ^ 64 := by
  rw [projectRecording] at h
  obtain ⟨s, hs, h⟩ := Option.bind_eq_some_iff.mp h
  obtain ⟨hprojected, hfits⟩ := projected_of_foldlM hn hs
  cases h
  exact ⟨congrArg _ hprojected.close, hprojected.detectorInput, hprojected.parsedCount, hfits⟩

end Loop

/-- Three system calls, between two lines that have none -/
def sampleRecordingLines : List Bytes :=
  [text "", text "1 0 1 2 tool open <", text "2 0 1 2 tool read >", text "3 0 1 2 tool close",
    text "4 0 1 2 tool >"].map Text.utf8

end TruthFingerprint.OfflineTraining
