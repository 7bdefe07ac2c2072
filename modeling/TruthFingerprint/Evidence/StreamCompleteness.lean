import Mathlib
import TruthFingerprint.Evidence.ManifestBytes
import TruthFingerprint.Lib.Dict
import TruthFingerprint.Lib.KeyedRuns

/-!
# Completeness of streams

The records of a run come interleaved, and each is checked against what has been seen of its scope.
A run has no defect exactly when the records of each scope are those that the scope requires, in
order (`validateStreamCompleteness_exact`); how the scopes are interleaved does not matter.
-/

namespace TruthFingerprint.Evidence

open KeyedRuns

/-! ## Requirements and records -/

/-- A stream of a sensor of an edge -/
structure StreamScope where
  streamId : Text
  edgeId : Text
  sensorId : Text
deriving DecidableEq

structure StreamRequirement where
  scope : StreamScope
  firstSequence : ℤ
  lastSequence : ℤ

structure StreamRecord where
  scope : StreamScope
  sourceSequence : ℤ
  canonicalBytes : Bytes
  contentSha256 : Text
deriving DecidableEq

structure StreamDefect where
  ruleId : Text
  scope : StreamScope
  sourceSequence : ℤ
deriving DecidableEq

inductive StreamStatus where
  | complete | incomplete
deriving DecidableEq

structure StreamCompleteness where
  status : StreamStatus
  defects : List StreamDefect
  retainedRecords : List StreamRecord

/-- `range(first_sequence, last_sequence + 1)` -/
def StreamRequirement.sequences (requirement : StreamRequirement) : List ℤ :=
  (List.range (requirement.lastSequence + 1 - requirement.firstSequence).toNat).map
    fun i : ℕ => requirement.firstSequence + i

/-! ## The loop -/

/-- `last_seen` and `per_scope` of a scope -/
structure ScopeState where
  lastSeen : Option ℤ
  observed : ℤ → Option StreamRecord

def ScopeState.start : ScopeState := ⟨none, fun _ => none⟩

/-- A defect of a record where the condition holds -/
def defect (found : Bool) (ruleId : String) (record : StreamRecord) : List StreamDefect :=
  if found then [⟨text ruleId, record.scope, record.sourceSequence⟩] else []

def duplicateRule (prior record : StreamRecord) : String :=
  if prior = record then "PRV1_STREAM_DUPLICATE" else "PRV1_STREAM_DIVERGENT_DUPLICATE"

variable (scopes : List (StreamScope × StreamRequirement))

/-- The body of the loop over the records, for the scope of the record -/
def observe (scope : StreamScope) (state : ScopeState) (record : StreamRecord) :
    ScopeState × List StreamDefect :=
  match scopes.lookup scope with
  | none => (state, defect true "PRV1_STREAM_SCOPE_MISMATCH" record)
  | some requirement =>
    let outside := record.sourceSequence < requirement.firstSequence ||
      requirement.lastSequence < record.sourceSequence
    let outOfOrder := state.lastSeen.any (record.sourceSequence < ·)
    let prior := state.observed record.sourceSequence
    let repeated := match prior with
      | some prior => defect true (duplicateRule prior record) record
      | none => []
    ({ lastSeen := some record.sourceSequence
       observed := if prior.isSome then state.observed
        else Function.update state.observed record.sourceSequence (some record) },
      defect outside "PRV1_STREAM_SEQUENCE_OUTSIDE_DECLARATION" record ++
        defect outOfOrder "PRV1_STREAM_OUT_OF_ORDER" record ++
        defect (record.contentSha256 ≠ bytesId record.canonicalBytes) "PRV1_STREAM_HASH_MISMATCH"
          record ++ repeated)

structure StreamState where
  scopeStates : StreamScope → ScopeState
  defects : List StreamDefect

def observeRecord (state : StreamState) (record : StreamRecord) : StreamState :=
  let next := observe scopes record.scope (state.scopeStates record.scope) record
  ⟨Function.update state.scopeStates record.scope next.1, state.defects ++ next.2⟩

/-- The sequences of a requirement that were not observed -/
def missingSequences (state : StreamState) (item : StreamScope × StreamRequirement) :
    List StreamDefect :=
  (item.2.sequences.filter fun sequence =>
    ((state.scopeStates item.1).observed sequence).isNone).map fun sequence =>
      ⟨text "PRV1_STREAM_MISSING", item.1, sequence⟩

def validateStreamCompleteness (requirements : List StreamRequirement)
    (records : List StreamRecord) : StreamCompleteness :=
  let scopes := Dict.ofItems (requirements.map fun requirement => (requirement.scope, requirement))
  let state := records.foldl (observeRecord scopes) ⟨fun _ => .start, []⟩
  let defects := state.defects ++ scopes.flatMap (missingSequences state)
  ⟨if defects.isEmpty then .complete else .incomplete, defects, records⟩

/-! ## Runs of a scope -/

variable {scopes} {scope : StreamScope} {requirement : StreamRequirement} {state : ScopeState}
  {record : StreamRecord} {records : List StreamRecord} {seen : List ℤ}

theorem foldl_observeRecord (state : StreamState) (records : List StreamRecord) :
    records.foldl (observeRecord scopes) state =
      ⟨(keyedRun StreamRecord.scope (observe scopes) state.scopeStates records).1,
        state.defects ++
          (keyedRun StreamRecord.scope (observe scopes) state.scopeStates records).2⟩ := by
  induction records generalizing state with
  | nil => simp [keyedRun]
  | cons record records ih =>
    rw [List.foldl_cons, ih, keyedRun, observeRecord]
    simp only [List.append_assoc]

/-- What a state remembers of the sequences that were seen -/
structure Tracks (state : ScopeState) (seen : List ℤ) : Prop where
  lastSeen : state.lastSeen = seen.getLast?
  observed : ∀ n, (state.observed n).isSome ↔ n ∈ seen

theorem tracks_start : Tracks .start [] := ⟨rfl, fun _ => by simp [ScopeState.start]⟩

/-- A record within its interval with the digest of its bytes -/
def Accepted (requirement : StreamRequirement) (record : StreamRecord) : Prop :=
  requirement.firstSequence ≤ record.sourceSequence ∧
    record.sourceSequence ≤ requirement.lastSequence ∧
    record.contentSha256 = bytesId record.canonicalBytes

theorem defect_eq_nil {found : Bool} {ruleId : String} :
    defect found ruleId record = [] ↔ found = false := by
  cases found <;> simp [defect]

theorem tracks_observe (hlookup : scopes.lookup scope = some requirement)
    (htracks : Tracks state seen) (record : StreamRecord) :
    Tracks (observe scopes scope state record).1 (seen ++ [record.sourceSequence]) := by
  rw [observe, hlookup]
  refine ⟨by simp, fun n => ?_⟩
  cases hprior : state.observed record.sourceSequence with
  | none =>
    by_cases hn : n = record.sourceSequence
    · simp [hn]
    · simp [hn, htracks.observed]
  | some prior =>
    by_cases hn : n = record.sourceSequence
    · simp [hn, hprior]
    · simp [hn, htracks.observed]

/-- Of growing sequences the last one is the greatest. -/
theorem lt_of_getLast?_iff {n : ℤ} (hseen : seen.Pairwise (· < ·)) :
    (seen.getLast?.any (n < ·) = false ∧ n ∉ seen) ↔ ∀ m ∈ seen, m < n := by
  cases seen using List.reverseRecOn with
  | nil => simp
  | append_singleton seen last =>
    have hlast : ∀ m ∈ seen, m < last := fun m hm =>
      (List.pairwise_append.mp hseen).2.2 m hm last (List.mem_singleton_self last)
    simp only [List.getLast?_append, List.getLast?_singleton, Option.some_or, Option.any_some,
      decide_eq_false_iff_not, not_lt, List.mem_append, List.mem_singleton, not_or]
    constructor
    · rintro ⟨hle, -, hne⟩ m (hm | rfl)
      · exact (hlast m hm).trans_le hle
      · exact lt_of_le_of_ne hle (Ne.symm hne)
    · intro h
      have hlt := h last (.inr rfl)
      exact ⟨hlt.le, fun hn => lt_irrefl _ (h n (.inl hn)), hlt.ne'⟩

theorem observe_defects_eq_nil (hlookup : scopes.lookup scope = some requirement)
    (htracks : Tracks state seen) (hseen : seen.Pairwise (· < ·)) :
    (observe scopes scope state record).2 = [] ↔
      Accepted requirement record ∧ ∀ n ∈ seen, n < record.sourceSequence := by
  have hrepeated : state.observed record.sourceSequence = none ↔ record.sourceSequence ∉ seen := by
    rw [← htracks.observed, Option.not_isSome_iff_eq_none]
  have hlater : (state.lastSeen.any (record.sourceSequence < ·) = false ∧
      record.sourceSequence ∉ seen) ↔ ∀ n ∈ seen, n < record.sourceSequence := by
    rw [htracks.lastSeen]
    exact lt_of_getLast?_iff hseen
  rw [observe, hlookup, ← hlater, ← hrepeated, Accepted]
  cases hprior : state.observed record.sourceSequence with
  | none => simp [defect_eq_nil, and_assoc, and_comm]
  | some prior => simp [defect]

theorem pairwise_append_cons {n : ℤ} {rest : List ℤ} :
    (seen ++ n :: rest).Pairwise (· < ·) ↔
      (∀ m ∈ seen, m < n) ∧ (seen ++ [n] ++ rest).Pairwise (· < ·) := by
  rw [List.append_assoc, List.singleton_append]
  exact ⟨fun h => ⟨fun m hm => (List.pairwise_append.mp h).2.2 m hm n List.mem_cons_self, h⟩,
    fun h => h.2⟩

theorem run_tracks (hlookup : scopes.lookup scope = some requirement)
    (htracks : Tracks state seen) (records : List StreamRecord) :
    Tracks (run (observe scopes) scope state records).1
      (seen ++ records.map (·.sourceSequence)) := by
  induction records generalizing state seen with
  | nil => simpa [run] using htracks
  | cons record records ih =>
    have hrest := ih (tracks_observe hlookup htracks record)
    rwa [List.append_assoc, List.singleton_append] at hrest

/-- The run of a required scope has no defect when its sequences grow within the interval. -/
theorem run_defects_eq_nil (hlookup : scopes.lookup scope = some requirement)
    (htracks : Tracks state seen) (hseen : seen.Pairwise (· < ·)) (records : List StreamRecord) :
    (run (observe scopes) scope state records).2 = [] ↔
      (∀ record ∈ records, Accepted requirement record) ∧
        (seen ++ records.map (·.sourceSequence)).Pairwise (· < ·) := by
  induction records generalizing state seen with
  | nil => simpa [run] using hseen
  | cons record records ih =>
    rw [run, List.append_eq_nil_iff, observe_defects_eq_nil hlookup htracks hseen, List.map_cons,
      pairwise_append_cons, List.forall_mem_cons]
    constructor
    · rintro ⟨⟨haccepted, hlater⟩, hrest⟩
      have hgrown : (seen ++ [record.sourceSequence]).Pairwise (· < ·) :=
        List.pairwise_append.mpr ⟨hseen, List.pairwise_singleton _ _, fun m hm n hn =>
          List.mem_singleton.mp hn ▸ hlater m hm⟩
      obtain ⟨hrecords, hpairwise⟩ := (ih (tracks_observe hlookup htracks record) hgrown).mp hrest
      exact ⟨⟨haccepted, hrecords⟩, hlater, hpairwise⟩
    · rintro ⟨⟨haccepted, hrecords⟩, hlater, hpairwise⟩
      exact ⟨⟨haccepted, hlater⟩, (ih (tracks_observe hlookup htracks record)
        (List.pairwise_append.mp hpairwise).1).mpr ⟨hrecords, hpairwise⟩⟩

theorem run_unrequired (hlookup : scopes.lookup scope = none) (records : List StreamRecord) :
    (run (observe scopes) scope state records).2 = [] ↔ records = [] := by
  cases records with
  | nil => simp [run]
  | cons record records => simp [run, observe, hlookup, defect]

/-! ## The exact law -/

theorem mem_sequences {n : ℤ} : n ∈ requirement.sequences ↔
    requirement.firstSequence ≤ n ∧ n ≤ requirement.lastSequence := by
  simp only [StreamRequirement.sequences, List.mem_map, List.mem_range]
  constructor
  · rintro ⟨i, hi, rfl⟩
    omega
  · rintro ⟨hfirst, hlast⟩
    exact ⟨(n - requirement.firstSequence).toNat, by omega, by omega⟩

theorem pairwise_sequences : requirement.sequences.Pairwise (· < ·) := by
  rw [StreamRequirement.sequences, List.pairwise_map]
  exact List.pairwise_lt_range.imp fun h => by omega

/-- Accepted records whose sequences grow and miss none of the interval are those of the
interval. -/
theorem sequences_eq_iff : records.map (·.sourceSequence) = requirement.sequences ↔
    (∀ record ∈ records, requirement.firstSequence ≤ record.sourceSequence ∧
      record.sourceSequence ≤ requirement.lastSequence) ∧
    (records.map (·.sourceSequence)).Pairwise (· < ·) ∧
    ∀ n ∈ requirement.sequences, n ∈ records.map (·.sourceSequence) := by
  constructor
  · intro h
    refine ⟨fun record hrecord => mem_sequences.mp (h ▸ List.mem_map_of_mem hrecord),
      h ▸ pairwise_sequences, fun n hn => h ▸ hn⟩
  · rintro ⟨hinside, hpairwise, hall⟩
    refine hpairwise.eq_of_mem_iff pairwise_sequences fun n => ⟨fun hn => ?_, hall n⟩
    obtain ⟨record, hrecord, rfl⟩ := List.mem_map.mp hn
    exact mem_sequences.mpr (hinside record hrecord)

theorem lookup_scopes {requirements : List StreamRequirement}
    (hscopes : (requirements.map (·.scope)).Nodup) :
    (Dict.ofItems (requirements.map fun requirement => (requirement.scope, requirement))).lookup
      scope = some requirement ↔ requirement ∈ requirements ∧ requirement.scope = scope := by
  have hnodup : ((requirements.map fun requirement => (requirement.scope, requirement)).map
      Prod.fst).Nodup := by
    rw [List.map_map]
    exact hscopes
  rw [Dict.ofItems_of_nodup hnodup, Dict.lookup_eq_some_iff hnodup, List.mem_map]
  constructor
  · rintro ⟨other, hother, heq⟩
    obtain ⟨rfl, rfl⟩ := Prod.mk.inj heq
    exact ⟨hother, rfl⟩
  · rintro ⟨hmem, rfl⟩
    exact ⟨requirement, hmem, rfl⟩

/-- The records of a scope -/
def recordsOf (scope : StreamScope) (records : List StreamRecord) : List StreamRecord :=
  records.filter (·.scope = scope)

/-- The records are those that the requirements ask for, in order for each scope. -/
def ExactStreams (requirements : List StreamRequirement) (records : List StreamRecord) : Prop :=
  (∀ record ∈ records, record.scope ∈ requirements.map (·.scope) ∧
    record.contentSha256 = bytesId record.canonicalBytes) ∧
  ∀ requirement ∈ requirements,
    (recordsOf requirement.scope records).map (·.sourceSequence) = requirement.sequences

section Law

variable {requirements : List StreamRequirement}

/-- The state after the loop -/
def finalState (scopes : List (StreamScope × StreamRequirement)) (records : List StreamRecord) :
    StreamState :=
  records.foldl (observeRecord scopes) ⟨fun _ => .start, []⟩

theorem finalState_defects (scopes : List (StreamScope × StreamRequirement))
    (records : List StreamRecord) : (finalState scopes records).defects =
      (keyedRun StreamRecord.scope (observe scopes) (fun _ => .start) records).2 := by
  rw [finalState, foldl_observeRecord, List.nil_append]

theorem finalState_scope (scopes : List (StreamScope × StreamRequirement))
    (records : List StreamRecord) (scope : StreamScope) :
    (finalState scopes records).scopeStates scope =
      (run (observe scopes) scope .start (recordsOf scope records)).1 := by
  rw [finalState, foldl_observeRecord]
  exact keyedRun_state records scope

theorem missingSequences_eq_nil (hlookup : scopes.lookup scope = some requirement) :
    missingSequences (finalState scopes records) (scope, requirement) = [] ↔
      ∀ n ∈ requirement.sequences, n ∈ (recordsOf scope records).map (·.sourceSequence) := by
  have htracks := run_tracks hlookup tracks_start (recordsOf scope records)
  rw [missingSequences, List.map_eq_nil_iff, List.filter_eq_nil_iff]
  refine forall₂_congr fun n _ => ?_
  rw [finalState_scope, Option.isNone_iff_eq_none, ← ne_eq, ← Option.isSome_iff_ne_none,
    htracks.observed, List.nil_append]

/-- A run has no defect exactly when its streams are. -/
theorem defects_eq_nil_iff (hscopes : (requirements.map (·.scope)).Nodup)
    (records : List StreamRecord) :
    (validateStreamCompleteness requirements records).defects = [] ↔
      ExactStreams requirements records := by
  let scopes := Dict.ofItems (requirements.map fun requirement => (requirement.scope, requirement))
  have hdefects : (validateStreamCompleteness requirements records).defects =
      (finalState scopes records).defects ++
        scopes.flatMap (missingSequences (finalState scopes records)) := rfl
  have hlookup : ∀ {requirement scope}, scopes.lookup scope = some requirement ↔
      requirement ∈ requirements ∧ requirement.scope = scope := lookup_scopes hscopes
  have hof : ∀ {record scope}, record ∈ recordsOf scope records ↔
      record ∈ records ∧ record.scope = scope := by simp [recordsOf]
  rw [hdefects, List.append_eq_nil_iff, finalState_defects, keyedRun_output_eq_nil_iff,
    List.flatMap_eq_nil_iff]
  constructor
  · rintro ⟨hruns, hmissing⟩
    have haccepted : ∀ requirement ∈ requirements,
        (∀ record ∈ recordsOf requirement.scope records, Accepted requirement record) ∧
          ((recordsOf requirement.scope records).map (·.sourceSequence)).Pairwise (· < ·) :=
      fun requirement hrequirement => (run_defects_eq_nil (hlookup.mpr ⟨hrequirement, rfl⟩)
        tracks_start .nil _).mp (hruns requirement.scope)
    constructor
    · intro record hrecord
      cases hscope : scopes.lookup record.scope with
      | none =>
        have hnil := (run_unrequired hscope _).mp (hruns record.scope)
        exact absurd (hof.mpr ⟨hrecord, rfl⟩) (List.eq_nil_iff_forall_not_mem.mp hnil record)
      | some requirement =>
        obtain ⟨hrequirement, heq⟩ := hlookup.mp hscope
        have hrecord := (haccepted requirement hrequirement).1 record
          (hof.mpr ⟨hrecord, heq.symm⟩)
        exact ⟨List.mem_map.mpr ⟨requirement, hrequirement, heq⟩, hrecord.2.2⟩
    · intro requirement hrequirement
      obtain ⟨hrecords, hpairwise⟩ := haccepted requirement hrequirement
      have hscope := hlookup.mpr ⟨hrequirement, rfl⟩
      have hall := (missingSequences_eq_nil hscope).mp
        (hmissing _ ((Dict.lookup_eq_some_iff (Dict.nodup_keys_ofItems _)).mp hscope))
      exact sequences_eq_iff.mpr ⟨fun record hrecord =>
        ⟨(hrecords record hrecord).1, (hrecords record hrecord).2.1⟩, hpairwise, hall⟩
  · rintro ⟨hrecords, hsequences⟩
    constructor
    · intro scope
      cases hscope : scopes.lookup scope with
      | none =>
        refine (run_unrequired hscope _).mpr (List.eq_nil_iff_forall_not_mem.mpr ?_)
        intro record hrecord
        obtain ⟨hmem, rfl⟩ := hof.mp hrecord
        obtain ⟨requirement, hrequirement, heq⟩ := List.mem_map.mp (hrecords record hmem).1
        rw [hlookup.mpr ⟨hrequirement, heq⟩] at hscope
        cases hscope
      | some requirement =>
        obtain ⟨hrequirement, rfl⟩ := hlookup.mp hscope
        obtain ⟨hinside, hpairwise, -⟩ := sequences_eq_iff.mp (hsequences _ hrequirement)
        refine (run_defects_eq_nil hscope tracks_start .nil _).mpr
          ⟨fun record hrecord => ?_, hpairwise⟩
        exact ⟨(hinside record hrecord).1, (hinside record hrecord).2,
          (hrecords record (hof.mp hrecord).1).2⟩
    · rintro ⟨scope, requirement⟩ hitem
      have hscope := (Dict.lookup_eq_some_iff (Dict.nodup_keys_ofItems _)).mpr hitem
      obtain ⟨hrequirement, rfl⟩ := hlookup.mp hscope
      exact (missingSequences_eq_nil hscope).mpr
        (sequences_eq_iff.mp (hsequences _ hrequirement)).2.2

/-- Interleaving the scopes in another way gives the same defects. -/
theorem defects_perm {others : List StreamRecord}
    (h : ∀ scope, recordsOf scope others = recordsOf scope records) :
    (validateStreamCompleteness requirements others).defects.Perm
      (validateStreamCompleteness requirements records).defects := by
  let scopes := Dict.ofItems (requirements.map fun requirement => (requirement.scope, requirement))
  have hloop : (finalState scopes others).defects.Perm (finalState scopes records).defects := by
    rw [finalState_defects, finalState_defects]
    exact keyedRun_output_perm_of_interleaving h
  have hmissing : scopes.flatMap (missingSequences (finalState scopes others)) =
      scopes.flatMap (missingSequences (finalState scopes records)) := by
    refine List.flatMap_congr fun item _ => ?_
    rw [missingSequences, missingSequences, finalState_scope, finalState_scope, h]
  have hdefects : ∀ records, (validateStreamCompleteness requirements records).defects =
      (finalState scopes records).defects ++
        scopes.flatMap (missingSequences (finalState scopes records)) := fun _ => rfl
  rw [hdefects, hdefects, hmissing]
  exact hloop.append_right _

theorem status_eq_complete_iff : (validateStreamCompleteness requirements records).status =
    .complete ↔ (validateStreamCompleteness requirements records).defects = [] := by
  rw [validateStreamCompleteness]
  simp

/-- Completeness is exact, keeps the records, and does not depend on how the scopes are
interleaved. -/
theorem validateStreamCompleteness_exact (requirements : List StreamRequirement)
    (records : List StreamRecord) (hscopes : (requirements.map (·.scope)).Nodup) :
    ((validateStreamCompleteness requirements records).status = .complete ↔
      ExactStreams requirements records) ∧
    (validateStreamCompleteness requirements records).retainedRecords = records ∧
    ∀ others, (∀ scope, recordsOf scope others = recordsOf scope records) →
      (validateStreamCompleteness requirements others).status =
          (validateStreamCompleteness requirements records).status ∧
        (validateStreamCompleteness requirements others).defects.Perm
          (validateStreamCompleteness requirements records).defects := by
  refine ⟨?_, rfl, fun others h => ⟨?_, defects_perm h⟩⟩
  · rw [status_eq_complete_iff, defects_eq_nil_iff hscopes]
  · have hstatus : ∀ records, (validateStreamCompleteness requirements records).status =
        if (validateStreamCompleteness requirements records).defects.isEmpty then .complete
        else .incomplete := fun _ => rfl
    rw [hstatus, hstatus, (defects_perm h).isEmpty_eq]

end Law

/-! ## Two interleaved streams -/

def sampleScope (sensor : String) : StreamScope :=
  ⟨text "stream-alpha", text "edge-alpha", text sensor⟩

def sampleRequirements : List StreamRequirement :=
  [⟨sampleScope "sensor-alpha", 1, 2⟩, ⟨sampleScope "sensor-beta", 5, 5⟩]

def sampleRecord (sensor : String) (sequence : ℤ) : StreamRecord :=
  ⟨sampleScope sensor, sequence, [], bytesId []⟩

def sampleRecords : List StreamRecord :=
  [sampleRecord "sensor-alpha" 1, sampleRecord "sensor-beta" 5, sampleRecord "sensor-alpha" 2]

theorem sampleRecords_complete :
    (validateStreamCompleteness sampleRequirements sampleRecords).status = .complete := by
  refine (validateStreamCompleteness_exact sampleRequirements sampleRecords (by decide)).1.mpr
    ⟨fun record hrecord => ?_, by decide⟩
  simp only [sampleRecords, List.mem_cons, List.not_mem_nil, or_false] at hrecord
  rcases hrecord with rfl | rfl | rfl
  · exact ⟨by decide, rfl⟩
  · exact ⟨by decide, rfl⟩
  · exact ⟨by decide, rfl⟩

end TruthFingerprint.Evidence
