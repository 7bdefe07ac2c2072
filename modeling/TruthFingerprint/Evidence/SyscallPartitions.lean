import Mathlib
import TruthFingerprint.Evidence.Diagnostics

/-!
# Partitions of runs

A partition assigns members to the roles training, validation, calibration and test. Physical
partitions take each run once, so a run has one role (`oneRole_of_accepted`). Syscall partitions
take each capture group once, but the training closure of a preprocessing fit is a set of runs: a
fit is kept apart from the other roles exactly when no eligible training run is also the run of a
member with another role (`separated_iff`).
-/

namespace TruthFingerprint.Evidence

/-- The values of `SyscallPartitionRole` and `PhysicalPartitionRole` -/
def partitionRoles : List Text :=
  [text "train", text "validation", text "calibration", text "test"]

/-! ## Physical partitions -/

structure PhysicalPartitionMember where
  runId : Text
  role : Text
  normalEligible : Bool
  runManifestId : Text
deriving DecidableEq

structure PhysicalPartition where
  partitionId : Text
  featureSchemaId : Text
  parameterEvidenceIds : List Text
  members : List PhysicalPartitionMember
  authorizationEffect : Text

/-- `validate_physical_partition` -/
def validatePhysicalPartition (partition : PhysicalPartition) (resolver : ImmutableResolver) :
    Validation :=
  let runIds := partition.members.map (·.runId)
  result <|
    finding (partition.authorizationEffect = text "none") "PPV1_PARTITION_AUTHORIZATION_EFFECT"
      partition.partitionId ++
    (partition.partitionId :: partition.featureSchemaId :: partition.parameterEvidenceIds).flatMap
      (fun identity =>
        finding (immutable resolver identity) "PPV1_PARTITION_REFERENCE_UNRESOLVED" identity) ++
    finding (!partition.members.isEmpty) "PPV1_PARTITION_EMPTY" partition.partitionId ++
    (if runIds.Nodup then []
      else runIds.map fun runId => ⟨text "PPV1_RUN_ROLE_OVERLAP", runId⟩) ++
    partition.members.flatMap fun member =>
      finding (member.role ∈ partitionRoles) "PPV1_PARTITION_ROLE_INVALID" member.runId ++
      [member.runId, member.runManifestId].flatMap fun identity =>
        finding (immutable resolver identity) "PPV1_RUN_REFERENCE_UNRESOLVED" identity

/-- Each run of an accepted physical partition has one role. -/
theorem oneRole_of_accepted {partition : PhysicalPartition} {resolver : ImmutableResolver}
    (h : (validatePhysicalPartition partition resolver).accepted)
    {member member' : PhysicalPartitionMember} (hmember : member ∈ partition.members)
    (hmember' : member' ∈ partition.members) (hrun : member.runId = member'.runId) :
    member.role = member'.role := by
  rw [validatePhysicalPartition, accepted_iff] at h
  simp only [List.append_eq_nil_iff] at h
  obtain ⟨⟨⟨-, -⟩, hruns⟩, -⟩ := h
  split_ifs at hruns with hnodup
  · rw [List.inj_on_of_nodup_map hnodup hmember hmember' hrun]
  · rw [List.map_eq_nil_iff, List.map_eq_nil_iff] at hruns
    rw [hruns] at hmember
    cases hmember

/-! ## Syscall partitions -/

/-- A complete independent capture group assigned to one role. -/
structure SyscallPartitionMember where
  runId : Text
  role : Text
  normalEligible : Bool
  runManifestId : Text
  bootId : Text
  sessionId : Text
  containerId : Text
  processScopeId : Text
  captureGroupId : Text
  batchIds : List Text
deriving DecidableEq

structure SyscallPartition where
  partitionId : Text
  featureSchemaId : Text
  parameterEvidenceIds : List Text
  members : List SyscallPartitionMember
  authorizationEffect : Text

/-- Immutable fitted vocabulary state. -/
structure SyscallPreprocessingFit where
  preprocessingId : Text
  partitionId : Text
  trainingRunIds : List Text
  trainingEventIds : List Text
  schemaId : Text
  vocabularyId : Text
  vocabularyMappingHash : Text
  frequencyStateHash : Text
  unknownEventPolicyId : Text
  algorithmId : Text
  parameterEvidenceIds : List Text
  codeId : Text
  outputHash : Text
  authorizationEffect : Text

def SyscallPartitionMember.identities (member : SyscallPartitionMember) : List Text :=
  [member.runId, member.runManifestId, member.bootId, member.sessionId, member.containerId,
    member.processScopeId, member.captureGroupId] ++ member.batchIds

/-- `validate_syscall_partition` -/
def validateSyscallPartition (partition : SyscallPartition) (resolver : ImmutableResolver) :
    Validation :=
  let groupIds := partition.members.map (·.captureGroupId)
  result <|
    finding (partition.authorizationEffect = text "none") "SPV1_PARTITION_AUTHORIZATION_EFFECT"
      partition.partitionId ++
    (partition.partitionId :: partition.featureSchemaId :: partition.parameterEvidenceIds).flatMap
      (fun identity =>
        finding (immutable resolver identity) "SPV1_PARTITION_REFERENCE_UNRESOLVED" identity) ++
    finding (!partition.members.isEmpty) "SPV1_PARTITION_EMPTY" partition.partitionId ++
    (if groupIds.Nodup then []
      else groupIds.map fun groupId => ⟨text "SPV1_CAPTURE_GROUP_ROLE_OVERLAP", groupId⟩) ++
    partition.members.flatMap fun member =>
      finding (member.role ∈ partitionRoles) "SPV1_PARTITION_ROLE_INVALID"
        member.captureGroupId ++
      finding (!member.batchIds.isEmpty) "SPV1_CAPTURE_GROUP_BATCHES_EMPTY"
        member.captureGroupId ++
      finding (member.identities.all (immutable resolver))
        "SPV1_CAPTURE_GROUP_REFERENCE_UNRESOLVED" member.captureGroupId

def SyscallPreprocessingFit.identities (fit : SyscallPreprocessingFit) : List Text :=
  [fit.preprocessingId, fit.partitionId] ++ fit.trainingRunIds ++ fit.trainingEventIds ++
    [fit.schemaId, fit.vocabularyId, fit.vocabularyMappingHash, fit.frequencyStateHash,
      fit.unknownEventPolicyId, fit.algorithmId] ++ fit.parameterEvidenceIds ++
    [fit.codeId, fit.outputHash]

/-- The members that a fit may train on. -/
def SyscallPartitionMember.Trains (member : SyscallPartitionMember) : Prop :=
  member.role = text "train" ∧ member.normalEligible

instance : DecidablePred SyscallPartitionMember.Trains :=
  fun _ => inferInstanceAs (Decidable (_ ∧ _))

/-- The runs of `allowed` -/
def SyscallPartition.trainingRuns (partition : SyscallPartition) : List Text :=
  (partition.members.filter fun member => member.Trains).map (·.runId)

/-- `validate_syscall_preprocessing_fit` -/
def validateSyscallPreprocessingFit (fit : SyscallPreprocessingFit) (partition : SyscallPartition)
    (resolver : ImmutableResolver) : Validation :=
  result <|
    finding (validateSyscallPartition partition resolver).accepted "SPV1_FIT_PARTITION_INVALID"
      fit.preprocessingId ++
    finding (!fit.trainingRunIds.isEmpty &&
      fit.trainingRunIds.toFinset = partition.trainingRuns.toFinset &&
      !fit.trainingEventIds.isEmpty) "SPV1_FIT_TRAINING_CLOSURE_INVALID" fit.preprocessingId ++
    finding (fit.partitionId = partition.partitionId && fit.schemaId = partition.featureSchemaId)
      "SPV1_FIT_PARTITION_OR_SCHEMA_MISMATCH" fit.preprocessingId ++
    finding (fit.authorizationEffect = text "none") "SPV1_FIT_AUTHORIZATION_EFFECT"
      fit.preprocessingId ++
    finding (fit.identities.all (immutable resolver)) "SPV1_FIT_REFERENCE_UNRESOLVED"
      fit.preprocessingId

/-! ## Separation of the roles -/

/-- Validation, calibration or test. -/
def SyscallPartitionMember.HeldOut (member : SyscallPartitionMember) : Prop :=
  member.role ∈ [text "validation", text "calibration", text "test"]

instance : DecidablePred SyscallPartitionMember.HeldOut :=
  fun _ => inferInstanceAs (Decidable (_ ∈ _))

/-- No run that the fit trained on is the run of a member that is held out. -/
def Separated (partition : SyscallPartition) (fit : SyscallPreprocessingFit) : Prop :=
  ∀ runId ∈ fit.trainingRunIds, ∀ member ∈ partition.members, member.HeldOut →
    member.runId ≠ runId

/-- No eligible training member shares its run with a member of another role. -/
def TrainingRunsApart (partition : SyscallPartition) : Prop :=
  ∀ member ∈ partition.members, member.Trains → ∀ member' ∈ partition.members,
    member'.role ≠ text "train" → member'.runId ≠ member.runId

instance (partition : SyscallPartition) : Decidable (TrainingRunsApart partition) :=
  inferInstanceAs (Decidable (∀ member ∈ partition.members, _))

/-- The facts of an accepted partition. -/
theorem roles_of_accepted {partition : SyscallPartition} {resolver : ImmutableResolver}
    (h : (validateSyscallPartition partition resolver).accepted) :
    (partition.members.map (·.captureGroupId)).Nodup ∧
      ∀ member ∈ partition.members, member.role ∈ partitionRoles := by
  rw [validateSyscallPartition, accepted_iff] at h
  simp only [List.append_eq_nil_iff, List.flatMap_eq_nil_iff] at h
  obtain ⟨⟨-, hgroups⟩, hmembers⟩ := h
  refine ⟨?_, fun member hmember => ?_⟩
  · split_ifs at hgroups with hnodup
    · exact hnodup
    · rw [List.map_eq_nil_iff] at hgroups
      exact absurd (hgroups ▸ List.nodup_nil) hnodup
  · exact of_decide_eq_true (finding_eq_nil.mp (hmembers member hmember).1.1)

/-- An accepted fit trained on the training runs of an accepted partition. -/
theorem trainingRuns_of_accepted {fit : SyscallPreprocessingFit} {partition : SyscallPartition}
    {resolver : ImmutableResolver}
    (h : (validateSyscallPreprocessingFit fit partition resolver).accepted) :
    (validateSyscallPartition partition resolver).accepted ∧
      ∀ runId, runId ∈ fit.trainingRunIds ↔ ∃ member ∈ partition.members, member.Trains ∧
        member.runId = runId := by
  rw [validateSyscallPreprocessingFit, accepted_iff] at h
  simp only [List.append_eq_nil_iff, finding_eq_nil, Bool.and_eq_true, decide_eq_true_eq] at h
  obtain ⟨⟨⟨⟨hpartition, ⟨-, hruns⟩, -⟩, -⟩, -⟩, -⟩ := h
  refine ⟨hpartition, fun runId => ?_⟩
  rw [← List.mem_toFinset, hruns, List.mem_toFinset, SyscallPartition.trainingRuns, List.mem_map]
  simp only [List.mem_filter, decide_eq_true_eq, and_assoc]

/-- With the roles of an accepted partition, held out is another role than training. -/
theorem heldOut_iff {partition : SyscallPartition} {resolver : ImmutableResolver}
    (h : (validateSyscallPartition partition resolver).accepted) {member : SyscallPartitionMember}
    (hmember : member ∈ partition.members) : member.HeldOut ↔ member.role ≠ text "train" := by
  have hrole := (roles_of_accepted h).2 member hmember
  rw [partitionRoles, List.mem_cons] at hrole
  constructor
  · intro hheld heq
    rw [SyscallPartitionMember.HeldOut, heq] at hheld
    exact absurd hheld (by decide)
  · exact fun hne => hrole.resolve_left hne

/-- An accepted fit is separated from the other roles exactly when the partition keeps the runs of
its eligible training members apart. -/
theorem separated_iff {fit : SyscallPreprocessingFit} {partition : SyscallPartition}
    {resolver : ImmutableResolver}
    (h : (validateSyscallPreprocessingFit fit partition resolver).accepted) :
    Separated partition fit ↔ TrainingRunsApart partition := by
  obtain ⟨hpartition, hruns⟩ := trainingRuns_of_accepted h
  constructor
  · intro hseparated member hmember htrains member' hmember' hrole
    exact hseparated member.runId ((hruns _).mpr ⟨member, hmember, htrains, rfl⟩) member' hmember'
      ((heldOut_iff hpartition hmember').mpr hrole)
  · intro happart runId hrunId member' hmember' hheld
    obtain ⟨member, hmember, htrains, rfl⟩ := (hruns runId).mp hrunId
    exact happart member hmember htrains member' hmember'
      ((heldOut_iff hpartition hmember').mp hheld)

/-! ## A run in two capture groups -/

/-- A capture group of a run. -/
def sampleMember (run group : Fin 16) (role : String) : SyscallPartitionMember :=
  ⟨(sampleId run).val, text role, true, (sampleId 2).val, (sampleId 3).val, (sampleId 4).val,
    (sampleId 5).val, (sampleId 6).val, (sampleId group).val, [(sampleId 7).val]⟩

/-- Group 8 of run 0 for training, group 9 for testing. -/
def samplePartition (testRun : Fin 16) : SyscallPartition :=
  ⟨(sampleId 10).val, (sampleId 11).val, [], [sampleMember 0 8 "train",
    sampleMember testRun 9 "test"], text "none"⟩

def sampleFit : SyscallPreprocessingFit :=
  ⟨(sampleId 12).val, (sampleId 10).val, [(sampleId 0).val], [(sampleId 13).val],
    (sampleId 11).val, (sampleId 14).val, (sampleId 14).val, (sampleId 14).val, (sampleId 14).val,
    (sampleId 14).val, [], (sampleId 14).val, (sampleId 14).val, text "none"⟩

theorem sampleFit_separated : Separated (samplePartition 1) sampleFit := by
  have h : (validateSyscallPreprocessingFit sampleFit (samplePartition 1) fun _ => true).accepted :=
    by decide +kernel
  exact (separated_iff h).mpr (by decide +kernel)

/-- The fit trained on run 0, which is also tested. -/
theorem sharedRun_not_separated :
    (validateSyscallPreprocessingFit sampleFit (samplePartition 0) fun _ => true).accepted ∧
      ¬Separated (samplePartition 0) sampleFit := by
  refine ⟨by decide +kernel, fun h => ?_⟩
  exact h (sampleId 0).val (by decide +kernel) (sampleMember 0 9 "test") (by decide +kernel)
    (by decide +kernel) rfl

end TruthFingerprint.Evidence
