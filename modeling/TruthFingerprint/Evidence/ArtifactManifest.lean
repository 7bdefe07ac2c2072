import Mathlib
import TruthFingerprint.Evidence.DependencyClosure

/-!
# Artifact manifests

The validation of a manifest checks the record, its direct edges and, when it has a resolver, the
closure below each edge. An accepted manifest that faces the detector has no reference to the truth
at any depth, and below its direct targets none with a role that is not formal; the roles of the
targets themselves are not checked (`closure_untainted_iff`).
-/

namespace TruthFingerprint.Evidence

variable {F : Type}

structure ProvenanceEdge where
  relation : Text
  target : ImmutableReference
  expectedContractId : Text
  expectedContractVersion : Text
  expectedSubjectSha256 : Option Text
  expectedEvidenceRole : Text

structure ArtifactManifest (F : Type) where
  logicalArtifactId : Text
  manifestRevisionId : Text
  contentSha256 : Text
  byteSize : Int
  evidenceIdentity : List (Text × Python.Value F)
  accessClass : Text
  contractId : Text
  contractVersion : Text
  schemaId : Text
  schemaSha256 : Text
  mediaType : Text
  locator : Text
  createdAt : Text
  producerActivityId : Text
  producerAgentId : Text
  toolIdentity : Text
  codeIdentity : Text
  dependencyLockSha256 : Text
  runtimeIdentity : Text
  sourceUseIds : List Text
  provenanceEdges : List ProvenanceEdge
  limitations : List Text

/-! ## Documents of records -/

def recordOf (fields : List (String × Python.Value F)) : Python.Value F :=
  .obj (fields.map fun field => (text field.1, field.2))

def optionalText : Option Text → Python.Value F
  | none => .null
  | some t => .str t

def textsOf (ts : List Text) : Python.Value F := .arr (ts.map .str)

def ImmutableReference.toDict (reference : ImmutableReference) : Python.Value F :=
  recordOf [("revision_id", .str reference.revisionId),
    ("serialized_sha256", .str reference.serializedSha256),
    ("subject_sha256", optionalText reference.subjectSha256),
    ("contract_id", .str reference.contractId),
    ("contract_version", .str reference.contractVersion), ("locator", .str reference.locator),
    ("evidence_role", .str reference.evidenceRole)]

def ProvenanceEdge.toDict (edge : ProvenanceEdge) : Python.Value F :=
  recordOf [("relation", .str edge.relation), ("target", edge.target.toDict),
    ("expected_contract_id", .str edge.expectedContractId),
    ("expected_contract_version", .str edge.expectedContractVersion),
    ("expected_subject_sha256", optionalText edge.expectedSubjectSha256),
    ("expected_evidence_role", .str edge.expectedEvidenceRole)]

def ArtifactManifest.toDict (record : ArtifactManifest F) : Python.Value F :=
  recordOf [("logical_artifact_id", .str record.logicalArtifactId),
    ("manifest_revision_id", .str record.manifestRevisionId),
    ("content_sha256", .str record.contentSha256), ("byte_size", .num (.int record.byteSize)),
    ("evidence_identity", .obj record.evidenceIdentity), ("access_class", .str record.accessClass),
    ("contract_id", .str record.contractId), ("contract_version", .str record.contractVersion),
    ("schema_id", .str record.schemaId), ("schema_sha256", .str record.schemaSha256),
    ("media_type", .str record.mediaType), ("locator", .str record.locator),
    ("created_at", .str record.createdAt),
    ("producer_activity_id", .str record.producerActivityId),
    ("producer_agent_id", .str record.producerAgentId), ("tool_identity", .str record.toolIdentity),
    ("code_identity", .str record.codeIdentity),
    ("dependency_lock_sha256", .str record.dependencyLockSha256),
    ("runtime_identity", .str record.runtimeIdentity),
    ("source_use_ids", textsOf record.sourceUseIds),
    ("provenance_edges", .arr (record.provenanceEdges.map ProvenanceEdge.toDict)),
    ("limitations", textsOf record.limitations), ("authorization_effect", .str (text "none"))]

/-! ## Checks of the record -/

def accessClasses : List Text :=
  [text "detector_facing", text "evaluator_restricted", text "public_reference"]

def ArtifactManifest.detectorFacing (record : ArtifactManifest F) : Bool :=
  record.accessClass = text "detector_facing"

def accessCheck (record : ArtifactManifest F) : Check :=
  ⟨record.accessClass ∈ accessClasses, "MANIFEST-ACCESS-INVALID", "access_class",
    text "closed access class", record.accessClass,
    "Manifest roots use a closed audience vocabulary."⟩

def revisionCheck (record : ArtifactManifest F) (identity : Text) : Check :=
  ⟨record.manifestRevisionId = identity, "MANIFEST-REVISION-MISMATCH", "manifest_revision_id",
    identity, record.manifestRevisionId, "Revision must bind immutable fields."⟩

def timestampCheck (record : ArtifactManifest F) : Check :=
  ⟨isUtc record.createdAt, "MANIFEST-TIMESTAMP-INVALID", "created_at",
    text "YYYY-MM-DDTHH:MM:SS.ffffffZ", record.createdAt,
    "Creation time is a frozen lexical identity input."⟩

def locatorCheck (record : ArtifactManifest F) : Check :=
  ⟨immutableLocator record.locator, "MANIFEST-LOCATOR-MUTABLE", "locator",
    text "qualified immutable locator", record.locator,
    "Aliases and unsafe locators are forbidden."⟩

def lineageCheck (record : ArtifactManifest F) : Check :=
  ⟨[record.producerActivityId, record.producerAgentId, record.toolIdentity, record.codeIdentity,
      record.dependencyLockSha256, record.runtimeIdentity].all fun value => !value.isEmpty,
    "MANIFEST-PRODUCER-LINEAGE-INCOMPLETE", "producer_lineage",
    text "activity/agent/tool/code/lock/runtime identities", text "missing",
    "Formal artifacts require complete immutable producer lineage."⟩

def contentCheck (record : ArtifactManifest F) (content : Bytes) : Check :=
  ⟨(content.length : Int) = record.byteSize && bytesId content = record.contentSha256,
    "MANIFEST-CONTENT-HASH-MISMATCH", "content",
    Python.intText record.byteSize ++ text "|" ++ record.contentSha256,
    Python.intText content.length ++ text "|" ++ bytesId content,
    "Opaque bytes must match declaration."⟩

def digestCheck (record : ArtifactManifest F) : Check :=
  ⟨[record.contentSha256, record.schemaId, record.schemaSha256, record.codeIdentity,
      record.dependencyLockSha256].all isImmutableId,
    "MANIFEST-DIGEST-INVALID", "identity", text "lowercase sha256 digest", text "invalid",
    "Digest tokens are closed."⟩

def recordChecks (record : ArtifactManifest F) (content : Bytes) (identity : Text) : List Check :=
  [accessCheck record, revisionCheck record identity, timestampCheck record, locatorCheck record,
    lineageCheck record, contentCheck record content, digestCheck record]

/-! ## Checks of the edges -/

def provenanceCheck (edge : ProvenanceEdge) : Check :=
  ⟨edge.target.contractId = edge.expectedContractId &&
      edge.target.contractVersion = edge.expectedContractVersion &&
      (edge.expectedSubjectSha256 = none ||
        edge.target.subjectSha256 = edge.expectedSubjectSha256) &&
      edge.target.evidenceRole = edge.expectedEvidenceRole,
    "MANIFEST-PROVENANCE-MISMATCH", "provenance_edges",
    text "declared target contract/version/hash",
    edge.target.contractId ++ text "|" ++ edge.target.contractVersion,
    "Each typed edge binds the expected immutable target shape."⟩

def edgeTruthTaint (detectorFacing : Bool) (edge : ProvenanceEdge) : Check :=
  ⟨!(detectorFacing && edge.target.truthful), "MANIFEST-TRUTH-TAINT", "provenance_edges",
    text "no restricted truth dependency", edge.target.contractId,
    "Detector-facing roots cannot reference truth evidence."⟩

def sourceUseCheck (permitted : Option (List Text)) (sourceUseId : Text) : Check :=
  ⟨permitted.all (sourceUseId ∈ ·), "MANIFEST-SOURCE-USE-UNRESOLVED", "source_use_ids",
    text "registered Story 9.3 source use", sourceUseId,
    "Manifest validity never infers source or license lineage."⟩

/-! ## `validate_artifact_manifest` -/

variable [Python.FloatOps F]

def artifactManifestIdentity (record : ArtifactManifest F) : Option Text :=
  (canonicalManifestBytes { record with manifestRevisionId := [] }.toDict).map bytesId

/-- The checks that need no resolver, in their order -/
def ownChecks (record : ArtifactManifest F) (content : Bytes) (identity : Text)
    (permittedSourceUses : Option (List Text)) : List Check :=
  recordChecks record content identity ++
    (record.provenanceEdges.flatMap fun edge =>
      [provenanceCheck edge, edgeTruthTaint record.detectorFacing edge]) ++
    record.sourceUseIds.map (sourceUseCheck permittedSourceUses)

/-- The closures below all edges -/
def edgeClosures (depth : Nat) (record : ArtifactManifest F) :
    Option DependencyResolver → Option (List ManifestViolation)
  | none => some []
  | some resolver => collect
      (fun edge => validateDependencyClosure resolver record.detectorFacing depth edge.target)
      record.provenanceEdges

def validateArtifactManifest (depth : Nat) (record : ArtifactManifest F) (content : Bytes)
    (permittedSourceUses : Option (List Text)) (dependencyResolver : Option DependencyResolver) :
    Option (List ManifestViolation) := do
  let identity ← artifactManifestIdentity record
  let violations ← collect (·.run record.logicalArtifactId)
    (ownChecks record content identity permittedSourceUses)
  let closures ← edgeClosures depth record dependencyResolver
  some (sortViolations (violations ++ closures))

section Accepted

variable {depth : Nat} {record : ArtifactManifest F} {content : Bytes}
  {permittedSourceUses : Option (List Text)} {resolver : DependencyResolver}

/-- A manifest is accepted when all its checks hold and the closures are without violations. -/
theorem validateArtifactManifest_eq_nil {dependencyResolver : Option DependencyResolver} :
    validateArtifactManifest depth record content permittedSourceUses dependencyResolver =
        some [] ↔
      (∃ identity, artifactManifestIdentity record = some identity ∧
        ∀ check ∈ ownChecks record content identity permittedSourceUses, check.ok) ∧
      edgeClosures depth record dependencyResolver = some [] := by
  simp only [validateArtifactManifest, Option.bind_eq_bind, Option.bind_eq_some_iff,
    Option.some.injEq, sortViolations, insertionSort_eq_nil, List.append_eq_nil_iff]
  constructor
  · rintro ⟨identity, hidentity, _, hown, _, hclosures, rfl, rfl⟩
    refine ⟨⟨identity, hidentity, fun check hcheck => ?_⟩, hclosures⟩
    exact Check.run_eq_nil.mp (collect_eq_nil.mp hown check hcheck)
  · rintro ⟨⟨identity, hidentity, hchecks⟩, hclosures⟩
    have hown : collect (·.run record.logicalArtifactId)
        (ownChecks record content identity permittedSourceUses) = some [] :=
      collect_eq_nil.mpr fun check hcheck => Check.run_eq_nil.mpr (hchecks check hcheck)
    exact ⟨identity, hidentity, [], hown, [], hclosures, rfl, rfl⟩

/-- The references that a manifest has at some depth, the targets of its edges included -/
def InClosure (resolver : DependencyResolver) (record : ArtifactManifest F)
    (reference : ImmutableReference) : Prop :=
  ∃ edge ∈ record.provenanceEdges, Relation.ReflTransGen (DependsOn resolver) edge.target reference

/-- No direct target of an accepted manifest that faces the detector is truthful. -/
theorem target_not_truthful (hfacing : record.detectorFacing)
    (h : validateArtifactManifest depth record content permittedSourceUses (some resolver) =
      some []) {edge : ProvenanceEdge} (hedge : edge ∈ record.provenanceEdges) :
    ¬edge.target.truthful := by
  obtain ⟨⟨identity, -, hchecks⟩, -⟩ := validateArtifactManifest_eq_nil.mp h
  have hmem : edgeTruthTaint record.detectorFacing edge ∈
      ownChecks record content identity permittedSourceUses := by
    apply List.mem_append_left
    apply List.mem_append_right
    exact List.mem_flatMap.mpr ⟨edge, hedge, List.mem_cons_of_mem _ List.mem_cons_self⟩
  simpa [edgeTruthTaint, hfacing] using hchecks _ hmem

/-- What is below a direct target of an accepted manifest is untainted. -/
theorem below_untainted
    (h : validateArtifactManifest depth record content permittedSourceUses (some resolver) =
      some []) {edge : ProvenanceEdge} (hedge : edge ∈ record.provenanceEdges)
    {reference : ImmutableReference}
    (hbelow : Relation.TransGen (DependsOn resolver) edge.target reference) :
    Untainted record.detectorFacing reference := by
  obtain ⟨-, hclosures⟩ := validateArtifactManifest_eq_nil.mp h
  exact untainted_of_closure (collect_eq_nil.mp hclosures edge hedge) hbelow

/-- The closure of an accepted manifest that faces the detector is untainted at every depth exactly
when the roles of its direct targets are formal. -/
theorem closure_untainted_iff (hfacing : record.accessClass = text "detector_facing")
    (h : validateArtifactManifest depth record content permittedSourceUses (some resolver) =
      some []) :
    (∀ reference, InClosure resolver record reference →
      ¬reference.truthful ∧ ¬reference.nonformal) ↔
      ∀ edge ∈ record.provenanceEdges, ¬edge.target.nonformal := by
  have hfacing' : record.detectorFacing := decide_eq_true hfacing
  constructor
  · intro hclosure edge hedge
    exact (hclosure edge.target ⟨edge, hedge, .refl⟩).2
  · rintro hformal reference ⟨edge, hedge, hreached⟩
    rcases Relation.reflTransGen_iff_eq_or_transGen.mp hreached with rfl | hbelow
    · exact ⟨target_not_truthful hfacing' h hedge, hformal edge hedge⟩
    · exact below_untainted h hedge hbelow hfacing'

end Accepted

/-! ## A fixture that is accepted -/

/-- A reference with a role -/
def sampleReference (evidenceRole : String) : ImmutableReference :=
  ⟨(sampleId 1).val, (sampleId 2).val, none, text "sentinel.contract", text "v1",
    text "repo:sentinel/object", text evidenceRole⟩

/-- A manifest of no bytes without its identity, with one reference -/
def unsignedArtifact (evidenceRole : String) : ArtifactManifest Unit where
  logicalArtifactId := text "artifact:sentinel"
  manifestRevisionId := []
  contentSha256 := bytesId []
  byteSize := 0
  evidenceIdentity := []
  accessClass := text "detector_facing"
  contractId := text "sentinel.contract"
  contractVersion := text "v1"
  schemaId := (sampleId 4).val
  schemaSha256 := (sampleId 5).val
  mediaType := text "application/octet-stream"
  locator := text "repo:sentinel/object"
  createdAt := text "2026-09-08T12:00:00.000000Z"
  producerActivityId := text "activity:sentinel"
  producerAgentId := text "agent:sentinel"
  toolIdentity := text "tool:sentinel"
  codeIdentity := (sampleId 6).val
  dependencyLockSha256 := (sampleId 7).val
  runtimeIdentity := text "runtime:sentinel"
  sourceUseIds := []
  provenanceEdges := [⟨text "was_generated_by", sampleReference evidenceRole,
    text "sentinel.contract", text "v1", none, text evidenceRole⟩]
  limitations := []

def sampleArtifact (evidenceRole : String) : ArtifactManifest Unit :=
  { unsignedArtifact evidenceRole with
    manifestRevisionId :=
      bytesId (canonicalManifestText (unsignedArtifact evidenceRole).toDict).utf8 }

/-- A repository in which nothing depends on anything. -/
def sampleResolver : DependencyResolver := fun _ => some []

theorem isEncodable_sampleId (n : Fin 16) : isEncodable (sampleId n).val := by
  revert n
  decide +kernel

@[simp] theorem encodable_recordOf {fields : List (String × Python.Value F)} :
    Encodable (recordOf fields) ↔ ∀ field ∈ fields, Encodable field.2 := by
  simp only [Encodable, recordOf, Doc.all_obj, List.forall_mem_map, isEncodable_text, true_and]

@[simp] theorem encodable_str {s : Text} : Encodable (.str s : Python.Value F) ↔ isEncodable s :=
  Iff.rfl

theorem Encodable.null : Encodable (.null : Python.Value F) := trivial

theorem encodable_sampleReference (evidenceRole : String) :
    Encodable ((sampleReference evidenceRole).toDict : Python.Value F) := by
  simp [sampleReference, ImmutableReference.toDict, optionalText, isEncodable_sampleId,
    isEncodable_text, Encodable.null]

theorem encodable_unsignedArtifact (evidenceRole : String) :
    Encodable (unsignedArtifact evidenceRole).toDict := by
  have hedges : Encodable (.arr ((unsignedArtifact evidenceRole).provenanceEdges.map
      ProvenanceEdge.toDict) : Python.Value Unit) := by
    refine Doc.all_arr.mpr fun item hitem => ?_
    rw [List.mem_singleton.mp hitem]
    change Encodable _
    simp [ProvenanceEdge.toDict, optionalText, encodable_sampleReference, isEncodable_text,
      Encodable.null]
  have hsize : Encodable (.num (.int 0) : Python.Value Unit) := by decide +kernel
  have hobject : Encodable (.obj [] : Python.Value Unit) := trivial
  have htexts : Encodable (textsOf [] : Python.Value Unit) := trivial
  have hempty : isEncodable [] := rfl
  rw [ArtifactManifest.toDict, encodable_recordOf]
  simp only [List.forall_mem_cons, List.not_mem_nil, false_imp_iff, forall_true_iff, hedges]
  simp [unsignedArtifact, isEncodable_text, isEncodable_sampleId, isEncodable_bytesId, hsize,
    hobject, htexts, hempty]

/-- The checks of the sample hold. -/
theorem ownChecks_sampleArtifact (evidenceRole : String) :
    ∀ check ∈ ownChecks (sampleArtifact evidenceRole) []
      (sampleArtifact evidenceRole).manifestRevisionId none, check.ok := by
  have hutc : isUtc (text "2026-09-08T12:00:00.000000Z") := by decide +kernel
  have hlocator : immutableLocator (text "repo:sentinel/object") := by decide +kernel
  have hids (n : Fin 16) : isImmutableId (sampleId n).val := (sampleId n).property
  have hcontent : isImmutableId (bytesId []) := isImmutableId_sha256Id []
  intro check hcheck
  have hmem : check ∈ recordChecks (sampleArtifact evidenceRole) []
      (sampleArtifact evidenceRole).manifestRevisionId ++
      [provenanceCheck _, edgeTruthTaint true _] := hcheck
  simp only [recordChecks, List.mem_append, List.mem_cons, List.not_mem_nil, or_false] at hmem
  rcases hmem with (rfl | rfl | rfl | rfl | rfl | rfl | rfl) | rfl | rfl
  · change decide (text "detector_facing" ∈ accessClasses) = true
    decide
  · exact decide_eq_true rfl
  · exact hutc
  · exact hlocator
  · simp only [lineageCheck, sampleArtifact, unsignedArtifact, List.all_cons, List.all_nil]
    decide +kernel
  · simp [contentCheck, sampleArtifact, unsignedArtifact]
  · simp [digestCheck, sampleArtifact, unsignedArtifact, hids, hcontent]
  · simp [provenanceCheck, sampleReference]
  · simp only [edgeTruthTaint, ImmutableReference.truthful, sampleReference]
    decide

theorem sampleArtifact_accepted (evidenceRole : String) :
    validateArtifactManifest 1 (sampleArtifact evidenceRole) [] none (some sampleResolver) =
      some [] := by
  have hidentity : artifactManifestIdentity (sampleArtifact evidenceRole) =
      some (sampleArtifact evidenceRole).manifestRevisionId :=
    congrArg (Option.map bytesId) (if_pos (encodable_unsignedArtifact evidenceRole))
  refine validateArtifactManifest_eq_nil.mpr
    ⟨⟨_, hidentity, ownChecks_sampleArtifact evidenceRole⟩, collect_eq_nil.mpr ?_⟩
  intro edge hedge
  rw [List.mem_singleton.mp hedge]
  exact closure_leaf (sampleId 1).property (sampleId 2).property rfl

/-- A manifest that faces the detector is accepted although it refers to a fixture. -/
theorem fixture_accepted :
    validateArtifactManifest 1 (sampleArtifact "fixture_test") [] none (some sampleResolver) =
        some [] ∧
      ∃ reference, InClosure sampleResolver (sampleArtifact "fixture_test") reference ∧
        reference.nonformal :=
  ⟨sampleArtifact_accepted _, sampleReference "fixture_test", ⟨_, List.mem_cons_self, .refl⟩,
    by decide⟩

/-- The closure of a manifest with a formal reference -/
theorem sampleArtifact_untainted :
    InClosure sampleResolver (sampleArtifact "custom_generated")
        (sampleReference "custom_generated") ∧
      ∀ reference, InClosure sampleResolver (sampleArtifact "custom_generated") reference →
        ¬reference.truthful ∧ ¬reference.nonformal := by
  have hformal : ∀ edge ∈ (sampleArtifact "custom_generated").provenanceEdges,
      ¬edge.target.nonformal := by
    intro edge hedge
    rw [List.mem_singleton.mp hedge]
    decide
  refine ⟨⟨_, List.mem_cons_self, .refl⟩, ?_⟩
  exact (closure_untainted_iff rfl (sampleArtifact_accepted _)).mpr hformal

end TruthFingerprint.Evidence
