import Mathlib
import TruthFingerprint.Contracts.SignalObservation
import TruthFingerprint.Evidence.ConfigurationIdentity
import TruthFingerprint.Evidence.Records
import TruthFingerprint.Lib.Dict
import TruthFingerprint.Python.Equality

/-!
# Physical features

A schema names members of the observations of signals as features, and a row has the values of one
observation. A member is read before it is decided whether the feature is available
(`observedValue`), and a representation without a value does not have the member: the row is then
refused whatever the policy of the feature is (`buildPhysicalFeatures_followsPolicy_iff`).
-/

namespace TruthFingerprint.PhysicalFeatures

open Python
open Evidence (contains recordId Document)
open Evidence.Configuration (lower)

structure FeatureSchemaError where
  code : Text
  field : Text
  token : Text
deriving DecidableEq

abbrev Result (α : Type) := Except FeatureSchemaError α

def raise {α : Type} (code : String) (field : Text) (token : String) : Result α :=
  .error ⟨text code, field, text token⟩

def ensure (ok : Bool) (code : String) (field : Text) (token : String) : Result Unit :=
  if ok then .ok () else raise code field token

/-! ## Features -/

inductive Representation where
  | rawCurrent | normalizedSpan | engineeringValue | quality | temporal | operatingContext
deriving DecidableEq

def Representation.name : Representation → String
  | rawCurrent => "raw_current"
  | normalizedSpan => "normalized_span"
  | engineeringValue => "engineering_value"
  | quality => "quality"
  | temporal => "temporal"
  | operatingContext => "operating_context"

/-- `_SOURCES` -/
def Representation.sources : Representation → List String
  | rawCurrent => ["raw_current.value"]
  | normalizedSpan => ["normalized_span.value"]
  | engineeringValue => ["engineering_value.value"]
  | quality => ["quality_trace.outcome", "quality_trace.conversion_disposition", "diagnostics"]
  | temporal => ["source_timestamp", "observed_timestamp", "source_sequence"]
  | operatingContext => []

inductive DataType where
  | canonicalDecimal | canonicalUtc | positiveInteger | closedToken | diagnosticSet
deriving DecidableEq

def DataType.name : DataType → String
  | canonicalDecimal => "canonical_decimal"
  | canonicalUtc => "canonical_utc"
  | positiveInteger => "positive_integer"
  | closedToken => "closed_token"
  | diagnosticSet => "diagnostic_set"

inductive MissingnessPolicy where
  | forbid | explicitUnavailable
deriving DecidableEq

def MissingnessPolicy.name : MissingnessPolicy → String
  | forbid => "forbid"
  | explicitUnavailable => "explicit_unavailable"

inductive Availability where
  | available | excluded | unavailable
deriving DecidableEq

def Availability.name : Availability → String
  | available => "available"
  | excluded => "excluded"
  | unavailable => "unavailable"

def isLetter (c : CodePoint) : Bool := 0x61 ≤ c.val && c.val ≤ 0x7a

/-- The full match of `[a-z][a-z0-9_]*` -/
def isToken (t : Text) : Bool :=
  t.head?.any isLetter &&
    t.all fun c => isLetter c || JsonText.isDigit c || c = '_'.codePoint

def prohibited : List String :=
  ["truth", "label", "outcome", "intervention", "scenario", "decision", "fusion", "future"]

/-- `_token` -/
def checkToken (value : Text) (field : String) : Result Unit :=
  ensure (isToken value) "PFS2_SCHEMA" (text field) "closed_token_required"

/-- `_immutable` -/
def checkImmutable (value : Text) (field : String) : Result Unit :=
  ensure (isImmutableId value) "PFS2_AUTHORITY" (text field) "immutable_reference_required"

/-- `_safe` -/
def checkSafe (value : Text) (field : String) : Result Unit :=
  ensure (!prohibited.any fun word => contains (text word) (lower value)) "PFS2_TRUTH_ISOLATION"
    (text field) "prohibited_detector_content"

/-- What a feature is declared with -/
structure FeatureFields where
  name : Text
  sourceField : Text
  representation : Representation
  unit : Text
  dataType : DataType
  compatibleProfileIds : List Text
  missingnessPolicy : MissingnessPolicy
  parameterEvidenceReferences : List Text
  preprocessingId : Text
  availability : Availability

def contextPrefix : Text := text "operating_context."

/-- `FeatureDefinition.__post_init__` -/
def FeatureFields.check (feature : FeatureFields) : Result Unit := do
  checkToken feature.name "feature.name"
  checkSafe feature.name "feature.name"
  ensure (feature.sourceField ≠ []) "PFS2_SOURCE" (text "feature.source_field") "source_required"
  checkSafe feature.sourceField "feature.source_field"
  if feature.representation = .operatingContext then
    ensure (contextPrefix.isPrefixOf feature.sourceField &&
      feature.sourceField.count '.'.codePoint = 1) "PFS2_SOURCE" (text "feature.source_field")
      "operating_context_path_required"
  else
    ensure (feature.sourceField ∈ feature.representation.sources.map text) "PFS2_SOURCE"
      (text "feature.source_field") "representation_path_mismatch"
  ensure (feature.unit ≠ []) "PFS2_UNIT" (text "feature.unit") "unit_required"
  ensure (feature.representation = .operatingContext || feature.compatibleProfileIds ≠ [])
    "PFS2_PROFILE" (text "feature.compatible_profile_ids") "nonempty_required"
  ensure (feature.parameterEvidenceReferences ≠ []) "PFS2_AUTHORITY"
    (text "feature.parameter_evidence_references") "nonempty_required"
  for value in feature.compatibleProfileIds do
    checkImmutable value "feature.compatible_profile_ids"
  for value in feature.parameterEvidenceReferences do
    checkImmutable value "feature.parameter_evidence_references"
  checkImmutable feature.preprocessingId "feature.preprocessing_id"
  -- sorted, and no two are equal
  ensure (feature.compatibleProfileIds.Pairwise (· < ·) &&
    feature.parameterEvidenceReferences.Pairwise (· < ·)) "PFS2_CANONICAL"
    (text "feature.references") "ordered_unique_required"

structure FeatureDefinition extends FeatureFields where
  valid : toFeatureFields.check = .ok ()

/-! ## Schemas -/

def schemaVersion : String := "PhysicalFeatureSchema.v2"

def FeatureFields.document (feature : FeatureFields) : Document :=
  Document.record [("name", .str feature.name), ("source_field", .str feature.sourceField),
    ("representation", .str (text feature.representation.name)), ("unit", .str feature.unit),
    ("data_type", .str (text feature.dataType.name)),
    ("compatible_profile_ids", Document.texts feature.compatibleProfileIds),
    ("missingness_policy", .str (text feature.missingnessPolicy.name)),
    ("parameter_evidence_references", Document.texts feature.parameterEvidenceReferences),
    ("preprocessing_id", .str feature.preprocessingId),
    ("availability", .str (text feature.availability.name))]

/-- `physical_feature_schema_content_id` -/
def schemaContentId (schemaId version : Text) (features : List FeatureDefinition) : Text :=
  recordId <| Document.record [("schema_id", .str schemaId), ("version", .str version),
    ("schema_version", .str (text schemaVersion)),
    ("features", .arr (features.map (·.document)))]

/-- The full match of `v[1-9][0-9]*` -/
def isVersion (t : Text) : Bool :=
  t.head? = some 'v'.codePoint && DecimalText.isNatText t.tail && t.tail ≠ ['0'.codePoint]

/-- `FeatureSchema.__post_init__` -/
def checkSchema (schemaId version : Text) (features : List FeatureDefinition) (contentId : Text) :
    Result Unit := do
  checkToken schemaId "schema_id"
  ensure (isVersion version) "PFS2_SCHEMA" (text "version") "version_token_required"
  ensure (!features.isEmpty) "PFS2_SCHEMA" (text "features") "nonempty_required"
  ensure ((features.map (·.name)).Nodup) "PFS2_SCHEMA" (text "features") "unique_names_required"
  ensure (isImmutableId contentId) "PFS2_SCHEMA" (text "schema_content_id") "sha256_required"
  ensure (contentId = schemaContentId schemaId version features) "PFS2_SCHEMA"
    (text "schema_content_id") "digest_mismatch"

structure FeatureSchema where
  schemaId : Text
  version : Text
  features : List FeatureDefinition
  schemaContentId : Text
  valid : checkSchema schemaId version features schemaContentId = .ok ()

def references (feature : FeatureFields) : List Text :=
  feature.compatibleProfileIds ++ feature.parameterEvidenceReferences ++ [feature.preprocessingId]

/-- `validate_physical_feature_schema` -/
def validatePhysicalFeatureSchema (schema : FeatureSchema) (resolver : Text → Bool) : Result Unit :=
  ensure (schema.features.all fun feature => (references feature.toFeatureFields).all resolver)
    "PFS2_AUTHORITY" (text "feature.references") "unresolved_immutable_reference"

/-! ## Rows -/

structure OperatingContextValue where
  name : Text
  value : Option Text
  dataType : DataType
  unit : Text
  experimentSpecificationId : Text
  parameterEvidenceReferences : List Text

variable {F : Type}

structure FeatureValue (F : Type) where
  name : Text
  value : Option (Value F)
  availability : Availability
  sourceField : Text
  representation : Representation
  unit : Text
  dataType : DataType

structure PhysicalFeatureRow (F : Type) where
  schemaContentId : Text
  observationContentId : Text
  values : List (FeatureValue F)
  preprocessingIds : List Text

/-- The value of a feature, as the feature declares it -/
def FeatureFields.withValue (feature : FeatureFields) (value : Option (Value F))
    (availability : Availability) : FeatureValue F :=
  ⟨feature.name, value, availability, feature.sourceField, feature.representation, feature.unit,
    feature.dataType⟩

/-- `_value_at`, along the parts of a path -/
def valueAt (path : Text) (value : Value F) : List Text → Result (Value F)
  | [] => .ok value
  | part :: parts =>
    match value with
    | .obj members =>
      match members.lookup part with
      | some value => valueAt path value parts
      | none => raise "PFS2_SOURCE" path "canonical_source_missing"
    | _ => raise "PFS2_SOURCE" path "canonical_source_missing"

def textOf : Value F → Text
  | .str t => t
  | _ => []

/-- `_profile_closure_ids`, of a binding that has been checked -/
def profileClosureIds (profileBinding : Value F) : List Text :=
  let at' (keys : List String) : Text := textOf (nested profileBinding (keys.map text))
  let referenceIds (name : String) : List Text :=
    [at' [name, "revision_id"], at' [name, "serialized_sha256"]] ++
      match nested profileBinding [text name, text "subject_sha256"] with
      | .str subject => [subject]
      | _ => []
  let useIds (use : Value F) : List Text :=
    [textOf (nested use [text "target_bytes_hash"]),
      textOf (nested use [text "target_revision_ref", text "revision_id"]),
      textOf (nested use [text "target_revision_ref", text "serialized_sha256"])]
  [at' ["profile_id"], at' ["profile_canonical_bytes_hash"], at' ["catalog_snapshot_hash"]] ++
    ["profile_revision_ref", "catalog_snapshot_ref", "parameter_gate_result_ref"].flatMap
      referenceIds ++
    match nested profileBinding [text "consumed_parameters"] with
    | .arr uses => uses.flatMap useIds
    | _ => []

/-- The representations that have variants -/
def Representation.hasState : Representation → Bool
  | rawCurrent | normalizedSpan | engineeringValue => true
  | _ => false

def stateOf (payload : Members F) (feature : FeatureFields) : Value F :=
  nested (.obj payload) [text feature.representation.name, text "state"]

/-- The value of a feature of an observation, which is read before its state is -/
def observedValue (payload : Members F) (feature : FeatureFields) :
    Result (Option (Value F) × Availability) := do
  let raw ← valueAt feature.sourceField (.obj payload)
    (feature.sourceField.splitOn '.'.codePoint)
  let state := stateOf payload feature
  let present := !feature.representation.hasState || SignalObservation.isNull state ||
    SignalObservation.isText state "present" || SignalObservation.isText state "derived"
  .ok (some raw, if present then .available else .unavailable)

section Rows

variable (resolver : Text → Bool) (context : List (Text × OperatingContextValue))

/-- The value of a feature of the operating context -/
def contextValue (feature : FeatureFields) : Result (Option (Value F) × Availability) := do
  let key := feature.sourceField.drop contextPrefix.length
  match context.lookup key with
  | some supplied =>
    ensure (supplied.name = key) "PFS2_CONTEXT" feature.name "declared_context_missing"
    ensure (resolver supplied.experimentSpecificationId &&
        supplied.parameterEvidenceReferences.all resolver) "PFS2_AUTHORITY" feature.name
      "context_authority_unresolved"
    ensure (supplied.dataType = feature.dataType && supplied.unit = feature.unit) "PFS2_CONTEXT"
      feature.name "context_type_or_unit_mismatch"
    .ok (supplied.value.map .str, if supplied.value.isSome then .available else .unavailable)
  | none => raise "PFS2_CONTEXT" feature.name "declared_context_missing"

def buildFeature (payload : Members F) (profileId : Text) (feature : FeatureFields) :
    Result (FeatureValue F) :=
  if feature.availability ≠ .available then .ok (feature.withValue none feature.availability)
  else do
    ensure (feature.representation = .operatingContext ||
      profileId ∈ feature.compatibleProfileIds) "PFS2_PROFILE" feature.name "profile_incompatible"
    let (raw, availability) ←
      if feature.representation = .operatingContext then contextValue resolver context feature
      else observedValue payload feature
    ensure (!(availability ≠ .available && feature.missingnessPolicy = .forbid))
      "PFS2_MISSINGNESS" feature.name "required_feature_unavailable"
    .ok (feature.withValue (if availability = .available then raw else none) availability)

variable [FloatOps F]

def profileIdOf (payload : Members F) : Text :=
  textOf (nested (.obj payload) [text "profile_binding", text "profile_id"])

def buildPhysicalFeatures (observation : SignalObservation F) (schema : FeatureSchema) :
    Result (PhysicalFeatureRow F) := do
  validatePhysicalFeatureSchema schema resolver
  let payload := observation.payload
  ensure ((profileClosureIds (SignalObservation.get payload "profile_binding")).all resolver)
    "PFS2_AUTHORITY" (text "observation.profile_binding") "profile_closure_unresolved"
  let values ← schema.features.mapM fun feature =>
    buildFeature resolver context payload (profileIdOf payload) feature.toFeatureFields
  .ok ⟨schema.schemaContentId, textOf (SignalObservation.get payload "observation_content_id"),
    values, schema.features.map (·.preprocessingId)⟩

end Rows

/-! ## Reading a feature of an observation -/

section Reading

open SignalObservation (Readable HasVariant isText isText_inj)

variable {payload : Members F} {feature : FeatureFields}

theorem ensure_eq_ok {ok : Bool} {code : String} {field : Text} {token : String} {u : Unit} :
    ensure ok code field token = .ok u ↔ ok := by
  cases ok
  · simp [ensure, raise]
  · simp [ensure]

theorem sourceField_mem (feature : FeatureDefinition)
    (hcontext : feature.representation ≠ .operatingContext) :
    feature.sourceField ∈ feature.representation.sources.map text := by
  have h := feature.valid
  rw [FeatureFields.check] at h
  obtain ⟨_, -, h⟩ := Except.bind_eq_ok.mp h
  obtain ⟨_, -, h⟩ := Except.bind_eq_ok.mp h
  obtain ⟨_, -, h⟩ := Except.bind_eq_ok.mp h
  obtain ⟨_, -, h⟩ := Except.bind_eq_ok.mp h
  rw [if_neg hcontext] at h
  obtain ⟨_, hmem, -⟩ := Except.bind_eq_ok.mp h
  exact of_decide_eq_true (ensure_eq_ok.mp hmem)

theorem lookup_eq_get {name : String} (h : text name ∈ payload.map Prod.fst) :
    payload.lookup (text name) = some (SignalObservation.get payload name) := by
  obtain ⟨value, hvalue⟩ := Option.isSome_iff_exists.mp (Dict.lookup_isSome_iff.mpr h)
  rw [SignalObservation.get, Doc.get, hvalue]
  rfl

theorem valueAt_cons {path : Text} {name : String} {parts : List Text}
    (h : text name ∈ payload.map Prod.fst) :
    valueAt path (.obj payload) (text name :: parts) =
      valueAt path (SignalObservation.get payload name) parts := by
  rw [valueAt, lookup_eq_get h]

theorem valueAt_missing {path : Text} {name : String} {parts : List Text}
    (h : text name ∉ payload.map Prod.fst) :
    valueAt path (.obj payload) (text name :: parts) =
      raise "PFS2_SOURCE" path "canonical_source_missing" := by
  have hnone : payload.lookup (text name) = none := by
    rw [← Option.not_isSome_iff_eq_none, Dict.lookup_isSome_iff]
    exact h
  rw [valueAt, hnone]

theorem mem_of_readable (hreadable : Readable payload) {name : String} (h : name ∈ SignalObservation.fields) :
    text name ∈ payload.map Prod.fst :=
  hreadable.exactly.1 _ (List.mem_map.mpr ⟨name, h, rfl⟩)

/-- A feature that is read where its representation says why there is no value -/
def LacksSource (payload : Members F) (feature : FeatureFields) : Prop :=
  feature.availability = .available ∧ feature.representation.hasState ∧
    (isText (stateOf payload feature) "missing" ∨ isText (stateOf payload feature) "not_derived")

theorem hasVariant_of_hasState (hreadable : Readable payload)
    (hstate : feature.representation.hasState) :
    ∃ present absent, HasVariant (SignalObservation.get payload feature.representation.name) present
      absent ∧ ((present = "present" ∧ absent = "missing") ∨
        (present = "derived" ∧ absent = "not_derived")) := by
  cases hrepresentation : feature.representation with
  | rawCurrent => exact ⟨_, _, hreadable.rawCurrent, .inl ⟨rfl, rfl⟩⟩
  | normalizedSpan => exact ⟨_, _, hreadable.normalizedSpan, .inr ⟨rfl, rfl⟩⟩
  | engineeringValue => exact ⟨_, _, hreadable.engineeringValue, .inr ⟨rfl, rfl⟩⟩
  | _ =>
    rw [hrepresentation] at hstate
    cases hstate

theorem parts_of_hasState (hstate : feature.representation.hasState)
    (hmem : feature.sourceField ∈ feature.representation.sources.map text) :
    feature.sourceField.splitOn '.'.codePoint =
        [text feature.representation.name, text "value"] ∧
      feature.representation.name ∈ SignalObservation.fields := by
  cases hrepresentation : feature.representation with
  | rawCurrent | normalizedSpan | engineeringValue =>
    rw [hrepresentation] at hmem
    rw [List.mem_singleton.mp hmem]
    decide
  | _ =>
    rw [hrepresentation] at hstate
    cases hstate

/-- Reading a representation without a value raises before its state is looked at. -/
theorem observedValue_of_hasState (hreadable : Readable payload)
    (hstate : feature.representation.hasState)
    (hmem : feature.sourceField ∈ feature.representation.sources.map text) :
    ((isText (stateOf payload feature) "missing" ∨ isText (stateOf payload feature) "not_derived") ∧
      observedValue payload feature =
        raise "PFS2_SOURCE" feature.sourceField "canonical_source_missing") ∨
    (¬(isText (stateOf payload feature) "missing" ∨
        isText (stateOf payload feature) "not_derived") ∧
      ∃ value, valueAt feature.sourceField (.obj payload)
          (feature.sourceField.splitOn '.'.codePoint) = .ok value ∧
        observedValue payload feature = .ok (some value, .available)) := by
  obtain ⟨hparts, hfield⟩ := parts_of_hasState hstate hmem
  obtain ⟨present, absent, ⟨members, hmembers, hvariant⟩, hstates⟩ :=
    hasVariant_of_hasState hreadable hstate
  have hmemName := mem_of_readable hreadable hfield
  have hstateOf : stateOf payload feature = SignalObservation.get members "state" := by
    rw [stateOf, nested]
    change nested (SignalObservation.get payload feature.representation.name) _ = _
    rw [hmembers]
    rfl
  rw [hstateOf]
  rcases hvariant with ⟨hpresent, hvalue⟩ | ⟨habsent, hvalue⟩
  · right
    have hread : valueAt feature.sourceField (.obj payload)
        (feature.sourceField.splitOn '.'.codePoint) =
          .ok (SignalObservation.get members "value") := by
      rw [hparts, valueAt_cons hmemName, hmembers, valueAt_cons hvalue, valueAt]
    refine ⟨?_, _, hread, ?_⟩
    · rintro (hmissing | hmissing) <;> rcases hstates with ⟨rfl, -⟩ | ⟨rfl, -⟩ <;>
        exact absurd (isText_inj hpresent hmissing) (by decide)
    · rw [observedValue, hread, hstateOf]
      rcases hstates with ⟨rfl, -⟩ | ⟨rfl, -⟩ <;> simp [bind, Except.bind, hpresent]
  · left
    refine ⟨?_, ?_⟩
    · rcases hstates with ⟨-, rfl⟩ | ⟨-, rfl⟩
      · exact .inl habsent
      · exact .inr habsent
    · rw [observedValue, hparts, valueAt_cons hmemName, hmembers, valueAt_missing hvalue]
      rfl

/-- The parts of the other paths are there in every observation. -/
theorem valueAt_of_not_hasState (hreadable : Readable payload)
    (hstate : ¬feature.representation.hasState)
    (hmem : feature.sourceField ∈ feature.representation.sources.map text) :
    ∃ value, valueAt feature.sourceField (.obj payload)
      (feature.sourceField.splitOn '.'.codePoint) = .ok value := by
  obtain ⟨members, hmembers, houtcome, hdisposition⟩ := hreadable.qualityTrace
  have htop : ∀ name ∈ SignalObservation.fields, ∀ path, ∃ value,
      valueAt path (.obj payload) [text name] = .ok value := fun name hname path =>
    ⟨_, by rw [valueAt_cons (mem_of_readable hreadable hname), valueAt]⟩
  have htrace : ∀ name, text name ∈ members.map Prod.fst → ∀ path, ∃ value,
      valueAt path (.obj payload) [text "quality_trace", text name] = .ok value :=
    fun name hname path => ⟨_, by
      rw [valueAt_cons (mem_of_readable hreadable (by decide)), hmembers, valueAt_cons hname,
        valueAt]⟩
  cases hrepresentation : feature.representation with
  | rawCurrent | normalizedSpan | engineeringValue =>
    rw [hrepresentation] at hstate
    exact absurd rfl hstate
  | quality =>
    rw [hrepresentation, Representation.sources, List.map_cons, List.map_cons, List.map_cons,
      List.map_nil, List.mem_cons, List.mem_cons, List.mem_singleton] at hmem
    rcases hmem with h | h | h <;> rw [h]
    · exact htrace "outcome" houtcome _
    · exact htrace "conversion_disposition" hdisposition _
    · exact htop "diagnostics" (by decide) _
  | temporal =>
    rw [hrepresentation, Representation.sources, List.map_cons, List.map_cons, List.map_cons,
      List.map_nil, List.mem_cons, List.mem_cons, List.mem_singleton] at hmem
    rcases hmem with h | h | h <;> rw [h]
    · exact htop "source_timestamp" (by decide) _
    · exact htop "observed_timestamp" (by decide) _
    · exact htop "source_sequence" (by decide) _
  | operatingContext =>
    rw [hrepresentation] at hmem
    cases hmem

theorem observedValue_of_not_hasState (hreadable : Readable payload)
    (hstate : ¬feature.representation.hasState)
    (hmem : feature.sourceField ∈ feature.representation.sources.map text) :
    ∃ value, valueAt feature.sourceField (.obj payload)
        (feature.sourceField.splitOn '.'.codePoint) = .ok value ∧
      observedValue payload feature = .ok (some value, .available) := by
  obtain ⟨value, hvalue⟩ := valueAt_of_not_hasState hreadable hstate hmem
  refine ⟨value, hvalue, ?_⟩
  rw [observedValue, hvalue, Bool.eq_false_iff.mpr hstate]
  rfl

end Reading

/-! ## Policies -/

section Policies

open SignalObservation (Readable)

variable {resolver : Text → Bool} {context : List (Text × OperatingContextValue)}
  {payload : Members F} {profileId : Text}

/-- What is to be reported of a feature -/
structure Reported (payload : Members F) (feature : FeatureFields) (value : FeatureValue F) :
    Prop where
  name : value.name = feature.name
  declared : feature.availability ≠ .available →
    value = feature.withValue none feature.availability
  missing : LacksSource payload feature → value = feature.withValue none .unavailable
  observed : feature.availability = .available → feature.representation ≠ .operatingContext →
    ¬LacksSource payload feature → ∃ raw, valueAt feature.sourceField (.obj payload)
      (feature.sourceField.splitOn '.'.codePoint) = .ok raw ∧
        value = feature.withValue (some raw) .available

/-- A row is refused exactly when a feature without a value forbids it, and for nothing else. -/
structure FollowsPolicy (payload : Members F) (features : List FeatureDefinition)
    (result : Result (PhysicalFeatureRow F)) : Prop where
  refused : (∃ e, result = .error e ∧ e.code = text "PFS2_MISSINGNESS") ↔
    ∃ feature ∈ features, LacksSource payload feature.toFeatureFields ∧
      feature.missingnessPolicy = .forbid
  nothingElse : ∀ e, result = .error e → e.code = text "PFS2_MISSINGNESS"
  rows : ∀ row, result = .ok row → List.Forall₂
    (fun feature value => Reported payload feature.toFeatureFields value) features row.values

theorem buildFeature_name {feature : FeatureFields} {value : FeatureValue F}
    (h : buildFeature resolver context payload profileId feature = .ok value) :
    value.name = feature.name := by
  rw [buildFeature] at h
  split_ifs at h
  · cases h
    rfl
  all_goals
    obtain ⟨_, -, h⟩ := Except.bind_eq_ok.mp h
    obtain ⟨⟨raw, availability⟩, -, h⟩ := Except.bind_eq_ok.mp h
    obtain ⟨_, -, h⟩ := Except.bind_eq_ok.mp h
    cases h
    rfl

/-- A feature of an observation whose representation has no value refuses the row. -/
theorem buildFeature_of_lacksSource (hreadable : Readable payload) (feature : FeatureDefinition)
    (hcompatible : profileId ∈ feature.compatibleProfileIds)
    (hlacks : LacksSource payload feature.toFeatureFields) :
    buildFeature resolver context payload profileId feature.toFeatureFields =
      raise "PFS2_SOURCE" feature.sourceField "canonical_source_missing" := by
  obtain ⟨havailable, hstate, hmissing⟩ := hlacks
  have hcontext : feature.representation ≠ .operatingContext := by
    intro h
    rw [h] at hstate
    cases hstate
  rcases observedValue_of_hasState hreadable hstate (sourceField_mem feature hcontext) with
    ⟨-, herror⟩ | ⟨hpresent, -⟩
  · rw [buildFeature, if_neg (not_not.mpr havailable), if_neg hcontext, herror]
    simp [hcompatible, ensure, raise, bind, Except.bind]
  · exact absurd hmissing hpresent

theorem buildFeature_of_not_lacksSource (hreadable : Readable payload)
    (feature : FeatureDefinition) (hcompatible : feature.availability = .available →
      feature.representation ≠ .operatingContext → profileId ∈ feature.compatibleProfileIds)
    (hcontext : feature.availability = .available → feature.representation = .operatingContext →
      ∃ value, buildFeature resolver context payload profileId feature.toFeatureFields = .ok value)
    (hlacks : ¬LacksSource payload feature.toFeatureFields) :
    ∃ value, buildFeature resolver context payload profileId feature.toFeatureFields = .ok value ∧
      Reported payload feature.toFeatureFields value := by
  by_cases havailable : feature.availability = .available
  · by_cases hrepresentation : feature.representation = .operatingContext
    · obtain ⟨value, hvalue⟩ := hcontext havailable hrepresentation
      exact ⟨value, hvalue, buildFeature_name hvalue, fun h => absurd havailable h,
        fun h => absurd h hlacks, fun _ h => absurd hrepresentation h⟩
    · have hmem := sourceField_mem feature hrepresentation
      obtain ⟨raw, hraw, hobserved⟩ : ∃ raw, valueAt feature.sourceField (.obj payload)
          (feature.sourceField.splitOn '.'.codePoint) = .ok raw ∧
            observedValue payload feature.toFeatureFields = .ok (some raw, .available) := by
        by_cases hstate : feature.representation.hasState
        · rcases observedValue_of_hasState hreadable hstate hmem with
            ⟨hmissing, -⟩ | ⟨-, hobserved⟩
          · exact absurd ⟨havailable, hstate, hmissing⟩ hlacks
          · exact hobserved
        · exact observedValue_of_not_hasState hreadable hstate hmem
      refine ⟨feature.withValue (some raw) .available, ?_, rfl, fun h => absurd havailable h,
        fun h => absurd h hlacks, fun _ _ _ => ⟨raw, hraw, rfl⟩⟩
      rw [buildFeature, if_neg (not_not.mpr havailable), if_neg hrepresentation, hobserved]
      simp [hcompatible havailable hrepresentation, ensure, bind, Except.bind]
  · exact ⟨_, if_pos havailable, rfl, fun _ => rfl, fun h => absurd h.1 havailable,
      fun h => absurd h havailable⟩

/-- The policies of the features are followed exactly for the observations where no feature that is
read lacks its source. -/
theorem buildPhysicalFeatures_followsPolicy_iff [FloatOps F] (observation : SignalObservation F)
    (schema : FeatureSchema) (resolver : Text → Bool)
    (context : List (Text × OperatingContextValue))
    (hschema : validatePhysicalFeatureSchema schema resolver = .ok ())
    (hprofile : (profileClosureIds
      (SignalObservation.get observation.payload "profile_binding")).all resolver)
    (hcompatible : ∀ feature ∈ schema.features, feature.availability = .available →
      feature.representation ≠ .operatingContext →
        profileIdOf observation.payload ∈ feature.compatibleProfileIds)
    (hcontext : ∀ feature ∈ schema.features, feature.availability = .available →
      feature.representation = .operatingContext → ∃ value,
        buildFeature resolver context observation.payload (profileIdOf observation.payload)
          feature.toFeatureFields = .ok value) :
    FollowsPolicy observation.payload schema.features
        (buildPhysicalFeatures resolver context observation schema) ↔
      ∀ feature ∈ schema.features, ¬LacksSource observation.payload feature.toFeatureFields := by
  have hreadable := SignalObservation.readable_of_validate observation.valid
  let build (feature : FeatureDefinition) : Result (FeatureValue F) :=
    buildFeature resolver context observation.payload (profileIdOf observation.payload)
      feature.toFeatureFields
  let row (values : List (FeatureValue F)) : PhysicalFeatureRow F :=
    ⟨schema.schemaContentId,
      textOf (SignalObservation.get observation.payload "observation_content_id"), values,
      schema.features.map (·.preprocessingId)⟩
  have hbuild : buildPhysicalFeatures resolver context observation schema =
      (schema.features.mapM build >>= fun values => .ok (row values)) := by
    rw [buildPhysicalFeatures, hschema]
    change (ensure ((profileClosureIds _).all resolver) _ _ _ >>= fun _ => _) = _
    rw [hprofile]
    rfl
  have hlacking : ∀ feature ∈ schema.features,
      LacksSource observation.payload feature.toFeatureFields →
        build feature = raise "PFS2_SOURCE" feature.sourceField "canonical_source_missing" := by
    intro feature hfeature hlacks
    refine buildFeature_of_lacksSource hreadable feature
      (hcompatible feature hfeature hlacks.1 fun h => ?_) hlacks
    have hstate := hlacks.2.1
    rw [h] at hstate
    cases hstate
  have hreported : ∀ feature ∈ schema.features,
      ¬LacksSource observation.payload feature.toFeatureFields → ∃ value,
        build feature = .ok value ∧ Reported observation.payload feature.toFeatureFields value :=
    fun feature hfeature hlacks => buildFeature_of_not_lacksSource hreadable feature
      (hcompatible feature hfeature) (hcontext feature hfeature) hlacks
  rw [hbuild]
  constructor
  · intro hfollows feature hfeature hlacks
    cases hvalues : schema.features.mapM build with
    | ok values =>
      obtain ⟨value, hvalue⟩ := List.exists_of_mapM_eq_ok hvalues feature hfeature
      rw [hlacking feature hfeature hlacks] at hvalue
      cases hvalue
    | error e =>
      obtain ⟨culprit, hculprit, he⟩ := List.exists_of_mapM_eq_error hvalues
      have hcode := hfollows.nothingElse e (by rw [hvalues]; rfl)
      by_cases hculpritLacks : LacksSource observation.payload culprit.toFeatureFields
      · rw [hlacking culprit hculprit hculpritLacks] at he
        cases he
        change text "PFS2_SOURCE" = text "PFS2_MISSINGNESS" at hcode
        exact absurd hcode (by decide)
      · obtain ⟨value, hvalue, -⟩ := hreported culprit hculprit hculpritLacks
        rw [hvalue] at he
        cases he
  · intro hpresent
    obtain ⟨values, hvalues⟩ := List.exists_mapM_eq_ok fun feature hfeature => by
      obtain ⟨value, hvalue, -⟩ := hreported feature hfeature (hpresent feature hfeature)
      exact ⟨value, hvalue⟩
    have hrows := List.mapM_eq_ok_iff.mp hvalues
    rw [hvalues]
    refine ⟨⟨?_, ?_⟩, ?_, ?_⟩
    · rintro ⟨e, he, -⟩
      cases he
    · rintro ⟨feature, hfeature, hlacks, -⟩
      exact absurd hlacks (hpresent feature hfeature)
    · intro e he
      cases he
    · intro result hresult
      cases hresult
      have hmembers : List.Forall₂ (fun feature value => feature ∈ schema.features ∧
          build feature = .ok value) schema.features values :=
        (List.forall₂_and_left _ _).mpr ⟨fun _ h => h, hrows⟩
      refine hmembers.imp fun feature value ⟨hfeature, hvalue⟩ => ?_
      obtain ⟨expected, hexpected, hreport⟩ :=
        hreported feature hfeature (hpresent feature hfeature)
      rw [hvalue] at hexpected
      cases hexpected
      exact hreport

end Policies

/-! ## Two observations -/

section Samples

theorem checkSchema_contentId {schemaId version : Text} {features : List FeatureDefinition}
    (hschemaId : isToken schemaId) (hversion : isVersion version)
    (hne : features.isEmpty = false) (hnames : (features.map (·.name)).Nodup) :
    checkSchema schemaId version features (schemaContentId schemaId version features) = .ok () := by
  have hid : isImmutableId (schemaContentId schemaId version features) :=
    Evidence.isImmutableId_recordId _
  simp [checkSchema, checkToken, ensure, hschemaId, hversion, hne, hnames, hid, bind, Except.bind]

def sampleReference (n : Fin 16) : Value Unit :=
  Document.record [("revision_id", .str (sampleId n).val),
    ("serialized_sha256", .str (sampleId n).val), ("subject_sha256", .null),
    ("contract_id", .str (text "fixture")), ("contract_version", .str (text "v1")),
    ("locator", .str (text "fixture")), ("evidence_role", .str (text "fixture"))]

def sampleUses : Value Unit :=
  .arr [Document.record [("role", .str (text "fixture")),
    ("target_revision_ref", sampleReference 1), ("target_bytes_hash", .str (sampleId 1).val)]]

def unavailableSlot : Value Unit :=
  Document.record [("state", .str (text "unavailable")), ("reason", .str (text "fixture"))]

def notDerived (quantity unit : String) : Value Unit :=
  Document.record [("state", .str (text "not_derived")), ("quantity_kind", .str (text quantity)),
    ("unit", .str (text unit)), ("reason", .str (text "fault"))]

/-- An observation of a fault, without a numeric value, up to its current -/
def faultMembers (rawCurrent : Value Unit) : Members Unit :=
  [("contract_id", .str (text "SignalObservation")), ("schema_version", .num (.int 2)),
    ("schema_ref", sampleReference 2), ("record_role", .str (text "primary_per_edge")),
    ("audience_access_class", .str (text "detector_facing")), ("semantic_identity", .obj [])].map
      (fun m => (text m.1, m.2)) ++
  SignalObservation.identityFields.map (fun name => (text name, .str (sampleId 3).val)) ++
  [("source_sequence", .num (.int 1)),
    ("correlation", Document.record [("correlation_id", .str (sampleId 4).val),
      ("evidence_state", .str (text "unknown")), ("method", unavailableSlot),
      ("measured_uncertainty", unavailableSlot)]),
    ("source_timestamp", .str (text "2026-01-01T00:00:00.000000Z")),
    ("observed_timestamp", .str (text "2026-01-01T00:00:01.000000Z")),
    ("clock", Document.record [("source_clock_id", .str (sampleId 5).val),
      ("observed_clock_id", .str (sampleId 5).val), ("evidence_status", .str (text "unknown")),
      ("method", unavailableSlot), ("measured_offset", unavailableSlot),
      ("measured_uncertainty", unavailableSlot), ("qualification_policy", unavailableSlot)]),
    ("profile_binding", Document.record [("profile_id", .str (sampleId 6).val),
      ("profile_revision_ref", sampleReference 6),
      ("profile_canonical_bytes_hash", .str (sampleId 6).val),
      ("catalog_snapshot_ref", sampleReference 6), ("catalog_snapshot_hash", .str (sampleId 6).val),
      ("parameter_gate_result_ref", sampleReference 6), ("consumed_parameters", sampleUses)]),
    ("raw_current", rawCurrent), ("diagnostics", .arr []),
    ("quality_trace", Document.record [("outcome", .str (text "fault")),
      ("conversion_disposition", .str (text "no_numeric_value")), ("applied_rule_ids", .arr []),
      ("diagnostic_ids_used", .arr []), ("parameter_uses", sampleUses)]),
    ("normalized_span", notDerived "normalized_span" "one"),
    ("engineering_value", notDerived "fixture_quantity" "fixture_unit")].map
      fun m => (text m.1, m.2)

def missingCurrent : Value Unit :=
  Document.record [("state", .str (text "missing")), ("unit", .str (text "mA")),
    ("reason", .str (text "fault"))]

def presentCurrent : Value Unit :=
  Document.record [("state", .str (text "present")), ("unit", .str (text "mA")),
    ("value", .str (text "3.5"))]

def missingObservation : SignalObservation Unit where
  payload := SignalObservation.withContentId (faultMembers missingCurrent)
  valid := SignalObservation.validate_withContentId
    (Except.eq_ok_of_toOption (by decide +kernel)) (by decide +kernel) (by decide +kernel)

def presentObservation : SignalObservation Unit where
  payload := SignalObservation.withContentId (faultMembers presentCurrent)
  valid := SignalObservation.validate_withContentId
    (Except.eq_ok_of_toOption (by decide +kernel)) (by decide +kernel) (by decide +kernel)

def currentFeature : FeatureDefinition where
  name := text "current"
  sourceField := text "raw_current.value"
  representation := .rawCurrent
  unit := text "mA"
  dataType := .canonicalDecimal
  compatibleProfileIds := [(sampleId 6).val]
  missingnessPolicy := .explicitUnavailable
  parameterEvidenceReferences := [(sampleId 7).val]
  preprocessingId := (sampleId 8).val
  availability := .available
  valid := Except.eq_ok_of_toOption (by decide +kernel)

def currentSchema : FeatureSchema where
  schemaId := text "compressor_current"
  version := text "v2"
  features := [currentFeature]
  schemaContentId := schemaContentId (text "compressor_current") (text "v2") [currentFeature]
  valid := checkSchema_contentId (by decide +kernel) (by decide +kernel) rfl (by decide +kernel)

def refusal {α : Type} : Result α → Option FeatureSchemaError
  | .error e => some e
  | .ok _ => none

/-- A current that is missing refuses the row although its feature may be unavailable. -/
theorem missingObservation_not_followsPolicy :
    ¬FollowsPolicy missingObservation.payload currentSchema.features
      (buildPhysicalFeatures (fun _ => true) [] missingObservation currentSchema) := by
  intro h
  have hrefusal : (refusal (buildPhysicalFeatures (fun _ => true) [] missingObservation
      currentSchema)).map (·.code) = some (text "PFS2_SOURCE") := by
    decide +kernel
  cases hresult : buildPhysicalFeatures (fun _ => true) [] missingObservation currentSchema with
  | ok row =>
    rw [hresult] at hrefusal
    cases hrefusal
  | error e =>
    rw [hresult] at hrefusal
    have hcode := h.nothingElse e hresult
    change some e.code = _ at hrefusal
    rw [hcode] at hrefusal
    exact absurd hrefusal (by decide)

theorem presentObservation_followsPolicy :
    FollowsPolicy presentObservation.payload currentSchema.features
      (buildPhysicalFeatures (fun _ => true) [] presentObservation currentSchema) := by
  have hsingle : ∀ {P : FeatureDefinition → Prop}, P currentFeature →
      ∀ feature ∈ currentSchema.features, P feature := by
    intro P hP feature hfeature
    obtain rfl := List.mem_singleton.mp hfeature
    exact hP
  refine (buildPhysicalFeatures_followsPolicy_iff presentObservation currentSchema (fun _ => true)
    [] ?_ ?_ (hsingle fun _ _ => ?_) (hsingle fun _ h => ?_)).mpr (hsingle ?_)
  · exact Except.eq_ok_of_toOption (by decide +kernel)
  · decide +kernel
  · decide +kernel
  · cases h
  · rintro ⟨-, -, h⟩
    revert h
    decide +kernel

end Samples

end TruthFingerprint.PhysicalFeatures
