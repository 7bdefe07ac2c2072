import Mathlib
import TruthFingerprint.Identity
import TruthFingerprint.Lib.Dict
import TruthFingerprint.Lib.Loops
import TruthFingerprint.Python.Coercions

/-!
# Observations of signals

The checks of the contract `SignalObservation.v2`, on the members of a payload. The variant of a
representation decides which members it has. A membership test in a set hashes its operand first,
which fails with a `TypeError` on a list or an object.
-/

namespace TruthFingerprint

open Python

namespace SignalObservation

/-- `SignalObservationViolation` -/
structure Violation where
  family : Text
  field : Text
  token : Text
deriving DecidableEq

abbrev Checked (α : Type) := Except (Raised Violation) α

def violated {α : Type} (family : String) (field : Text) (token : String) : Checked α :=
  .error (.declared ⟨text family, field, text token⟩)

/-- A check that raises a violation where it fails -/
def ensure (ok : Bool) (family : String) (field : Text) (token : String) : Checked Unit :=
  if ok then .ok () else violated family field token

def field (name : String) : Text := text name

/-- The path of a member -/
def under (path : Text) (name : String) : Text := path ++ text "." ++ text name

variable {F : Type}

/-! ## Values -/

def get (members : Members F) (name : String) : Value F := Doc.get members (text name)

def isText (value : Value F) (s : String) : Bool :=
  match value with
  | .str t => t = text s
  | _ => false

def nonemptyText : Value F → Bool
  | .str t => t ≠ []
  | _ => false

/-- `value in {token, ...}` -/
def isOneOf (value : Value F) (tokens : List String) : Checked Bool :=
  match value with
  | .arr _ | .obj _ => .error .typeError
  | .str t => .ok (tokens.any fun token => t = text token)
  | _ => .ok false

/-- `canonical_decimal` -/
def canonicalDecimal (value : Value F) : Checked Text :=
  match value with
  | .str t =>
    if !DecimalText.isDecimal t then
      violated "SOV2_RAW_CURRENT_PRIMARY" (field "value") "canonical_decimal_required"
    else if DecimalText.decimalValue t = 0 ∧ t.head? = some '-'.codePoint then
      violated "SOV2_RAW_CURRENT_PRIMARY" (field "value") "noncanonical_decimal"
    else .ok t
  | _ => violated "SOV2_RAW_CURRENT_PRIMARY" (field "value") "canonical_decimal_required"

/-- `_object` -/
def object (value : Value F) (fields : List String) (path : Text) (family : String) :
    Checked (Members F) :=
  match value with
  | .obj members =>
    if Doc.HasExactly members (fields.map text) then .ok members
    else violated family path "closed_fields_required"
  | _ => violated family path "closed_fields_required"

/-- A mapping whose variant is one of the states -/
def variant (value : Value F) (key : String) (states : List String) (path : Text)
    (family token : String) : Checked (Members F) :=
  match value with
  | .obj members => do
    let known ← isOneOf (get members key) states
    ensure known family path token
    .ok members
  | _ => violated family path token

/-- `_opaque_id` -/
def opaqueId (value : Value F) (path : Text) (family : String) : Checked Text :=
  match value with
  | .str t =>
    if isImmutableId t then .ok t else violated family path "resolved_immutable_id_required"
  | _ => violated family path "resolved_immutable_id_required"

def referenceFields : List String :=
  ["revision_id", "serialized_sha256", "subject_sha256", "contract_id", "contract_version",
    "locator", "evidence_role"]

def isNull : Value F → Bool
  | .null => true
  | _ => false

/-- `_reference` -/
def reference (value : Value F) (path : Text) : Checked (Members F) := do
  let ref ← object value referenceFields path "SOV2_PROFILE_REFERENCE"
  for name in ["revision_id", "serialized_sha256"] do
    let _ ← opaqueId (get ref name) (under path name) "SOV2_PROFILE_REFERENCE"
  if !isNull (get ref "subject_sha256") then
    let _ ← opaqueId (get ref "subject_sha256") (under path "subject_sha256")
      "SOV2_PROFILE_REFERENCE"
  ensure (["contract_id", "contract_version", "locator", "evidence_role"].all fun name =>
    nonemptyText (get ref name)) "SOV2_PROFILE_REFERENCE" path "immutable_reference_required"
  .ok ref

/-- An item of `_parameter_uses`, by what the items are ordered by -/
def parameterUse (path : Text) (value : Value F) : Checked (Text ×ₗ Text ×ₗ Text) := do
  let use ← object value ["role", "target_revision_ref", "target_bytes_hash"] path
    "SOV2_PARAMETER_CLOSURE"
  match get use "role" with
  | .str role =>
    ensure (role ≠ []) "SOV2_PARAMETER_CLOSURE" path "role_required"
    let target ← reference (get use "target_revision_ref") (under path "target_revision_ref")
    let revision ← opaqueId (get target "revision_id")
      (under (under path "target_revision_ref") "revision_id") "SOV2_PROFILE_REFERENCE"
    let hash ← opaqueId (get use "target_bytes_hash") (under path "target_bytes_hash")
      "SOV2_PARAMETER_CLOSURE"
    .ok (toLex (role, toLex (revision, hash)))
  | _ => violated "SOV2_PARAMETER_CLOSURE" path "role_required"

/-- `_parameter_uses` -/
def parameterUses (value : Value F) (path : Text) : Checked Unit :=
  match value with
  | .arr items => do
    ensure (!items.isEmpty) "SOV2_PARAMETER_CLOSURE" path "nonempty_array_required"
    let keys ← items.mapM (parameterUse path)
    -- sorted, and no two are equal
    ensure (keys.Pairwise (· < ·)) "SOV2_PARAMETER_CLOSURE" path "canonical_unique_order_required"
  | _ => violated "SOV2_PARAMETER_CLOSURE" path "nonempty_array_required"

/-! ## Representations -/

/-- `_raw` -/
def raw (value : Value F) : Checked Unit := do
  let members ← variant value "state" ["present", "missing"] (field "raw_current")
    "SOV2_RAW_CURRENT_PRIMARY" "closed_variant_required"
  let present := isText (get members "state") "present"
  let _ ← object value (if present then ["state", "unit", "value"] else ["state", "unit", "reason"])
    (field "raw_current") "SOV2_RAW_CURRENT_PRIMARY"
  ensure (isText (get members "unit") "mA") "SOV2_UNIT_QUANTITY" (field "raw_current.unit")
    "ma_required"
  if present then
    let _ ← canonicalDecimal (get members "value")
  else
    ensure (nonemptyText (get members "reason")) "SOV2_RAW_CURRENT_PRIMARY"
      (field "raw_current.reason") "closed_reason_required"

def derivationFields : List String :=
  ["direction", "transform_revision_ref", "profile_revision_ref", "input_representation",
    "output_representation", "parameter_uses"]

/-- The value is this text. -/
def isValue (value : Value F) (t : Text) : Bool :=
  match value with
  | .str s => s = t
  | _ => false

/-- `_representation` -/
def representation (value : Value F) (name : String) (quantity unit : Text) : Checked Unit := do
  let path := field name
  let members ← variant value "state" ["derived", "not_derived"] path
    "SOV2_REPRESENTATION_RECOMPUTE" "closed_variant_required"
  let derived := isText (get members "state") "derived"
  let _ ← object value
    (if derived then ["state", "value", "quantity_kind", "unit", "derivation"]
      else ["state", "quantity_kind", "unit", "reason"]) path "SOV2_REPRESENTATION_RECOMPUTE"
  ensure (isValue (get members "quantity_kind") quantity && isValue (get members "unit") unit)
    "SOV2_UNIT_QUANTITY" path "profile_quantity_unit_required"
  if derived then
    let _ ← canonicalDecimal (get members "value")
    let derivation ← object (get members "derivation") derivationFields (under path "derivation")
      "SOV2_REPRESENTATION_RECOMPUTE"
    for ref in ["transform_revision_ref", "profile_revision_ref"] do
      let _ ← reference (get derivation ref) (under (under path "derivation") ref)
    parameterUses (get derivation "parameter_uses")
      (under (under path "derivation") "parameter_uses")
  else
    ensure (nonemptyText (get members "reason")) "SOV2_REPRESENTATION_RECOMPUTE" path
      "closed_reason_required"

/-! ## Quality -/

/-- Texts that are not empty and without repetition -/
def orderedUniqueIds (value : Value F) : Bool :=
  match value with
  | .arr items => items.all nonemptyText && (items.filterMap fun
      | .str t => some t
      | _ => none).Nodup
  | _ => false

/-- `_trace` -/
def trace (value : Value F) : Checked Text := do
  let members ← object value
    ["outcome", "conversion_disposition", "applied_rule_ids", "diagnostic_ids_used",
      "parameter_uses"] (field "quality_trace") "SOV2_QUALITY_RECOMPUTE"
  let known ← isOneOf (get members "outcome")
    ["in_range", "under_range", "over_range", "missing", "uncertain", "fault"]
  ensure known "SOV2_QUALITY_RECOMPUTE" (field "quality_trace") "unknown_quality_token"
  let known ← isOneOf (get members "conversion_disposition") ["convert", "no_numeric_value"]
  ensure known "SOV2_QUALITY_RECOMPUTE" (field "quality_trace") "unknown_quality_token"
  for name in ["applied_rule_ids", "diagnostic_ids_used"] do
    ensure (orderedUniqueIds (get members name)) "SOV2_QUALITY_RECOMPUTE"
      (under (field "quality_trace") name) "ordered_unique_ids_required"
  parameterUses (get members "parameter_uses") (field "quality_trace.parameter_uses")
  .ok (if isText (get members "conversion_disposition") "convert" then text "convert"
    else text "no_numeric_value")

/-- The value of a diagnostic that is present -/
def diagnosticValue (kind value : Value F) : Checked Unit :=
  if isText kind "canonical_decimal" then do
    let _ ← canonicalDecimal value
  else if isText kind "canonical_integer" then
    match value with
    | .num (.int i) => ensure (0 ≤ i) "SOV2_QUALITY_RECOMPUTE" (field "diagnostics.value")
        "canonical_integer_required"
    | _ => violated "SOV2_QUALITY_RECOMPUTE" (field "diagnostics.value")
        "canonical_integer_required"
  else if isText kind "boolean" then
    match value with
    | .bool _ => .ok ()
    | _ => violated "SOV2_QUALITY_RECOMPUTE" (field "diagnostics.value") "boolean_required"
  else ensure (nonemptyText value) "SOV2_QUALITY_RECOMPUTE" (field "diagnostics.value")
    "closed_token_required"

/-- An item of `_diagnostics`, by its identity -/
def diagnostic (value : Value F) : Checked Text := do
  let members ← variant value "value_state" ["present", "missing"] (field "diagnostics")
    "SOV2_QUALITY_RECOMPUTE" "closed_variant_required"
  let present := isText (get members "value_state") "present"
  let _ ← object value
    ["diagnostic_id", "value_state", "value_type", "unit_binding",
      if present then "value" else "reason"] (field "diagnostics") "SOV2_QUALITY_RECOMPUTE"
  let known ← isOneOf (get members "value_type")
    ["boolean", "canonical_decimal", "canonical_integer", "closed_token"]
  match known, get members "diagnostic_id" with
  | true, .str diagnosticId =>
    if present then diagnosticValue (get members "value_type") (get members "value")
    .ok diagnosticId
  | _, _ => violated "SOV2_QUALITY_RECOMPUTE" (field "diagnostics") "diagnostic_token_required"

/-- `_diagnostics` -/
def diagnostics (value : Value F) : Checked Unit :=
  match value with
  | .arr items => do
    let ids ← items.mapM diagnostic
    ensure (ids.Pairwise (· < ·)) "SOV2_QUALITY_RECOMPUTE" (field "diagnostics")
      "canonical_unique_order_required"
  | _ => violated "SOV2_QUALITY_RECOMPUTE" (field "diagnostics") "array_required"

/-! ## Correlation and clock -/

/-- The slot that says why there is nothing -/
def unavailableSlot (value : Value F) (path : Text) (family : String) : Checked Unit := do
  let members ← object value ["state", "reason"] path family
  ensure (nonemptyText (get members "reason")) family path "closed_reason_required"

/-- `_reference_slot` -/
def referenceSlot (value : Value F) (path : Text) (family : String) : Checked Bool := do
  let members ← variant value "state" ["present", "unavailable"] path family "closed_slot_required"
  if isText (get members "state") "present" then
    let _ ← object value ["state", "reference"] path family
    let _ ← reference (get members "reference") (under path "reference")
    return true
  unavailableSlot value path family
  return false

/-- `_measurement_slot` -/
def measurementSlot (value : Value F) (path : Text) (family : String) : Checked Bool := do
  let members ← variant value "state" ["present", "unavailable"] path family "closed_slot_required"
  if isText (get members "state") "present" then
    let _ ← object value ["state", "value", "unit", "evidence_ref"] path family
    let _ ← canonicalDecimal (get members "value")
    let _ ← reference (get members "evidence_ref") (under path "evidence_ref")
    ensure (nonemptyText (get members "unit")) family path "unit_required"
    return true
  unavailableSlot value path family
  return false

/-- The measured uncertainty of a correlation, as whether it is unavailable -/
def correlationUncertainty (value : Value F) : Checked Bool := do
  let family := "SOV2_CORRELATION_EVIDENCE"
  let path := field "correlation.measured_uncertainty"
  let members ← variant value "state" ["present", "not_applicable", "unavailable"] path family
    "closed_slot_required"
  if isText (get members "state") "present" then
    let _ ← object value ["state", "value", "unit", "evidence_ref"] path family
    let _ ← canonicalDecimal (get members "value")
    let _ ← reference (get members "evidence_ref") (under path "evidence_ref")
    return false
  if isText (get members "state") "not_applicable" then
    let _ ← object value ["state", "policy_ref", "reason"] path family
    let _ ← reference (get members "policy_ref") (under path "policy_ref")
    return false
  let _ ← object value ["state", "reason"] path family
  return true

/-- `_correlation` -/
def correlation (value : Value F) : Checked Unit := do
  let family := "SOV2_CORRELATION_EVIDENCE"
  let item ← object value ["correlation_id", "evidence_state", "method", "measured_uncertainty"]
    (field "correlation") family
  let _ ← opaqueId (get item "correlation_id") (field "correlation.correlation_id") family
  let methodPresent ← referenceSlot (get item "method") (field "correlation.method") family
  let unavailable ← correlationUncertainty (get item "measured_uncertainty")
  let known ← isOneOf (get item "evidence_state") ["evidence_present", "unresolved", "unknown"]
  let compatible :=
    if isText (get item "evidence_state") "evidence_present" then methodPresent && !unavailable
    else if isText (get item "evidence_state") "unresolved" then methodPresent && unavailable
    else !methodPresent && unavailable
  ensure (known && compatible) family (field "correlation") "incompatible_evidence_state"

/-- `_clock` -/
def clock (value : Value F) : Checked Unit := do
  let family := "SOV2_TIMESTAMP_CLOCK"
  let item ← object value
    ["source_clock_id", "observed_clock_id", "evidence_status", "method", "measured_offset",
      "measured_uncertainty", "qualification_policy"] (field "clock") family
  for name in ["source_clock_id", "observed_clock_id"] do
    let _ ← opaqueId (get item name) (under (field "clock") name) family
  let method ← referenceSlot (get item "method") (field "clock.method") family
  let offset ← measurementSlot (get item "measured_offset") (field "clock.measured_offset") family
  let uncertainty ← measurementSlot (get item "measured_uncertainty")
    (field "clock.measured_uncertainty") family
  let policy ← referenceSlot (get item "qualification_policy") (field "clock.qualification_policy")
    family
  let status := get item "evidence_status"
  let known ← isOneOf status ["qualified", "unqualified", "unresolved", "unknown"]
  let compatible :=
    if isText status "unknown" then !(method || offset || uncertainty || policy)
    else if isText status "unresolved" then method
    else method && policy
  ensure (known && compatible) family (field "clock.evidence_status") "incompatible_clock_state"

/-! ## The record -/

/-- `_profile_binding` -/
def profileBinding (value : Value F) : Checked Unit := do
  let path := field "profile_binding"
  let item ← object value
    ["profile_id", "profile_revision_ref", "profile_canonical_bytes_hash", "catalog_snapshot_ref",
      "catalog_snapshot_hash", "parameter_gate_result_ref", "consumed_parameters"] path
    "SOV2_PROFILE_REFERENCE"
  let _ ← opaqueId (get item "profile_id") (under path "profile_id") "SOV2_PROFILE_REFERENCE"
  for name in ["profile_revision_ref", "catalog_snapshot_ref", "parameter_gate_result_ref"] do
    let _ ← reference (get item name) (under path name)
  for name in ["profile_canonical_bytes_hash", "catalog_snapshot_hash"] do
    let _ ← opaqueId (get item name) (under path name) "SOV2_PROFILE_REFERENCE"
  parameterUses (get item "consumed_parameters") (under path "consumed_parameters")

/-- The full match of `\d{4}-\d{2}-\d{2}T\d{2}:\d{2}:\d{2}\.\d{6}Z`: a zero of the template is a
digit -/
def isCanonicalUtc (value : Value F) : Bool :=
  let template := text "0000-00-00T00:00:00.000000Z"
  match value with
  | .str t => t.length = template.length && (t.zip template).all fun (c, slot) =>
      if slot = '0'.codePoint then isDecimal c else c = slot
  | _ => false

def identityFields : List String :=
  ["experiment_id", "run_id", "round_id", "edge_id", "sensor_id", "source_stream_id",
    "source_boot_id", "source_session_id", "event_id"]

def fields : List String :=
  ["contract_id", "schema_version", "schema_ref", "record_role", "audience_access_class",
    "semantic_identity"] ++ identityFields ++
  ["source_sequence", "correlation", "source_timestamp", "observed_timestamp", "clock",
    "profile_binding", "raw_current", "diagnostics", "quality_trace", "normalized_span",
    "engineering_value", "observation_content_id"]

/-- The first member that is unknown, if one is -/
def unknownMember (payload : Members F) : Text :=
  ((payload.map Prod.fst).find? (· ∉ fields.map text)).getD (text "missing_field")

def isMapping : Value F → Bool
  | .obj _ => true
  | _ => false

/-- A positive integer, where a boolean is none -/
def isPositive : Value F → Bool
  | .num (.int i) => 0 < i
  | _ => false

/-- The kind and the unit of the engineering value -/
def engineeringUnit (value : Value F) : Option (Text × Text) :=
  match value with
  | .obj members =>
    match get members "quantity_kind", get members "unit" with
    | .str quantity, .str unit => some (quantity, unit)
    | _, _ => none
  | _ => none

def stateIs (payload : Members F) (name state : String) : Bool :=
  match get payload name with
  | .obj members => isText (get members "state") state
  | _ => false

/-- The checks of `_validate` before those of the identity -/
def validateMembers (payload : Members F) : Checked Unit := do
  ensure (Doc.HasExactly payload (fields.map text)) "SOV2_SCHEMA_VERSION_TOKEN"
    (unknownMember payload) "closed_top_level_fields_required"
  let version : Bool := match get payload "schema_version" with
    | .num (.int i) => i = 2
    | _ => false
  ensure (isText (get payload "contract_id") "SignalObservation" && version)
    "SOV2_SCHEMA_VERSION_TOKEN" (field "contract_id") "signal_observation_v2_required"
  let _ ← reference (get payload "schema_ref") (field "schema_ref")
  ensure (isText (get payload "record_role") "primary_per_edge") "SOV2_RECORD_ROLE"
    (field "record_role") "primary_per_edge_required"
  ensure (isText (get payload "audience_access_class") "detector_facing") "SOV2_AUDIENCE_IDENTITY"
    (field "audience_access_class") "detector_facing_required"
  ensure (isMapping (get payload "semantic_identity")) "SOV2_SEMANTIC_ROLE"
    (field "semantic_identity") "structured_identity_required"
  for key in identityFields do
    let _ ← opaqueId (get payload key) (field key) "SOV2_IDENTITY"
  ensure (isPositive (get payload "source_sequence")) "SOV2_SEQUENCE" (field "source_sequence")
    "positive_integer_required"
  for key in ["source_timestamp", "observed_timestamp"] do
    ensure (isCanonicalUtc (get payload key)) "SOV2_TIMESTAMP_CLOCK" (field key)
      "canonical_utc_required"
  raw (get payload "raw_current")
  diagnostics (get payload "diagnostics")
  let disposition ← trace (get payload "quality_trace")
  representation (get payload "normalized_span") "normalized_span" (text "normalized_span")
    (text "one")
  match engineeringUnit (get payload "engineering_value") with
  | none =>
    violated "SOV2_UNIT_QUANTITY" (field "engineering_value") "profile_quantity_unit_required"
  | some (quantity, unit) =>
    representation (get payload "engineering_value") "engineering_value" quantity unit
  ensure (!(disposition = text "convert" && !(stateIs payload "normalized_span" "derived" &&
      stateIs payload "engineering_value" "derived"))) "SOV2_REPRESENTATION_RECOMPUTE"
    (field "representation") "convert_requires_derived"
  ensure (!(disposition = text "no_numeric_value" &&
      !(stateIs payload "normalized_span" "not_derived" &&
        stateIs payload "engineering_value" "not_derived"))) "SOV2_REPRESENTATION_RECOMPUTE"
    (field "representation") "no_numeric_value_requires_not_derived"
  correlation (get payload "correlation")
  clock (get payload "clock")
  profileBinding (get payload "profile_binding")

section Content

variable [FloatOps F]

/-- `observation_content_id`, of the payload without its identity -/
def observationContentId (payload : Members F) : Checked Text := do
  let preimage ← dumps (.obj (payload.filter fun m => m.1 ≠ text "observation_content_id"))
  .ok (sha256Id preimage)

/-- `_validate` -/
def validate (payload : Members F) : Checked Unit := do
  validateMembers payload
  match get payload "observation_content_id" with
  | .str contentId =>
    ensure (isImmutableId contentId) "SOV2_CONTENT_ID" (field "observation_content_id")
      "lowercase_sha256_required"
    let expected ← observationContentId payload
    ensure (contentId = expected) "SOV2_CONTENT_ID" (field "observation_content_id")
      "digest_mismatch"
  | _ => violated "SOV2_CONTENT_ID" (field "observation_content_id") "lowercase_sha256_required"

/-- The payload with its identity -/
def withContentId (payload : Members F) : Members F :=
  payload ++ [(text "observation_content_id", .str (sha256Id (canonicalText (.obj payload))))]

theorem validate_withContentId {payload : Members F}
    (hmembers : validateMembers (withContentId payload) = .ok ())
    (hprintable : Printable (.obj payload : Value F))
    (hfresh : text "observation_content_id" ∉ payload.map Prod.fst) :
    validate (withContentId payload) = .ok () := by
  have hpreimage : (withContentId payload).filter (fun m => m.1 ≠ text "observation_content_id") =
      payload := by
    rw [withContentId, List.filter_append, List.filter_eq_self.mpr fun m hm => ?_]
    · simp
    · exact decide_eq_true fun h => hfresh (List.mem_map.mpr ⟨m, hm, h⟩)
  have hget : get (withContentId payload) "observation_content_id" =
      .str (sha256Id (canonicalText (.obj payload))) := by
    have hnone : payload.lookup (text "observation_content_id") = none := by
      rw [← Option.not_isSome_iff_eq_none, Dict.lookup_isSome_iff]
      exact hfresh
    rw [get, Doc.get, withContentId, List.lookup_append, hnone]
    rfl
  have hid : observationContentId (withContentId payload) =
      .ok (sha256Id (canonicalText (.obj payload))) := by
    rw [observationContentId, hpreimage, dumps_eq_ok.mpr ⟨hprintable, rfl⟩]
    rfl
  rw [validate, hmembers, hget]
  simp [hid, ensure, isImmutableId_sha256Id, bind, Except.bind]

end Content

/-! ## What the contract says of the variants -/

section Variants

theorem ensure_eq_ok {ok : Bool} {family : String} {path : Text} {token : String} {u : Unit} :
    ensure ok family path token = .ok u ↔ ok := by
  cases ok
  · simp [ensure, violated]
  · simp [ensure]

theorem object_eq_ok {value : Value F} {names : List String} {path : Text} {family : String}
    {members : Members F} (h : object value names path family = .ok members) :
    value = .obj members ∧ Doc.HasExactly members (names.map text) := by
  cases value with
  | obj members =>
    rw [object] at h
    split_ifs at h with hexactly
    · cases h
      exact ⟨rfl, hexactly⟩
    · cases h
  | _ => cases h

theorem variant_eq_ok {value : Value F} {key : String} {states : List String} {path : Text}
    {family token : String} {members : Members F}
    (h : variant value key states path family token = .ok members) :
    value = .obj members ∧ ∃ state ∈ states, isText (get members key) state := by
  cases value with
  | obj members =>
    obtain ⟨known, hknown, h⟩ := Except.bind_eq_ok.mp h
    obtain ⟨_, hensure, h⟩ := Except.bind_eq_ok.mp h
    cases h
    rw [ensure_eq_ok.mp hensure] at hknown
    refine ⟨rfl, ?_⟩
    cases hstate : get members key with
    | str t =>
      rw [hstate] at hknown
      obtain ⟨state, hstate, heq⟩ := List.any_eq_true.mp (Except.ok.inj hknown)
      exact ⟨state, hstate, heq⟩
    | _ =>
      rw [hstate] at hknown
      cases hknown
  | _ => cases h

theorem isText_inj {value : Value F} {s s' : String} (h : isText value s) (h' : isText value s') :
    text s = text s' := by
  cases value <;> simp_all [isText]

/-- A representation with a value, or one that says why there is none -/
def HasVariant (value : Value F) (present absent : String) : Prop :=
  ∃ members, value = .obj members ∧
    ((isText (get members "state") present ∧ text "value" ∈ members.map Prod.fst) ∨
      (isText (get members "state") absent ∧ text "value" ∉ members.map Prod.fst))

/-- The members of the two variants, as a check reads them off -/
theorem hasVariant_of_checks {value : Value F} {present absent : String}
    {withValue without : List String} {path : Text} {family token : String}
    {members others : Members F}
    (hvariant : variant value "state" [present, absent] path family token = .ok members)
    (hobject : object value (if isText (get members "state") present then withValue else without)
      path family = .ok others)
    (hne : text present ≠ text absent) (hwith : text "value" ∈ withValue.map text)
    (hwithout : text "value" ∉ without.map text) : HasVariant value present absent := by
  obtain ⟨rfl, state, hstate, htext⟩ := variant_eq_ok hvariant
  obtain ⟨heq, hexactly⟩ := object_eq_ok hobject
  cases heq
  refine ⟨members, rfl, ?_⟩
  simp only [List.mem_cons, List.not_mem_nil, or_false] at hstate
  rcases hstate with rfl | rfl
  · rw [if_pos htext] at hexactly
    exact .inl ⟨htext, hexactly.1 _ hwith⟩
  · have hother : ¬isText (get members "state") present := fun hpresent =>
      hne (isText_inj hpresent htext)
    rw [if_neg hother] at hexactly
    exact .inr ⟨htext, fun hmem => hwithout (hexactly.2 _ hmem)⟩

theorem hasVariant_raw {value : Value F} (h : raw value = .ok ()) :
    HasVariant value "present" "missing" := by
  obtain ⟨members, hvariant, h⟩ := Except.bind_eq_ok.mp h
  obtain ⟨_, hobject, -⟩ := Except.bind_eq_ok.mp h
  exact hasVariant_of_checks hvariant hobject (by decide) (by decide) (by decide)

theorem hasVariant_representation {value : Value F} {name : String} {quantity unit : Text}
    (h : representation value name quantity unit = .ok ()) :
    HasVariant value "derived" "not_derived" := by
  obtain ⟨members, hvariant, h⟩ := Except.bind_eq_ok.mp h
  obtain ⟨_, hobject, -⟩ := Except.bind_eq_ok.mp h
  exact hasVariant_of_checks hvariant hobject (by decide) (by decide) (by decide)

theorem mem_trace {value : Value F} {disposition : Text} (h : trace value = .ok disposition) :
    ∃ members, value = .obj members ∧ text "outcome" ∈ members.map Prod.fst ∧
      text "conversion_disposition" ∈ members.map Prod.fst := by
  obtain ⟨members, hobject, -⟩ := Except.bind_eq_ok.mp h
  obtain ⟨rfl, hexactly⟩ := object_eq_ok hobject
  exact ⟨members, rfl, hexactly.1 _ (by simp), hexactly.1 _ (by simp)⟩

/-- What the features read of an accepted payload -/
structure Readable (payload : Members F) : Prop where
  exactly : Doc.HasExactly payload (fields.map text)
  rawCurrent : HasVariant (get payload "raw_current") "present" "missing"
  qualityTrace : ∃ members, get payload "quality_trace" = .obj members ∧
    text "outcome" ∈ members.map Prod.fst ∧ text "conversion_disposition" ∈ members.map Prod.fst
  normalizedSpan : HasVariant (get payload "normalized_span") "derived" "not_derived"
  engineeringValue : HasVariant (get payload "engineering_value") "derived" "not_derived"

theorem readable_of_validate [FloatOps F] {payload : Members F} (h : validate payload = .ok ()) :
    Readable payload := by
  obtain ⟨_, h, -⟩ := Except.bind_eq_ok.mp h
  rw [validateMembers] at h
  obtain ⟨_, hexactly, h⟩ := Except.bind_eq_ok.mp h
  obtain ⟨_, -, h⟩ := Except.bind_eq_ok.mp h
  obtain ⟨_, -, h⟩ := Except.bind_eq_ok.mp h
  obtain ⟨_, -, h⟩ := Except.bind_eq_ok.mp h
  obtain ⟨_, -, h⟩ := Except.bind_eq_ok.mp h
  obtain ⟨_, -, h⟩ := Except.bind_eq_ok.mp h
  obtain ⟨_, -, h⟩ := Except.bind_eq_ok.mp h
  obtain ⟨_, -, h⟩ := Except.bind_eq_ok.mp h
  obtain ⟨_, -, h⟩ := Except.bind_eq_ok.mp h
  obtain ⟨_, hraw, h⟩ := Except.bind_eq_ok.mp h
  obtain ⟨_, -, h⟩ := Except.bind_eq_ok.mp h
  obtain ⟨_, htrace, h⟩ := Except.bind_eq_ok.mp h
  obtain ⟨_, hnormalized, h⟩ := Except.bind_eq_ok.mp h
  cases hunit : engineeringUnit (get payload "engineering_value") with
  | none =>
    rw [hunit] at h
    cases h
  | some unit =>
    obtain ⟨quantity, unit⟩ := unit
    rw [hunit] at h
    obtain ⟨_, hengineering, -⟩ := Except.bind_eq_ok.mp h
    exact ⟨of_decide_eq_true (ensure_eq_ok.mp hexactly), hasVariant_raw hraw, mem_trace htrace,
      hasVariant_representation hnormalized, hasVariant_representation hengineering⟩

end Variants

end SignalObservation

/-- A payload that the contract accepts -/
structure SignalObservation (F : Type) [FloatOps F] where
  payload : Members F
  valid : SignalObservation.validate payload = .ok ()

end TruthFingerprint
