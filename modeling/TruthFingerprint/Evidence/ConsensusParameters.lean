import Mathlib
import TruthFingerprint.Evidence.Manifests
import TruthFingerprint.Identity
import TruthFingerprint.Python.Json

/-!
# Parameter sets of Consensus.v2

A parameter set refers to records by identifiers and digests, and resolvers return the records. The
validation collects violations: of the set, of each reference that does not resolve to a record with
the digest, and of the links between the records. A record has the digest if it says so itself in
one of its identity fields, or if the canonical text of its fields has it.
-/

namespace TruthFingerprint.ConsensusParameters

open Evidence (casefold)

/-! ## Records -/

/-- A number, as `str` writes it. `json` writes it alike, unless it refuses to. -/
structure RecordNumber where
  literal : Text
  printable : Bool
  isLiteral : printable → JsonText.IsLiteral literal

/-- A number that is no zero -/
def RecordNumber.truthy (number : RecordNumber) : Bool :=
  !number.printable || (number.literal.takeWhile fun c => c ≠ 'e'.codePoint).any fun c =>
    JsonText.isDigit c && c ≠ '0'.codePoint

abbrev RecordValue := Doc RecordNumber

def truthy : RecordValue → Bool
  | .null => false
  | .bool b => b
  | .num number => number.truthy
  | .str s => s ≠ []
  | .arr items => !items.isEmpty
  | .obj members => !members.isEmpty

/-- `str`, where `containerText` is what it makes of a list or a dictionary -/
def pyStr (containerText : RecordValue → Text) : RecordValue → Text
  | .null => text "None"
  | .bool b => if b then text "True" else text "False"
  | .num number => number.literal
  | .str s => s
  | value => containerText value

/-- `tuple(value or ())`, which raises for a number -/
def iterate (value : RecordValue) : Option (List RecordValue) :=
  if !truthy value then some []
  else match value with
    | .arr items => some items
    | .obj members => some (members.map fun member => .str member.1)
    | .str s => some (s.map fun c => .str [c])
    | .null | .bool _ | .num _ => none

/-- The contents of a dictionary -/
structure Fields where
  members : List (Text × RecordValue)
  uniqueNames : (Doc.obj members).UniqueNames
  noSplitPair : (Doc.obj members).All (fun _ => True) JsonText.NoSplitPair

/-- What a resolver returns: a dictionary, or an object with attributes and, where it has one, the
dictionary that `to_dict` or `asdict` makes of it. -/
inductive Record where
  | mapping (fields : Fields)
  | object (attributes : List (Text × RecordValue)) (fields : Option Fields)

namespace Record

def fields : Record → Option Fields
  | .mapping fields => some fields
  | .object _ fields => fields

def attributes : Record → List (Text × RecordValue)
  | .mapping fields => fields.members
  | .object attributes _ => attributes

end Record

def lookupIn (members : List (Text × RecordValue)) (name : Text) (missing : RecordValue) :
    RecordValue :=
  (members.lookup name).getD missing

/-- `_value` of a record -/
def value (record : Option Record) (name : Text) (missing : RecordValue) : RecordValue :=
  match record with
  | none => missing
  | some record => lookupIn record.attributes name missing

/-- `_value` of an item of a list. Only a dictionary has the names that are asked for. -/
def itemValue (item : RecordValue) (name : Text) (missing : RecordValue) : RecordValue :=
  match item with
  | .obj members => lookupIn members name missing
  | _ => missing

/-! ## Hashes -/

/-- The members without those that are named -/
def others (selfFields : List Text) (members : List (Text × RecordValue)) :
    List (Text × RecordValue) :=
  members.filter fun member => member.1 ∉ selfFields

/-- `payload[name] = ""` for the names -/
def blank (selfFields : List Text) (members : List (Text × RecordValue)) :
    List (Text × RecordValue) :=
  others selfFields members ++ selfFields.map fun name => (name, .str [])

/-- `json.dumps` of the members, unless it raises -/
def dumps (members : List (Text × RecordValue)) : Option Text :=
  if (Doc.obj members).All (·.printable = true) fun _ => True then
    some (JsonText.render Python.escapeAscii
      ((Doc.obj members).sortKeys.map RecordNumber.literal id))
  else none

/-- The text that `_record_hash` hashes -/
def recordText (record : Option Record) (selfFields : List Text) : Option Text :=
  (record.bind Record.fields).bind fun fields => dumps (blank selfFields fields.members)

/-- `_record_hash` -/
def recordHash (record : Option Record) (selfFields : List Text) : Option Text :=
  (recordText record selfFields).map sha256Id

section Matching

variable (containerText : RecordValue → Text)

/-- The record says itself that it has the digest. -/
def declares (record : Option Record) (expected : Text) (selfFields : List Text) : Bool :=
  selfFields.any fun name => pyStr containerText (value record name (.str [])) = expected

/-- `_matches_hash` -/
def matchesHash (record : Option Record) (expected : Text) (selfFields : List Text) : Bool :=
  isImmutableId expected && (declares containerText record expected selfFields ||
    recordHash record [] = some expected || recordHash record selfFields = some expected)

end Matching

/-! ## Parameter sets -/

/-- `ConsensusParameterSlot` -/
structure Slot where
  slotId : Text
  parameterRevisionId : Text
  parameterRevisionSha256 : Text
  parameterClass : Text
  quantityKind : Text
  unit : Text
  dimension : Text
  profileId : Text
  experimentScope : Text
  decisionId : Option Text
  decisionRecordSha256 : Option Text
deriving DecidableEq

/-- A parameter set, its slots and its lists in the order that the constructor brings them in -/
structure ConsensusParameterSet where
  schemaVersion : Text
  parameterSetId : Text
  componentIdentity : Text
  experimentScope : Text
  profileId : Text
  comparisonBasisId : Text
  comparisonBasisSchema : Text
  comparisonBasisSha256 : Text
  comparisonBasisCanonicalBytesSha256 : Text
  qualityPolicyId : Text
  numericInventoryId : Text
  numericInventorySha256 : Text
  requiredParameterSetId : Text
  requiredParameterSetSha256 : Text
  parameterGateResultId : Text
  parameterGateResultSha256 : Text
  comparisonMode : Text
  residualPolicyId : Text
  residualPolicySchema : Text
  residualPolicySha256 : Text
  residualPolicyCanonicalBytesSha256 : Text
  residualPolicySlotIds : List Text
  residualPolicyUnits : List Text
  residualPolicyDimensions : List Text
  residualPolicyConformanceId : Text
  analysisPlanId : Text
  analysisPlanSha256 : Text
  sensitivityPlanId : Text
  sensitivityPlanSha256 : Text
  sensitivityAlternativeIds : List Text
  selectedAlternativeId : Text
  primaryDecisionId : Text
  primaryDecisionRecordSha256 : Text
  scientificFreezeId : Text
  scientificFreezeSha256 : Text
  partitionLockId : Text
  partitionLockSha256 : Text
  slots : List Slot
  authorizationEffect : Text

/-- The resolvers -/
inductive RecordKind where
  | inventory
  | requiredSet
  | gateResult
  | parameterRevision
  | decisionRecord
  | scientificFreeze
  | partitionLock
  | analysisPlan
  | residualPolicy
deriving DecidableEq

abbrev ConsensusParameterResolvers := RecordKind → Text → Option Record

/-- The names under which a record may declare its own digest -/
def RecordKind.selfFields : RecordKind → List Text
  | .inventory | .requiredSet | .scientificFreeze => []
  | .gateResult => [text "gate_result_id"]
  | .parameterRevision => [text "revision_sha256"]
  | .decisionRecord => [text "record_sha256"]
  | .partitionLock => [text "content_sha256", text "record_sha256"]
  | .analysisPlan => [text "content_sha256", text "plan_sha256"]
  | .residualPolicy => [text "content_sha256", text "policy_sha256"]

/-- A record that a parameter set refers to, with the digest that it declares for it -/
structure Reference where
  kind : RecordKind
  id : Text
  expected : Text
deriving DecidableEq

def Slot.revision (slot : Slot) : Reference :=
  ⟨.parameterRevision, slot.parameterRevisionId, slot.parameterRevisionSha256⟩

def Slot.decision (slot : Slot) : Reference :=
  ⟨.decisionRecord, slot.decisionId.getD [], slot.decisionRecordSha256.getD []⟩

/-- `slot.decision_id or slot.decision_record_sha256` -/
def Slot.hasDecision (slot : Slot) : Bool :=
  slot.decisionId.getD [] ≠ [] || slot.decisionRecordSha256.getD [] ≠ []

namespace ConsensusParameterSet

variable (set : ConsensusParameterSet)

def inventory : Reference := ⟨.inventory, set.numericInventoryId, set.numericInventorySha256⟩

def required : Reference :=
  ⟨.requiredSet, set.requiredParameterSetId, set.requiredParameterSetSha256⟩

def gate : Reference := ⟨.gateResult, set.parameterGateResultId, set.parameterGateResultSha256⟩

def policy : Reference := ⟨.residualPolicy, set.residualPolicyId, set.residualPolicySha256⟩

def plan : Reference := ⟨.analysisPlan, set.analysisPlanId, set.analysisPlanSha256⟩

def freeze : Reference := ⟨.scientificFreeze, set.scientificFreezeId, set.scientificFreezeSha256⟩

def lock : Reference := ⟨.partitionLock, set.partitionLockId, set.partitionLockSha256⟩

def primary : Reference :=
  ⟨.decisionRecord, set.primaryDecisionId, set.primaryDecisionRecordSha256⟩

/-- All records that a parameter set refers to -/
def references : List Reference :=
  [set.inventory, set.required, set.gate, set.policy, set.plan, set.freeze, set.lock,
    set.primary] ++
  set.slots.flatMap fun slot =>
    slot.revision :: if slot.hasDecision then [slot.decision] else []

end ConsensusParameterSet

/-! ## Validation -/

/-- The names under which the validation reads the records -/
inductive RecordField where
  | accountabilityOutcome
  | authorizationEffect
  | componentIdentity
  | scope
  | profileId
  | inventoryId
  | requiredSetId
  | bindings
  | parameterClass
  | quantityKind
  | unit
  | experimentScope
deriving DecidableEq

def RecordField.name : RecordField → Text
  | .accountabilityOutcome => text "accountability_outcome"
  | .authorizationEffect => text "authorization_effect"
  | .componentIdentity => text "component_identity"
  | .scope => text "scope"
  | .profileId => text "profile_id"
  | .inventoryId => text "inventory_id"
  | .requiredSetId => text "required_set_id"
  | .bindings => text "bindings"
  | .parameterClass => text "parameter_class"
  | .quantityKind => text "quantity_kind"
  | .unit => text "unit"
  | .experimentScope => text "experiment_scope"

/-- `ConsensusParameterViolation` -/
structure Violation where
  ruleId : String
  field : Text
  reference : Text
  explanation : String
deriving DecidableEq

def Violation.key (violation : Violation) : Text ×ₗ Text ×ₗ Text :=
  toLex (text violation.ruleId, toLex (violation.field, violation.reference))

/-- `ConsensusParameterValidationResult` -/
structure ValidationResult where
  status : String
  parameterSetId : Text
  violations : List Violation
  authorizationEffect : String
deriving DecidableEq

/-- A violation, if it is one -/
def failIf (violated : Bool) (ruleId : String) (field reference : Text) (explanation : String) :
    List Violation :=
  if violated then [⟨ruleId, field, reference, explanation⟩] else []

/-- A character that `str.strip` removes -/
def isStripped (c : CodePoint) : Bool :=
  (0x9 ≤ c.val && c.val ≤ 0xd) || (0x1c ≤ c.val && c.val ≤ 0x20) || c.val = 0x85 ||
    c.val = 0xa0 || c.val = 0x1680 || (0x2000 ≤ c.val && c.val ≤ 0x200a) || c.val = 0x2028 ||
    c.val = 0x2029 || c.val = 0x202f || c.val = 0x205f || c.val = 0x3000

/-- `_MUTABLE` -/
def mutableNames : List Text :=
  ["", "latest", "current", "default", "legacy", "v1"].map text

/-- `_opaque` -/
def isOpaque (s : Text) : Bool :=
  !s.head?.any isStripped && !s.getLast?.any isStripped && casefold s ∉ mutableNames

namespace ConsensusParameterSet

variable (set : ConsensusParameterSet)

def identities : List (String × Text) :=
  [("parameter_set_id", set.parameterSetId), ("component_identity", set.componentIdentity),
    ("experiment_scope", set.experimentScope), ("profile_id", set.profileId),
    ("comparison_basis_id", set.comparisonBasisId),
    ("comparison_basis_schema", set.comparisonBasisSchema),
    ("quality_policy_id", set.qualityPolicyId), ("comparison_mode", set.comparisonMode),
    ("residual_policy_id", set.residualPolicyId),
    ("residual_policy_schema", set.residualPolicySchema),
    ("residual_policy_conformance_id", set.residualPolicyConformanceId),
    ("analysis_plan_id", set.analysisPlanId), ("sensitivity_plan_id", set.sensitivityPlanId),
    ("selected_alternative_id", set.selectedAlternativeId),
    ("primary_decision_id", set.primaryDecisionId),
    ("scientific_freeze_id", set.scientificFreezeId), ("partition_lock_id", set.partitionLockId)]

def digests : List (String × Text) :=
  [("comparison_basis_sha256", set.comparisonBasisSha256),
    ("comparison_basis_canonical_bytes_sha256", set.comparisonBasisCanonicalBytesSha256),
    ("numeric_inventory_sha256", set.numericInventorySha256),
    ("required_parameter_set_sha256", set.requiredParameterSetSha256),
    ("parameter_gate_result_sha256", set.parameterGateResultSha256),
    ("residual_policy_sha256", set.residualPolicySha256),
    ("residual_policy_canonical_bytes_sha256", set.residualPolicyCanonicalBytesSha256),
    ("analysis_plan_sha256", set.analysisPlanSha256),
    ("sensitivity_plan_sha256", set.sensitivityPlanSha256),
    ("primary_decision_record_sha256", set.primaryDecisionRecordSha256),
    ("scientific_freeze_sha256", set.scientificFreezeSha256),
    ("partition_lock_sha256", set.partitionLockSha256)]

/-- The checks that read no record -/
def declarationViolations : List Violation :=
  failIf (set.schemaVersion ≠ text "ConsensusParameterSet.v2") "CPS-SCHEMA" (text "schema_version")
    set.schemaVersion "Only ConsensusParameterSet.v2 is accepted." ++
  failIf (set.authorizationEffect ≠ text "none") "CPS-AUTHORIZATION-EFFECT"
    (text "authorization_effect") set.authorizationEffect
    "This resolver can never authorize activity." ++
  (set.identities.flatMap fun identity =>
    failIf (!isOpaque identity.2) "CPS-MUTABLE-OR-MISSING" (text identity.1) identity.2
      "Aliases, defaults, legacy tokens, and blank identifiers are forbidden.") ++
  set.digests.flatMap fun digest =>
    failIf (!isImmutableId digest.2) "CPS-IMMUTABLE-HASH" (text digest.1) digest.2
      "An exact SHA-256 content identity is required."

end ConsensusParameterSet

section Checks

variable (containerText : RecordValue → Text) (resolvers : ConsensusParameterResolvers)

/-- A reference resolves to a record that matches the digest. -/
def resolves (reference : Reference) : Bool :=
  (resolvers reference.kind reference.id).isSome &&
    matchesHash containerText (resolvers reference.kind reference.id) reference.expected
      reference.kind.selfFields

def present (reference : Reference) : Bool := (resolvers reference.kind reference.id).isSome

/-- `_value` of a resolved record -/
def fieldOf (reference : Reference) (field : RecordField) : RecordValue :=
  value (resolvers reference.kind reference.id) field.name .null

/-- `str` of it -/
def fieldText (reference : Reference) (field : RecordField) : Text :=
  pyStr containerText (fieldOf resolvers reference field)

def isText (value : RecordValue) (t : Text) : Bool :=
  match value with
  | .str s => s = t
  | _ => false

def isNone (value : RecordValue) : Bool :=
  match value with
  | .null => true
  | _ => false

/-- The identifiers of the slots that are required, or nothing where the bindings are no list -/
def requiredSlots (required : Reference) : Option (List Text) :=
  (iterate (fieldOf resolvers required .bindings)).map fun bindings =>
    (bindings.filter fun item =>
      !truthy (itemValue item (text "not_applicable") (.bool false))).map
      fun item => pyStr containerText (itemValue item (text "slot_id") .null)

/-- What a reference may violate by itself -/
def referenceViolations (reference : Reference) (ruleId field explanation : String) :
    List Violation :=
  failIf (!resolves containerText resolvers reference) ruleId (text field) reference.id explanation

namespace ConsensusParameterSet

variable (set : ConsensusParameterSet)

/-- The gate is accountable and authorizes nothing. -/
def gateViolations : List Violation :=
  if !resolves containerText resolvers set.gate then
    referenceViolations containerText resolvers set.gate "CPS-GATE" "parameter_gate_result_id"
      "The exact accountable parameter gate result was not resolved."
  else
    failIf (fieldText containerText resolvers set.gate .accountabilityOutcome ≠
        text "accountable" ||
        !isText (fieldOf resolvers set.gate .authorizationEffect) (text "none"))
      "CPS-GATE-BLOCKED" (text "parameter_gate_result_id") set.parameterGateResultId
      "A blocked or authorizing parameter gate cannot satisfy v2."

/-- What the inventory, the required set and the gate say of where they apply -/
def scopeViolations : List Violation :=
  [(set.inventory, "inventory"), (set.required, "required_set"), (set.gate, "gate")].flatMap
    fun record =>
      if !present resolvers record.1 then []
      else [(RecordField.componentIdentity, set.componentIdentity),
          (.scope, set.experimentScope), (.profileId, set.profileId)].flatMap fun wanted =>
        failIf (!isNone (fieldOf resolvers record.1 wanted.1) &&
            fieldText containerText resolvers record.1 wanted.1 ≠ wanted.2)
          "CPS-SCOPE-CLOSURE" (text record.2 ++ text "." ++ wanted.1.name)
          (fieldText containerText resolvers record.1 wanted.1)
          "Inventory, required set, and gate must use the exact component/scope/profile closure."

def linkViolations : List Violation :=
  (if !present resolvers set.required then []
    else failIf (fieldText containerText resolvers set.required .inventoryId ≠
        set.numericInventoryId) "CPS-INVENTORY-REQUIRED-LINK" (text "required_parameter_set_id")
      set.requiredParameterSetId "Required set does not bind this inventory.") ++
  if !present resolvers set.gate then []
  else failIf (fieldText containerText resolvers set.gate .inventoryId ≠ set.numericInventoryId ||
      fieldText containerText resolvers set.gate .requiredSetId ≠ set.requiredParameterSetId)
    "CPS-GATE-CLOSURE" (text "parameter_gate_result_id") set.parameterGateResultId
    "Gate must bind the same inventory and required set."

/-- The slots are those that are required, each once. -/
def slotClosureViolations (required : List Text) : List Violation :=
  let slotIds := set.slots.map Slot.slotId
  failIf (slotIds = [] || !decide slotIds.Nodup ||
      !(slotIds.all (· ∈ required) && required.all (· ∈ slotIds)))
    "CPS-SLOT-CLOSURE" (text "slots") ((text ",").intercalate slotIds)
    ("Slots must match the required non-N/A inventory exactly once;" ++
      " no relaxation is allowed.")

def slotViolations (slot : Slot) : List Violation :=
  let slotField := text "slots." ++ slot.slotId
  failIf (!isOpaque slot.slotId || !isOpaque slot.parameterRevisionId ||
      !isImmutableId slot.parameterRevisionSha256) "CPS-SLOT-IDENTITY" (text "slots") slot.slotId
    "A slot requires exact non-alias revision identity and hash." ++
  if !resolves containerText resolvers slot.revision then
    failIf true "CPS-REVISION" slotField slot.parameterRevisionId
      "Revision is absent, stale, or hash-conflicting."
  else
    ([(RecordField.parameterClass, slot.parameterClass), (.quantityKind, slot.quantityKind),
        (.unit, slot.unit), (.profileId, slot.profileId),
        (.experimentScope, slot.experimentScope)].flatMap fun wanted =>
      failIf (fieldText containerText resolvers slot.revision wanted.1 ≠ wanted.2)
        "CPS-REVISION-CLOSURE" (slotField ++ text "." ++ wanted.1.name)
        (fieldText containerText resolvers slot.revision wanted.1)
        "Revision fields must exactly match the declared slot.") ++
    failIf (slot.profileId ≠ set.profileId || slot.experimentScope ≠ set.experimentScope)
      "CPS-SLOT-SCOPE" slotField slot.slotId
      "Slots cannot cross profiles or experiment scopes." ++
    failIf (slot.parameterClass = text "preregistered_factor" &&
        (slot.decisionId.getD [] = [] || slot.decisionRecordSha256.getD [] = []))
      "CPS-DECISION-REQUIRED" slotField slot.slotId
      "Preregistered factors require a frozen DecisionRecord." ++
    if slot.hasDecision then
      failIf (slot.decisionId.getD [] = [] || !resolves containerText resolvers slot.decision)
        "CPS-DECISION" slotField (slot.decisionId.getD (text "None"))
        "Decision identity is absent or stale."
    else []

/-- The mode of comparison, and what it makes of the residual policy -/
def comparisonViolations : List Violation :=
  failIf (set.comparisonMode ∉ [text "same_profile_raw_current", text "cross_profile_residual"])
    "CPS-COMPARISON-MODE" (text "comparison_mode") set.comparisonMode
    "Comparison mode is closed." ++
  referenceViolations containerText resolvers set.policy "CPS-RESIDUAL-POLICY"
    "residual_policy_id" "Residual policy requires its exact immutable content." ++
  if set.comparisonMode = text "cross_profile_residual" then
    failIf (set.residualPolicySlotIds = [] || set.residualPolicyUnits = [] ||
        set.residualPolicyDimensions = [] ||
        !isImmutableId set.residualPolicyCanonicalBytesSha256)
      "CPS-CROSS-PROFILE-RESIDUAL" (text "residual_policy_id") set.residualPolicyId
      ("Cross-profile residuals require slots, units, dimensions" ++
        " and canonical operation closure.") ++
    failIf (set.residualPolicySlotIds.any (· ∉ set.slots.map Slot.slotId))
      "CPS-RESIDUAL-SLOT" (text "residual_policy_slot_ids")
      ((text ",").intercalate set.residualPolicySlotIds)
      "Residual policy names an undeclared slot." ++
    failIf (!set.slots.any fun slot =>
        slot.parameterClass ∈ [text "measured", text "derived"] && slot.dimension = text "one")
      "CPS-CROSS-PROFILE-UNCERTAINTY" (text "slots") []
      ("Cross-profile residuals require explicit dimensionless measured or derived" ++
        " uncertainty support.")
  else
    failIf (set.residualPolicySlotIds ≠ [] || set.residualPolicyUnits ≠ [] ||
        set.residualPolicyDimensions ≠ [])
      "CPS-SAME-PROFILE-RESIDUAL" (text "residual_policy_slot_ids") []
      "Raw same-profile comparison cannot smuggle cross-profile residual inputs."

/-- The plan, the freeze, the lock, the primary decision and the alternatives -/
def planViolations : List Violation :=
  referenceViolations containerText resolvers set.plan "CPS-ANALYSIS-PLAN" "analysis_plan_id"
    "Frozen analysis plan did not resolve exactly." ++
  referenceViolations containerText resolvers set.freeze "CPS-SCIENTIFIC-FREEZE"
    "scientific_freeze_id" "ScientificFreeze identity is missing or stale." ++
  referenceViolations containerText resolvers set.lock "CPS-PARTITION-LOCK" "partition_lock_id"
    "Partition-lock identity is missing or stale." ++
  referenceViolations containerText resolvers set.primary "CPS-PRIMARY-DECISION"
    "primary_decision_id" "Primary selection requires exact pre-test DecisionRecord." ++
  failIf (set.selectedAlternativeId ∉ text "primary" :: set.sensitivityAlternativeIds)
    "CPS-UNKNOWN-SENSITIVITY" (text "selected_alternative_id") set.selectedAlternativeId
    "Selected configuration is not in the frozen sensitivity plan." ++
  failIf (!decide set.sensitivityAlternativeIds.Nodup) "CPS-SENSITIVITY-DUPLICATE"
    (text "sensitivity_alternative_ids") ((text ",").intercalate set.sensitivityAlternativeIds)
    "Sensitivity alternatives must be unique."

/-- The violations, in the order of the checks -/
def violations (required : List Text) : List Violation :=
  set.declarationViolations ++
  referenceViolations containerText resolvers set.inventory "CPS-INVENTORY"
    "numeric_inventory_id" "The exact numeric inventory was not resolved." ++
  referenceViolations containerText resolvers set.required "CPS-REQUIRED-SET"
    "required_parameter_set_id" "The exact closed required set was not resolved." ++
  set.gateViolations containerText resolvers ++ set.scopeViolations containerText resolvers ++
  set.linkViolations containerText resolvers ++ set.slotClosureViolations required ++
  (set.slots.flatMap fun slot => set.slotViolations containerText resolvers slot) ++
  set.comparisonViolations containerText resolvers ++ set.planViolations containerText resolvers

/-- `validate_consensus_parameter_set`, or nothing where it raises -/
def validate : Option ValidationResult :=
  (requiredSlots containerText resolvers set.required).map fun required =>
    let ordered := (set.violations containerText resolvers required).insertionSort
      (·.key ≤ ·.key)
    ⟨if ordered.isEmpty then "valid" else "blocked", set.parameterSetId, ordered, "none"⟩

end ConsensusParameterSet

end Checks

end TruthFingerprint.ConsensusParameters
