import Mathlib
import TruthFingerprint.ConsensusV2.ReferenceInputs
import TruthFingerprint.Evidence.PhysicalEvaluation
import TruthFingerprint.Lib.Dict
import TruthFingerprint.Python.Decimals
import TruthFingerprint.Python.Equality

/-!
# Comparison of OPC evidence

An observation of the OPC server and the value of the consensus are compared if nothing is wrong
with them, and are blocked otherwise. Their distance is computed in the context of the interpreter,
which keeps 28 digits: the comparison is exact, and does not raise, exactly when the distance fits
(`validateAndCompareOpcEvidence_exact_iff`).
-/

namespace TruthFingerprint.Evidence

open Python (Value Members Raised nested)
open Doc (get)

structure OpcComparisonResult where
  eligible : Bool
  outcome : Text
  diagnostics : List Text
  sourceReferences : List Text
  difference : Option Text
  classification : Option Text
deriving DecidableEq

def OpcComparisonResult.blocked (diagnostics sourceReferences : List Text) : OpcComparisonResult :=
  ⟨false, text "invalid", diagnostics, sourceReferences, none, none⟩

def observationFields : List String :=
  ["schema_version", "observation_id", "experiment_id", "run_id", "cycle_id", "correlation_id",
    "endpoint_id", "namespace_id", "node_id", "profile_revision_id", "snapshot_revision_id",
    "source_branch_id", "status_code", "source_timestamp", "server_timestamp", "fresh",
    "attempt_count", "value", "unit", "source_reference"]

def consensusFields : List String :=
  ["schema_version", "decision_id", "experiment_id", "run_id", "cycle_id", "correlation_id",
    "profile_revision_id", "preconsensus_branch_id", "value", "unit", "source_reference"]

def policyFields : List String :=
  ["schema_version", "policy_id", "basis_id", "basis_kind", "unit", "parameter_ids"]

def requiredPolicyParameters : List String :=
  ["freshness_limit", "source_server_skew_limit", "comparison_tolerance"]

def observationIdentities : List String :=
  ["observation_id", "experiment_id", "run_id", "cycle_id", "correlation_id", "endpoint_id",
    "namespace_id", "profile_revision_id", "snapshot_revision_id", "source_reference"]

def consensusIdentities : List String :=
  ["decision_id", "experiment_id", "run_id", "cycle_id", "correlation_id", "profile_revision_id",
    "source_reference"]

def policyIdentities : List String := ["policy_id", "basis_id"]

/-! ## The checks -/

variable {F : Type}

/-- `_decimal` -/
def finiteDecimal : Value F → Option ScaledDecimal
  | .str t => Python.decimalOfText t
  | _ => none

/-- `_id` -/
def isResolvedId (resolver : ImmutableResolver) : Value F → Bool
  | .str t => immutable resolver t
  | _ => false

/-- `_closed`: the members of a mapping of these fields -/
def closedMembers (mapping : Value F) (fields : List String) : Option (Members F) :=
  match mapping with
  | .obj members => if Doc.HasExactly members (fields.map text) then some members else none
  | _ => none

/-- A code where the condition holds -/
def found (condition : Bool) (code : String) : List Text := if condition then [text code] else []

def isPositiveInt : Value F → Bool
  | .num (.int i) => 0 < i
  | _ => false

def endsWithZ : Value F → Bool
  | .str t => t.getLast? = some 'Z'.codePoint
  | _ => false

def isNonemptyText : Value F → Bool
  | .str t => t ≠ []
  | _ => false

def isTrue : Value F → Bool
  | .bool b => b
  | _ => false

def asText : Value F → Option Text
  | .str t => some t
  | _ => none

variable (resolver : ImmutableResolver)

def identityErrors (mapping : Members F) (names : List String) (code : String) : List Text :=
  names.flatMap fun name => found (!isResolvedId resolver (get mapping (text name))) code

def parameterErrors (parameters : Value F) : List Text :=
  match closedMembers parameters requiredPolicyParameters with
  | none => [text "OPC-CMP-PARAMETER-CLOSURE"]
  | some parameters => parameters.flatMap fun parameter =>
      found (!isResolvedId resolver parameter.2) "OPC-CMP-PARAMETER-UNRESOLVED"

/-- `refs` -/
def sourceReferences (observation consensus policy : Members F) : List Text :=
  [get observation (text "observation_id"), get observation (text "source_reference"),
      get consensus (text "decision_id"), get consensus (text "source_reference"),
      get policy (text "policy_id"), get policy (text "basis_id")].filterMap asText ++
    match get policy (text "parameter_ids") with
    | .obj parameters => parameters.filterMap fun parameter => asText parameter.2
    | _ => []

variable [Python.FloatOps F] [Python.FloatEq F]

def isText (value : Value F) (expected : String) : Bool := Python.eq value (.str (text expected))

def differs (left right : Members F) (name : String) : Bool :=
  !Python.eq (get left (text name)) (get right (text name))

/-- `errors` of closed mappings, apart from the values -/
def contextErrors (observation consensus policy : Members F) : List Text :=
  found (!isText (get observation (text "schema_version")) "ScadaObservation.v2")
      "OPC-CMP-OBSERVATION-VERSION" ++
    found (!isText (get consensus (text "schema_version")) "ConsensusDecision.v2")
      "OPC-CMP-CONSENSUS-VERSION" ++
    found (!isText (get policy (text "schema_version")) "OPC-Evidence-Comparison.v1")
      "OPC-CMP-POLICY-VERSION" ++
    identityErrors resolver observation observationIdentities "OPC-CMP-OBSERVATION-IDENTITY" ++
    identityErrors resolver consensus consensusIdentities "OPC-CMP-CONSENSUS-IDENTITY" ++
    identityErrors resolver policy policyIdentities "OPC-CMP-POLICY-IDENTITY" ++
    parameterErrors resolver (get policy (text "parameter_ids")) ++
    found (!isNonemptyText (get observation (text "node_id"))) "OPC-CMP-NODE-ID" ++
    found (!isText (get observation (text "status_code")) "Good") "OPC-CMP-STATUS-NOT-GOOD" ++
    found (!isTrue (get observation (text "fresh"))) "OPC-CMP-STALE-OR-UNVERIFIED" ++
    found (!isPositiveInt (get observation (text "attempt_count"))) "OPC-CMP-ATTEMPTS" ++
    found (["source_timestamp", "server_timestamp"].any fun name =>
      !endsWithZ (get observation (text name))) "OPC-CMP-TIMESTAMP" ++
    found (!isText (get observation (text "source_branch_id")) "independent_opc")
      "OPC-CMP-OPC-BRANCH-NOT-INDEPENDENT" ++
    found (Python.eq (get consensus (text "preconsensus_branch_id"))
      (get observation (text "source_branch_id"))) "OPC-CMP-BRANCH-NOT-INDEPENDENT" ++
    found (["experiment_id", "run_id", "cycle_id", "correlation_id"].any
      (differs observation consensus)) "OPC-CMP-CORRELATION-MISMATCH" ++
    found (differs observation consensus "profile_revision_id") "OPC-CMP-PROFILE-MISMATCH" ++
    found (!isText (get policy (text "basis_kind")) "same_profile_raw_current" ||
      !isText (get policy (text "unit")) "mA") "OPC-CMP-BASIS-INELIGIBLE" ++
    found (differs observation policy "unit" || differs consensus policy "unit")
      "OPC-CMP-UNIT-MISMATCH"

/-- The values of the two branches -/
def comparedValues (observation consensus : Members F) : Option (ScaledDecimal × ScaledDecimal) := do
  some (← finiteDecimal (get observation (text "value")),
    ← finiteDecimal (get consensus (text "value")))

/-- `validate_and_compare_opc_evidence` of closed mappings -/
def compareClosedEvidence (observation consensus policy : Members F) :
    Except (Raised Empty) OpcComparisonResult :=
  let errors := contextErrors resolver observation consensus policy
  let refs := sortedSet (sourceReferences observation consensus policy)
  match comparedValues observation consensus with
  | none => .ok (.blocked (sortedSet (errors ++ [text "OPC-CMP-VALUE-INCONSISTENT"])) refs)
  | some (opcValue, consensusValue) =>
    if errors ≠ [] then .ok (.blocked (sortedSet errors) refs)
    else match ConsensusV2.defaultContext.absSub opcValue consensusValue with
      | .error signal => .error (.decimal signal)
      | .ok difference =>
        .ok ⟨true, text "eligible_unclassified", [], refs, some difference.fixedText, none⟩

def validateAndCompareOpcEvidence (observation consensus policy : Value F) :
    Except (Raised Empty) OpcComparisonResult :=
  match closedMembers observation observationFields, closedMembers consensus consensusFields,
    closedMembers policy policyFields with
  | some observation, some consensus, some policy =>
    compareClosedEvidence resolver observation consensus policy
  | observation, consensus, policy =>
    .ok (.blocked (found observation.isNone "OPC-CMP-OBSERVATION-SCHEMA" ++
      found consensus.isNone "OPC-CMP-CONSENSUS-SCHEMA" ++
      found policy.isNone "OPC-CMP-POLICY-SCHEMA") [])

/-! ## Exactness -/

/-- The mapping with another value -/
def withValue (value : Value F) : Value F → Value F
  | .obj members => .obj (Dict.setItem members (text "value", value))
  | mapping => mapping

def valueOf (mapping : Value F) : Value F := nested mapping [text "value"]

/-- A comparison returns. If it is eligible then its difference is the distance of the values, also
when they are exchanged, and otherwise it is blocked. -/
def ComparesExactly (observation consensus policy : Value F) : Prop :=
  ∃ result, validateAndCompareOpcEvidence resolver observation consensus policy = .ok result ∧
    if result.eligible then
      ∃ x y difference exchanged, finiteDecimal (valueOf observation) = some x ∧
        finiteDecimal (valueOf consensus) = some y ∧ result.difference = some difference ∧
        DecimalText.decimalValue difference = |x.value - y.value| ∧
        validateAndCompareOpcEvidence resolver (withValue (valueOf consensus) observation)
          (withValue (valueOf observation) consensus) policy = .ok exchanged ∧
        exchanged.eligible ∧ exchanged.difference = some difference
    else result.outcome = text "invalid" ∧ result.diagnostics ≠ [] ∧ result.difference = none

/-- Nothing is wrong with the evidence, and these are its values. -/
structure Comparable (observation consensus policy : Value F) (x y : ScaledDecimal) : Prop where
  errors : ∃ observed projected basis, closedMembers observation observationFields = some observed ∧
    closedMembers consensus consensusFields = some projected ∧
    closedMembers policy policyFields = some basis ∧
    contextErrors resolver observed projected basis = []
  observed : finiteDecimal (valueOf observation) = some x
  projected : finiteDecimal (valueOf consensus) = some y

variable {resolver} {observation consensus policy : Value F} {x y : ScaledDecimal}

omit [Python.FloatOps F] [Python.FloatEq F] in
theorem closedMembers_eq_some {mapping : Value F} {fields : List String} {members : Members F} :
    closedMembers mapping fields = some members ↔
      mapping = .obj members ∧ Doc.HasExactly members (fields.map text) := by
  cases mapping with
  | obj found =>
    rw [closedMembers]
    split_ifs with hexactly
    · simp only [Option.some.injEq, Doc.obj.injEq]
      exact ⟨fun heq => ⟨heq, heq ▸ hexactly⟩, And.left⟩
    · simp only [Doc.obj.injEq, false_iff]
      exact fun ⟨heq, h⟩ => hexactly (heq ▸ h)
  | null | bool | num | str | arr => simp [closedMembers]

omit [Python.FloatOps F] [Python.FloatEq F] in
theorem get_setItem {members : Members F} {value : Value F} {name : Text}
    (hne : name ≠ text "value") :
    get (Dict.setItem members (text "value", value)) name = get members name := by
  rw [Doc.get, Doc.get, Dict.lookup_setItem, if_neg hne]

omit [Python.FloatOps F] [Python.FloatEq F] in
theorem closedMembers_withValue (value : Value F) {mapping : Value F} {fields : List String}
    {members : Members F} (hfield : "value" ∈ fields)
    (h : closedMembers mapping fields = some members) :
    closedMembers (withValue value mapping) fields =
      some (Dict.setItem members (text "value", value)) := by
  obtain ⟨rfl, hexactly⟩ := closedMembers_eq_some.mp h
  have hmem : text "value" ∈ members.map Prod.fst :=
    hexactly.1 _ (List.mem_map_of_mem hfield)
  refine closedMembers_eq_some.mpr ⟨rfl, ?_⟩
  rwa [Doc.HasExactly, Dict.keys_setItem, List.appendNew, if_pos hmem]

omit [Python.FloatOps F] [Python.FloatEq F] in
theorem identityErrors_setItem {members : Members F} {value : Value F} {names : List String}
    {code : String} (hnames : text "value" ∉ names.map text) :
    identityErrors resolver (Dict.setItem members (text "value", value)) names code =
      identityErrors resolver members names code := by
  refine List.flatMap_congr fun name hname => ?_
  rw [get_setItem fun heq => hnames (heq ▸ List.mem_map_of_mem hname)]

theorem contextErrors_setItem {observed projected basis : Members F} {value other : Value F} :
    contextErrors resolver (Dict.setItem observed (text "value", value))
        (Dict.setItem projected (text "value", other)) basis =
      contextErrors resolver observed projected basis := by
  have hget : ∀ name ∈ ["schema_version", "node_id", "status_code", "fresh", "attempt_count",
      "source_timestamp", "server_timestamp", "source_branch_id", "preconsensus_branch_id", "unit",
      "experiment_id", "run_id", "cycle_id", "correlation_id", "profile_revision_id"],
      text name ≠ text "value" := by decide
  simp only [List.forall_mem_cons, List.not_mem_nil, false_imp_iff, implies_true, and_true] at hget
  rw [contextErrors, contextErrors, identityErrors_setItem (by decide),
    identityErrors_setItem (by decide)]
  simp only [List.any_cons, List.any_nil, differs, get_setItem, hget, ne_eq, not_false_eq_true]

omit [Python.FloatOps F] [Python.FloatEq F] in
theorem found_nonempty {condition : Bool} {code : String} (h : condition) :
    found condition code ≠ [] := by
  rw [found, if_pos h]
  exact List.cons_ne_nil _ _

/-- Closed mappings are blocked, or nothing is wrong with them. -/
theorem compareClosedEvidence_blocked {observed projected basis : Members F}
    (h : contextErrors resolver observed projected basis = [] →
      comparedValues observed projected = none) :
    ∃ diagnostics refs, diagnostics ≠ [] ∧
      compareClosedEvidence resolver observed projected basis =
        .ok (.blocked diagnostics refs) := by
  rw [compareClosedEvidence]
  cases hvalues : comparedValues observed projected with
  | none =>
    refine ⟨_, _, ?_, rfl⟩
    rw [ne_eq, sortedSet_eq_nil]
    exact List.append_ne_nil_of_right_ne_nil _ (List.cons_ne_nil _ _)
  | some values =>
    have herrors : contextErrors resolver observed projected basis ≠ [] := fun hnil => by
      rw [h hnil] at hvalues
      cases hvalues
    refine ⟨_, _, ?_, if_pos herrors⟩
    rwa [ne_eq, sortedSet_eq_nil]

theorem compareClosedEvidence_of_values {observed projected basis : Members F}
    (herrors : contextErrors resolver observed projected basis = [])
    (hvalues : comparedValues observed projected = some (x, y)) :
    ∃ refs, compareClosedEvidence resolver observed projected basis =
      match ConsensusV2.defaultContext.absSub x y with
      | .error signal => .error (.decimal signal)
      | .ok difference =>
        .ok ⟨true, text "eligible_unclassified", [], refs, some difference.fixedText, none⟩ := by
  rw [compareClosedEvidence, hvalues]
  exact ⟨_, if_neg (not_not.mpr herrors)⟩

omit [Python.FloatOps F] [Python.FloatEq F] in
theorem comparedValues_eq_some {observed projected : Members F} :
    comparedValues observed projected = some (x, y) ↔
      finiteDecimal (get observed (text "value")) = some x ∧
        finiteDecimal (get projected (text "value")) = some y := by
  rw [comparedValues]
  cases finiteDecimal (get observed (text "value")) <;>
    cases finiteDecimal (get projected (text "value")) <;> simp

omit [Python.FloatOps F] [Python.FloatEq F] in
theorem comparedValues_exchanged {observed projected : Members F}
    (h : comparedValues observed projected = some (x, y)) :
    comparedValues
      (Dict.setItem observed (text "value", get projected (text "value")))
      (Dict.setItem projected (text "value", get observed (text "value"))) = some (y, x) := by
  have hget : ∀ (members : Members F) (value : Value F),
      get (Dict.setItem members (text "value", value)) (text "value") = value := by
    intro members value
    rw [Doc.get, Dict.lookup_setItem, if_pos rfl, Option.getD_some]
  rw [comparedValues_eq_some, hget, hget]
  exact (comparedValues_eq_some.mp h).symm

/-- Evidence is comparable when its mappings are closed and nothing is wrong with them. -/
theorem comparable_obj {observed projected basis : Members F}
    (hobserved : closedMembers (.obj observed) observationFields = some observed)
    (hprojected : closedMembers (.obj projected) consensusFields = some projected)
    (hbasis : closedMembers (.obj basis) policyFields = some basis) :
    Comparable resolver (.obj observed) (.obj projected) (.obj basis) x y ↔
      contextErrors resolver observed projected basis = [] ∧
        comparedValues observed projected = some (x, y) := by
  rw [comparedValues_eq_some]
  constructor
  · rintro ⟨⟨_, _, _, ho, hc, hp, herrors⟩, hx, hy⟩
    rw [hobserved, Option.some.injEq] at ho
    rw [hprojected, Option.some.injEq] at hc
    rw [hbasis, Option.some.injEq] at hp
    subst ho hc hp
    exact ⟨herrors, hx, hy⟩
  · rintro ⟨herrors, hx, hy⟩
    exact ⟨⟨_, _, _, hobserved, hprojected, hbasis, herrors⟩, hx, hy⟩

theorem comparesExactly_of_blocked {diagnostics refs : List Text} (hne : diagnostics ≠ [])
    (h : validateAndCompareOpcEvidence resolver observation consensus policy =
      .ok (.blocked diagnostics refs)) :
    ComparesExactly resolver observation consensus policy :=
  ⟨_, h, by
    rw [if_neg (by simp [OpcComparisonResult.blocked])]
    exact ⟨rfl, hne, rfl⟩⟩

theorem validateAndCompareOpcEvidence_of_closed {observed projected basis : Members F}
    (hobserved : closedMembers observation observationFields = some observed)
    (hprojected : closedMembers consensus consensusFields = some projected)
    (hbasis : closedMembers policy policyFields = some basis) :
    validateAndCompareOpcEvidence resolver observation consensus policy =
      compareClosedEvidence resolver observed projected basis := by
  rw [validateAndCompareOpcEvidence, hobserved, hprojected, hbasis]

/-- Comparable values are compared exactly if their distance fits, also when exchanged. -/
theorem comparesExactly_iff_fits {observed projected basis : Members F}
    (hobserved : closedMembers (.obj observed) observationFields = some observed)
    (hprojected : closedMembers (.obj projected) consensusFields = some projected)
    (hbasis : closedMembers (.obj basis) policyFields = some basis)
    (herrors : contextErrors resolver observed projected basis = [])
    (hvalues : comparedValues observed projected = some (x, y)) :
    ComparesExactly resolver (.obj observed) (.obj projected) (.obj basis) ↔
      ConsensusV2.defaultContext.Fits |x.value - y.value| := by
  have hprec : 0 < ConsensusV2.defaultContext.prec := by decide
  have hx := (comparedValues_eq_some.mp hvalues).1
  have hy := (comparedValues_eq_some.mp hvalues).2
  obtain ⟨refs, hcompare⟩ := compareClosedEvidence_of_values herrors hvalues
  have hvalidate :=
    @validateAndCompareOpcEvidence_of_closed F resolver _ _ _ _ _ _ _ _ hobserved hprojected hbasis
  rw [← DecimalContext.absSub_exact_iff hprec]
  constructor
  · rintro ⟨result, hresult, hexact⟩
    rw [hvalidate, hcompare] at hresult
    cases hsub : ConsensusV2.defaultContext.absSub x y with
    | error signal =>
      rw [hsub] at hresult
      cases hresult
    | ok d =>
      rw [hsub] at hresult
      cases hresult
      rw [if_pos rfl] at hexact
      obtain ⟨x', y', difference, _, hx', hy', hdifference, hvalue, -⟩ := hexact
      obtain rfl : x = x' := Option.some.inj (hx.symm.trans hx')
      obtain rfl : y = y' := Option.some.inj (hy.symm.trans hy')
      obtain rfl : d.fixedText = difference := Option.some.inj hdifference
      exact ⟨d, rfl, by rw [← hvalue, ScaledDecimal.decimalValue_fixedText]⟩
  · rintro ⟨d, hd, hvalue⟩
    have hexchanged := comparedValues_exchanged hvalues
    obtain ⟨refs', hcompare'⟩ :=
      compareClosedEvidence_of_values (contextErrors_setItem.trans herrors) hexchanged
    have hwithObserved := closedMembers_withValue (get projected (text "value"))
      (by decide) hobserved
    have hwithProjected := closedMembers_withValue (get observed (text "value"))
      (by decide) hprojected
    rw [DecimalContext.absSub_comm, hd] at hcompare'
    rw [hd] at hcompare
    have hexchange := (validateAndCompareOpcEvidence_of_closed hwithObserved hwithProjected
      hbasis).trans hcompare'
    refine ⟨_, hvalidate.trans hcompare, ?_⟩
    rw [if_pos rfl]
    refine ⟨x, y, d.fixedText, _, hx, hy, rfl, ?_, hexchange, rfl, rfl⟩
    rw [ScaledDecimal.decimalValue_fixedText, hvalue]

/-- A mapping that is not closed blocks the comparison. -/
theorem validateAndCompareOpcEvidence_not_closed
    (h : closedMembers observation observationFields = none ∨
      closedMembers consensus consensusFields = none ∨ closedMembers policy policyFields = none) :
    ∃ diagnostics, diagnostics ≠ [] ∧
      validateAndCompareOpcEvidence resolver observation consensus policy =
        .ok (.blocked diagnostics []) := by
  rw [validateAndCompareOpcEvidence]
  cases hobserved : closedMembers observation observationFields with
  | none => exact ⟨_, by simp [found], rfl⟩
  | some observed =>
    cases hprojected : closedMembers consensus consensusFields with
    | none => exact ⟨_, by simp [found], rfl⟩
    | some projected =>
      cases hbasis : closedMembers policy policyFields with
      | none => exact ⟨_, by simp [found], rfl⟩
      | some basis => simp [hobserved, hprojected, hbasis] at h

/-- The comparison is exact, and returns, exactly when the distance of the values fits into the
context of the interpreter. -/
theorem validateAndCompareOpcEvidence_exact_iff (resolver : ImmutableResolver)
    (observation consensus policy : Value F) :
    ComparesExactly resolver observation consensus policy ↔
      ∀ x y, Comparable resolver observation consensus policy x y →
        ConsensusV2.defaultContext.Fits |x.value - y.value| := by
  by_cases hclosed : closedMembers observation observationFields = none ∨
      closedMembers consensus consensusFields = none ∨ closedMembers policy policyFields = none
  · obtain ⟨diagnostics, hne, hblocked⟩ := validateAndCompareOpcEvidence_not_closed hclosed
    refine iff_of_true (comparesExactly_of_blocked hne hblocked) ?_
    rintro x y ⟨⟨_, _, _, ho, hc, hp, -⟩, -⟩
    rw [ho, hc, hp] at hclosed
    simp at hclosed
  simp only [not_or, ← ne_eq, Option.ne_none_iff_exists'] at hclosed
  obtain ⟨⟨observed, ho⟩, ⟨projected, hc⟩, basis, hp⟩ := hclosed
  obtain ⟨rfl, -⟩ := closedMembers_eq_some.mp ho
  obtain ⟨rfl, -⟩ := closedMembers_eq_some.mp hc
  obtain ⟨rfl, -⟩ := closedMembers_eq_some.mp hp
  simp only [comparable_obj ho hc hp]
  by_cases hvalues : contextErrors resolver observed projected basis = [] →
      comparedValues observed projected = none
  · obtain ⟨diagnostics, refs, hne, hblocked⟩ := compareClosedEvidence_blocked hvalues
    have hvalidate := (validateAndCompareOpcEvidence_of_closed ho hc hp).trans hblocked
    refine iff_of_true (comparesExactly_of_blocked hne hvalidate) ?_
    rintro x y ⟨herrors, hsome⟩
    rw [hvalues herrors] at hsome
    cases hsome
  · obtain ⟨herrors, hne⟩ := Classical.not_imp.mp hvalues
    obtain ⟨⟨x, y⟩, hsome⟩ := Option.ne_none_iff_exists'.mp hne
    rw [comparesExactly_iff_fits ho hc hp herrors hsome]
    constructor
    · rintro hfits x' y' ⟨-, hsome'⟩
      obtain ⟨rfl, rfl⟩ := Prod.mk.inj (Option.some.inj (hsome.symm.trans hsome'))
      exact hfits
    · exact fun hfits => hfits x y ⟨herrors, hsome⟩

/-! ## Examples -/

def opcText (t : String) : Value ℚ := .str (text t)

def opcIdentity (n : Fin 16) : Value ℚ := .str (sampleId n).val

/-- Evidence with nothing wrong in it but perhaps its value -/
def opcObservation (value : String) : Value ℚ :=
  .obj [(text "schema_version", opcText "ScadaObservation.v2"),
    (text "observation_id", opcIdentity 1), (text "experiment_id", opcIdentity 2),
    (text "run_id", opcIdentity 3), (text "cycle_id", opcIdentity 4),
    (text "correlation_id", opcIdentity 5), (text "endpoint_id", opcIdentity 6),
    (text "namespace_id", opcIdentity 7), (text "node_id", opcText "ns=2;s=current"),
    (text "profile_revision_id", opcIdentity 8),
    (text "snapshot_revision_id", opcIdentity 9),
    (text "source_branch_id", opcText "independent_opc"),
    (text "status_code", opcText "Good"),
    (text "source_timestamp", opcText "2026-01-01T00:00:00Z"),
    (text "server_timestamp", opcText "2026-01-01T00:00:00Z"), (text "fresh", .bool true),
    (text "attempt_count", .num (.int 1)), (text "value", opcText value),
    (text "unit", opcText "mA"), (text "source_reference", opcIdentity 10)]

def opcConsensus (value : String) : Value ℚ :=
  .obj [(text "schema_version", opcText "ConsensusDecision.v2"),
    (text "decision_id", opcIdentity 11), (text "experiment_id", opcIdentity 2),
    (text "run_id", opcIdentity 3), (text "cycle_id", opcIdentity 4),
    (text "correlation_id", opcIdentity 5), (text "profile_revision_id", opcIdentity 8),
    (text "preconsensus_branch_id", opcText "physical_branch"),
    (text "value", opcText value), (text "unit", opcText "mA"),
    (text "source_reference", opcIdentity 12)]

def opcPolicy : Value ℚ :=
  .obj [(text "schema_version", opcText "OPC-Evidence-Comparison.v1"),
    (text "policy_id", opcIdentity 13), (text "basis_id", opcIdentity 14),
    (text "basis_kind", opcText "same_profile_raw_current"), (text "unit", opcText "mA"),
    (text "parameter_ids", .obj [(text "freshness_limit", opcIdentity 15),
      (text "source_server_skew_limit", opcIdentity 0),
      (text "comparison_tolerance", opcIdentity 1)])]

/-- The difference of a comparison -/
def opcDifference (observed consensus : String) : Except (Raised Empty) (Option Text) :=
  (validateAndCompareOpcEvidence (fun _ => true) (opcObservation observed) (opcConsensus consensus)
    opcPolicy).map (·.difference)

example : (opcDifference "4.0" "4.25").toOption = some (some (text "0.25")) := by decide +kernel

/-- A distance of two digits fits. -/
theorem opc_comparesExactly : ComparesExactly (fun _ => true) (opcObservation "4.0")
    (opcConsensus "4.25") opcPolicy := by
  refine (validateAndCompareOpcEvidence_exact_iff _ _ _ _).mpr ?_
  rintro x y ⟨-, hx, hy⟩
  have hobserved : finiteDecimal (valueOf (opcObservation "4.0")) = some ⟨40, -1⟩ := by
    decide +kernel
  have hprojected : finiteDecimal (valueOf (opcConsensus "4.25")) = some ⟨425, -2⟩ := by
    decide +kernel
  obtain rfl : ⟨40, -1⟩ = x := Option.some.inj (hobserved.symm.trans hx)
  obtain rfl : ⟨425, -2⟩ = y := Option.some.inj (hprojected.symm.trans hy)
  have hdistance : |ScaledDecimal.value ⟨40, -1⟩ - ScaledDecimal.value ⟨425, -2⟩| = 25 / 100 := by
    norm_num [ScaledDecimal.value]
  have hrange : (1 : ℚ) ≤ 10 ^ (ConsensusV2.defaultContext.emax + 1) :=
    one_le_zpow₀ (by norm_num) (by decide)
  rw [hdistance]
  refine ⟨25, -2, by norm_num, by decide, by decide, lt_of_lt_of_le ?_ hrange⟩
  norm_num

/-- A distance of 29 digits is rounded, and one that is too large raises. -/
theorem opc_not_comparesExactly :
    ¬ComparesExactly (fun _ => true) (opcObservation "1") (opcConsensus "1e-29") opcPolicy ∧
    ¬ComparesExactly (fun _ => true) (opcObservation "9e999999") (opcConsensus "-9e999999")
      opcPolicy := by
  constructor
  · rintro ⟨result, hresult, hexact⟩
    have hrounded : (opcDifference "1" "1e-29").toOption =
        some (some (text "1.000000000000000000000000000")) := by decide +kernel
    have hobserved : finiteDecimal (valueOf (opcObservation "1")) = some ⟨1, 0⟩ := by
      decide +kernel
    have hprojected : finiteDecimal (valueOf (opcConsensus "1e-29")) = some ⟨1, -29⟩ := by
      decide +kernel
    rw [opcDifference, hresult] at hrounded
    have hdifference : result.difference = some (text "1.000000000000000000000000000") :=
      Option.some.inj hrounded
    split_ifs at hexact
    · obtain ⟨x, y, difference, _, hx, hy, hsome, hvalue, -⟩ := hexact
      obtain rfl : ⟨1, 0⟩ = x := Option.some.inj (hobserved.symm.trans hx)
      obtain rfl : ⟨1, -29⟩ = y := Option.some.inj (hprojected.symm.trans hy)
      obtain rfl := Option.some.inj (hdifference.symm.trans hsome)
      have hone : DecimalText.decimalValue (text "1.000000000000000000000000000") = 1 := by
        decide +kernel
      rw [hone] at hvalue
      norm_num [ScaledDecimal.value] at hvalue
    · rw [hdifference] at hexact
      cases hexact.2.2
  · rintro ⟨result, hresult, -⟩
    have hraised : (opcDifference "9e999999" "-9e999999").toOption = none := by decide +kernel
    rw [opcDifference, hresult] at hraised
    cases hraised

end TruthFingerprint.Evidence
