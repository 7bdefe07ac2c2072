import Mathlib
import TruthFingerprint.Identity
import TruthFingerprint.Lib.ExactDecimal
import TruthFingerprint.Lib.Loops
import TruthFingerprint.Python.Coercions
import TruthFingerprint.Evidence.Manifests
import TruthFingerprint.Evidence.ParameterRecords

/-!
# Derived parameters

A parameter may be derived from others by the affine map between two points. The map is evaluated
with fifty digits, and every rounding is an error: what is accepted is exact, and what is exact is
accepted if the context holds each intermediate result (`validateDerivation_exact`).
-/

namespace TruthFingerprint.Evidence.Parameter

/-! ## Texts and numbers -/

/-- `_nonblank` -/
def nonblank (t : Text) : Bool := Python.strip t ≠ [] && t = Python.strip t

def nonblankOption (t : Option Text) : Bool := t.any nonblank

/-- The full match of `DECIMAL_PATTERN`, without the negative zero -/
def isCanonicalDecimal (t : Text) : Bool :=
  DecimalText.isDecimal t && !(t.contains '.'.codePoint && t.getLast? = some '0'.codePoint) &&
    !(t.head? = some '-'.codePoint && DecimalText.decimalValue t = 0)

/-- `_decimal` -/
def decimal (t : Option Text) : Option ScaledDecimal :=
  t.bind fun t => if isCanonicalDecimal t then some (.ofText t) else none

example : decimal (some (text "-0.50")) = none ∧ decimal (some (text "2.5")) = some ⟨25, -1⟩ := by
  decide +kernel

/-- Two numbers, or two times none, that are equal -/
def sameNumber (x y : Option ScaledDecimal) : Bool :=
  x.map ScaledDecimal.value = y.map ScaledDecimal.value

/-- `_scalar` -/
def scalar (record : ParameterRevision) : Option ScaledDecimal :=
  if record.value.kind = NumericValueKind.scalar.value then decimal record.value.scalar else none

/-! ## Violations -/

/-- What a violation points at, of which the result has the text -/
inductive Offending where
  | token (t : Text)
  | absent
  | flag (b : Bool)
  | value (v : NumericValue)
  | list (ts : List Text)
  | tuple (ts : List Text)
deriving DecidableEq

def Offending.ofOption (t : Option Text) : Offending :=
  match t with
  | none => .absent
  | some t => .token t

structure ParameterViolation where
  ruleId : Text
  recordId : Text
  fieldPath : Text
  offending : Offending
  explanation : Text
deriving DecidableEq

/-- `_violation` -/
def violated (ruleId : String) (recordId : Text) (fieldPath : String) (offending : Offending)
    (explanation : String) : ParameterViolation :=
  ⟨text ruleId, recordId, text fieldPath, offending, text explanation⟩

/-! ## Derived authority -/

abbrev Records := List (Text × ParameterRevision)

/-- `AFFINE_OPERATION` -/
def affineOperation : Text := text "affine_map.v1"

/-- The context of fifty digits, in which every rounding is trapped -/
def affineContext : DecimalContext := ⟨50, -999999, 999999⟩

namespace DerivationSpec

variable (spec : DerivationSpec)

/-- The revisions that the derivation starts from -/
def inputs : List Text :=
  [spec.inputLowRevisionId, spec.inputHighRevisionId, spec.outputLowRevisionId,
    spec.outputHighRevisionId] ++ spec.selectedInputRevisionId.toList

/-- The affine map between the endpoints, where every step is exact -/
def apply (x0 x1 y0 y1 x : ScaledDecimal) : Option ScaledDecimal := do
  let rise ← affineContext.exact (y1.sub y0)
  let offset ← affineContext.exact (x.sub x0)
  let product ← affineContext.exact (rise.mul offset)
  let run ← affineContext.exact (x1.sub x0)
  let quotient ← affineContext.exactQuotient product run
  affineContext.exact (y0.add quotient)

/-- The declared output is what the map makes of the selected input, and the value of the record. -/
def constantResultHolds (record : ParameterRevision) (records : Records)
    (x0 x1 y0 y1 : ScaledDecimal) : Bool :=
  let selected := (records.lookup (spec.selectedInputRevisionId.getD [])).bind scalar
  let expected := decimal spec.declaredOutput
  selected.isSome && expected.isSome &&
    (selected.bind (apply x0 x1 y0 y1)).any fun result =>
      sameNumber (some result) expected && sameNumber expected (scalar record)

/-- `(x0 + x1) / Decimal("2")` -/
def midpoint (x0 x1 : ScaledDecimal) : Option ScaledDecimal := do
  let sum ← affineContext.exact (x0.add x1)
  affineContext.exactQuotient sum ⟨2, 0⟩

/-- The vectors are at the endpoints and between them, and the map agrees with each. -/
def observationTransformHolds (x0 x1 y0 y1 : ScaledDecimal) : Bool :=
  (midpoint x0 x1).any fun midpoint =>
    let vectorInputs := spec.conformanceVectors.map fun vector => decimal (some vector.inputValue)
    let values := vectorInputs.map (·.map ScaledDecimal.value)
    let expectedValues := [some x0.value, some midpoint.value, some x1.value]
    spec.selectedInputRevisionId.isNone && nonblankOption spec.observationVariable &&
      spec.observationUnit.any (· ∈ units) && spec.conformanceVectors.length = 3 &&
      vectorInputs.all Option.isSome && values.Nodup && values ⊆ expectedValues &&
      expectedValues ⊆ values && spec.conformanceVectors.all fun vector =>
        (decimal (some vector.expectedOutput)).isSome &&
          ((decimal (some vector.inputValue)).bind (apply x0 x1 y0 y1)).any fun result =>
            sameNumber (some result) (decimal (some vector.expectedOutput))

def reproduces (record : ParameterRevision) (records : Records) (x0 x1 y0 y1 : ScaledDecimal) :
    Bool :=
  if spec.derivationKind = text "constant_result" then
    spec.constantResultHolds record records x0 x1 y0 y1
  else if spec.derivationKind = text "observation_transform" then
    spec.observationTransformHolds x0 x1 y0 y1
  else false

/-- The first issue about the units and quantity kinds of the endpoints -/
def axisIssue (record low high outputLow outputHigh : ParameterRevision)
    (selected : Option ParameterRevision) : Option ParameterViolation :=
  let refs := Offending.list spec.inputs
  if low.unit ≠ high.unit ∨ outputLow.unit ≠ outputHigh.unit then
    some (violated "PAR-UNIT-INVALID" spec.derivationId "inputs.unit" refs
      "Affine endpoint units must agree on each axis.")
  else if low.quantityKind ≠ high.quantityKind ∨ outputLow.quantityKind ≠ outputHigh.quantityKind ∨
      selected.any (·.quantityKind ≠ low.quantityKind) then
    some (violated "PAR-UNIT-INVALID" spec.derivationId "inputs.quantity_kind" refs
      "Affine endpoint and selected-input quantity kinds must agree by axis.")
  else if selected.any (·.unit ≠ low.unit) ∨ spec.derivationKind = text "observation_transform" ∧
      spec.observationUnit.getD (text "None") ≠ low.unit then
    some (violated "PAR-UNIT-INVALID" spec.derivationId "observation_unit"
      (.ofOption spec.observationUnit)
      "Selected or observed input unit must match the affine input axis.")
  else if outputLow.unit ≠ spec.outputUnit ∨ record.unit ≠ spec.outputUnit then
    some (violated "PAR-UNIT-INVALID" spec.derivationId "output_unit" (.token spec.outputUnit)
      "Derivation, endpoint, and parameter output units must agree.")
  else if outputLow.quantityKind ≠ outputHigh.quantityKind ∨
      record.quantityKind ≠ outputLow.quantityKind then
    some (violated "PAR-UNIT-INVALID" spec.derivationId "output_quantity_kind"
      (.token record.quantityKind)
      "Derivation and output endpoints must retain one quantity kind.")
  else none

/-- The first issue of a derivation whose inputs are found -/
def endpointIssue (record : ParameterRevision) (records : Records)
    (low high outputLow outputHigh : ParameterRevision) : Option ParameterViolation :=
  let selected := spec.selectedInputRevisionId.bind fun id => records.lookup id
  match scalar low, scalar high, scalar outputLow, scalar outputHigh with
  | some x0, some x1, some y0, some y1 =>
    if x0.value = x1.value then
      some (violated "PAR-DERIVATION-INVALID" spec.derivationId "inputs" (.list spec.inputs)
        "Affine endpoints must be scalar and the input span nonzero.")
    else match spec.axisIssue record low high outputLow outputHigh selected with
      | some issue => some issue
      | none =>
        if spec.reproduces record records x0 x1 y0 y1 then none
        else some (violated "PAR-DERIVATION-INVALID" spec.derivationId "reproduced_output"
          (.ofOption spec.declaredOutput)
          "Affine reproduction/conformance must match exactly without rounding.")
  | _, _, _, _ => some (violated "PAR-DERIVATION-INVALID" spec.derivationId "inputs"
      (.list spec.inputs) "Affine endpoints must be scalar and the input span nonzero.")

end DerivationSpec

/-- `_validate_derivation` -/
def validateDerivation (record : ParameterRevision) (spec : Option DerivationSpec)
    (records : Records) : Option ParameterViolation :=
  match spec with
  | none => some (violated "PAR-REFERENCE-UNRESOLVED" record.parameterRevisionId
      "derived_authority.derivation_id" (.token (text "missing"))
      "Derived authority must resolve an immutable derivation.")
  | some spec =>
    if spec.operation ≠ affineOperation ∨ spec.decimalPrecision ≠ 50 ∨
        spec.rounding ≠ text "ROUND_HALF_EVEN" then
      some (violated "PAR-DERIVATION-INVALID" spec.derivationId "operation"
        (.token spec.operation)
        "Only affine_map.v1 with the pinned decimal policy is allowed.")
    else
      let missing := violated "PAR-DERIVATION-INVALID" spec.derivationId "inputs"
        (.list spec.inputs) "Every affine operand must be a distinct exact parameter revision."
      if ¬spec.inputs.Nodup ∨ spec.inputs.any (fun id => (records.lookup id).isNone) then
        some missing
      else
        match records.lookup spec.inputLowRevisionId, records.lookup spec.inputHighRevisionId,
          records.lookup spec.outputLowRevisionId, records.lookup spec.outputHighRevisionId with
        | some low, some high, some outputLow, some outputHigh =>
          spec.endpointIssue record records low high outputLow outputHigh
        | _, _, _, _ => some missing

/-! ## What an accepted derivation is -/

/-- The affine map between two points -/
def affine (x0 x1 y0 y1 x : ℚ) : ℚ := y0 + (y1 - y0) * (x - x0) / (x1 - x0)

/-- Every intermediate result, exact and with its own exponent, is held by the context. -/
structure Evaluable (x0 x1 y0 y1 x : ScaledDecimal) : Prop where
  rise : affineContext.Holds (y1.sub y0)
  offset : affineContext.Holds (x.sub x0)
  product : affineContext.Holds
    ((affineContext.clamp (y1.sub y0)).mul (affineContext.clamp (x.sub x0)))
  run : affineContext.Holds (x1.sub x0)
  quotient : ∃ quotient, ScaledDecimal.IsQuotient
    (affineContext.clamp ((affineContext.clamp (y1.sub y0)).mul (affineContext.clamp (x.sub x0))))
    (affineContext.clamp (x1.sub x0)) quotient ∧ affineContext.Holds quotient ∧
    affineContext.Holds (y0.add (affineContext.clamp quotient))

structure MidpointEvaluable (x0 x1 : ScaledDecimal) : Prop where
  sum : affineContext.Holds (x0.add x1)
  quotient : ∃ quotient, ScaledDecimal.IsQuotient (affineContext.clamp (x0.add x1)) ⟨2, 0⟩ quotient ∧
    affineContext.Holds quotient

section Steps

variable {x0 x1 y0 y1 x result : ScaledDecimal}

theorem exists_apply : (∃ result, DerivationSpec.apply x0 x1 y0 y1 x = some result) ↔
    Evaluable x0 x1 y0 y1 x := by
  simp only [DerivationSpec.apply, bind, Option.bind_eq_some_iff, DecimalContext.exact_eq_some_iff,
    DecimalContext.exactQuotient_eq_some_iff]
  constructor
  · rintro ⟨result, _, ⟨hrise, rfl⟩, _, ⟨hoffset, rfl⟩, _, ⟨hproduct, rfl⟩, _, ⟨hrun, rfl⟩, _,
      ⟨quotient, hquotient, hholds, rfl⟩, hresult, -⟩
    exact ⟨hrise, hoffset, hproduct, hrun, quotient, hquotient, hholds, hresult⟩
  · rintro ⟨hrise, hoffset, hproduct, hrun, quotient, hquotient, hholds, hresult⟩
    exact ⟨_, _, ⟨hrise, rfl⟩, _, ⟨hoffset, rfl⟩, _, ⟨hproduct, rfl⟩, _, ⟨hrun, rfl⟩, _,
      ⟨quotient, hquotient, hholds, rfl⟩, hresult, rfl⟩

theorem value_apply (h : DerivationSpec.apply x0 x1 y0 y1 x = some result) :
    result.value = affine x0.value x1.value y0.value y1.value x.value := by
  simp only [DerivationSpec.apply, bind, Option.bind_eq_some_iff] at h
  obtain ⟨rise, hrise, offset, hoffset, product, hproduct, run, hrun, quotient, hquotient, h⟩ := h
  rw [DecimalContext.value_of_exact h, ScaledDecimal.value_add,
    DecimalContext.value_of_exactQuotient hquotient, DecimalContext.value_of_exact hproduct,
    ScaledDecimal.value_mul, DecimalContext.value_of_exact hrise, DecimalContext.value_of_exact hoffset,
    DecimalContext.value_of_exact hrun, ScaledDecimal.value_sub, ScaledDecimal.value_sub,
    ScaledDecimal.value_sub, affine]

theorem exists_midpoint : (∃ result, DerivationSpec.midpoint x0 x1 = some result) ↔
    MidpointEvaluable x0 x1 := by
  simp only [DerivationSpec.midpoint, bind, Option.bind_eq_some_iff,
    DecimalContext.exact_eq_some_iff, DecimalContext.exactQuotient_eq_some_iff]
  constructor
  · rintro ⟨result, _, ⟨hsum, rfl⟩, quotient, hquotient, hholds, -⟩
    exact ⟨hsum, quotient, hquotient, hholds⟩
  · rintro ⟨hsum, quotient, hquotient, hholds⟩
    exact ⟨_, _, ⟨hsum, rfl⟩, quotient, hquotient, hholds, rfl⟩

theorem value_midpoint (h : DerivationSpec.midpoint x0 x1 = some result) :
    result.value = (x0.value + x1.value) / 2 := by
  simp only [DerivationSpec.midpoint, bind, Option.bind_eq_some_iff] at h
  obtain ⟨sum, hsum, h⟩ := h
  rw [DecimalContext.value_of_exactQuotient h, DecimalContext.value_of_exact hsum,
    ScaledDecimal.value_add]
  simp [ScaledDecimal.value]

/-- The midpoint and the endpoints of the inputs are mapped to those of the outputs. -/
theorem affine_points {a b c d : ℚ} (h : a ≠ b) :
    affine a b c d a = c ∧ affine a b c d ((a + b) / 2) = (c + d) / 2 ∧ affine a b c d b = d := by
  have hrun : b - a ≠ 0 := sub_ne_zero.mpr h.symm
  refine ⟨?_, ?_, ?_⟩
  · rw [affine, sub_self, mul_zero, zero_div, add_zero]
  · rw [affine]
    field_simp
    ring
  · rw [affine, mul_div_assoc, div_self hrun]
    ring

end Steps

/-! ### The results -/

section Results

variable {spec : DerivationSpec} {record : ParameterRevision} {records : Records}
  {x0 x1 y0 y1 : ScaledDecimal}

/-- The declared output and the scalar of the record are what the map makes of the selected input. -/
def ConstantResult (spec : DerivationSpec) (record : ParameterRevision) (records : Records)
    (x0 x1 y0 y1 : ScaledDecimal) : Prop :=
  ∃ x expected own, (records.lookup (spec.selectedInputRevisionId.getD [])).bind scalar = some x ∧
    decimal spec.declaredOutput = some expected ∧ scalar record = some own ∧
    Evaluable x0 x1 y0 y1 x ∧
    expected.value = affine x0.value x1.value y0.value y1.value x.value ∧
    own.value = affine x0.value x1.value y0.value y1.value x.value

/-- What a vector says, if its texts are decimals -/
def ConformanceVector.point (vector : ConformanceVector) : Option (ScaledDecimal × ScaledDecimal) := do
  let input ← decimal (some vector.inputValue)
  let output ← decimal (some vector.expectedOutput)
  some (input, output)

/-- The vectors are the two endpoints and the midpoint, with their images. -/
structure ObservationTransform (spec : DerivationSpec) (x0 x1 y0 y1 : ScaledDecimal) : Prop where
  unselected : spec.selectedInputRevisionId = none
  variable_nonblank : nonblankOption spec.observationVariable
  unit : ∃ unit ∈ units, spec.observationUnit = some unit
  midpoint : MidpointEvaluable x0 x1
  vectors : ∃ points, spec.conformanceVectors.mapM ConformanceVector.point = some points ∧
    (∀ point ∈ points, Evaluable x0 x1 y0 y1 point.1) ∧
    (points.map fun point => (point.1.value, point.2.value)).Perm
      [(x0.value, y0.value), ((x0.value + x1.value) / 2, (y0.value + y1.value) / 2),
        (x1.value, y1.value)]

theorem sameNumber_iff {x y : Option ScaledDecimal} :
    sameNumber x y ↔ x.map ScaledDecimal.value = y.map ScaledDecimal.value := decide_eq_true_iff

theorem constantResultHolds_iff :
    spec.constantResultHolds record records x0 x1 y0 y1 ↔ ConstantResult spec record records x0 x1 y0 y1 := by
  rw [DerivationSpec.constantResultHolds, ConstantResult]
  simp only [Bool.and_eq_true, Option.any_eq_true, sameNumber_iff, Option.bind_eq_some_iff]
  constructor
  · rintro ⟨⟨-, hexpected⟩, result, ⟨x, hx, hresult⟩, hdeclared, hown⟩
    obtain ⟨expected, hexpected⟩ := Option.isSome_iff_exists.mp hexpected
    rw [hexpected, Option.map_some, Option.map_some] at hdeclared
    rw [hexpected, Option.map_some, eq_comm, Option.map_eq_some_iff] at hown
    obtain ⟨own, hown, hvalue⟩ := hown
    have hdeclared := Option.some.inj hdeclared
    have hresult' := value_apply hresult
    exact ⟨x, expected, own, hx, hexpected, hown, exists_apply.mp ⟨result, hresult⟩,
      hdeclared ▸ hresult', hvalue.trans (hdeclared ▸ hresult')⟩
  · rintro ⟨x, expected, own, hx, hexpected, hown, hevaluable, hdeclared, hvalue⟩
    obtain ⟨result, hresult⟩ := exists_apply.mpr hevaluable
    have hselected : ((records.lookup (spec.selectedInputRevisionId.getD [])).bind scalar).isSome :=
      Option.isSome_iff_exists.mpr ⟨x, Option.bind_eq_some_iff.mpr hx⟩
    refine ⟨⟨hselected, by rw [hexpected]; rfl⟩, result, ⟨x, hx, hresult⟩, ?_, ?_⟩
    · rw [hexpected, Option.map_some, Option.map_some, value_apply hresult, hdeclared]
    · rw [hexpected, hown, Option.map_some, Option.map_some, hdeclared, hvalue]

theorem point_eq_some_iff {vector : ConformanceVector} {point : ScaledDecimal × ScaledDecimal} :
    vector.point = some point ↔ decimal (some vector.inputValue) = some point.1 ∧
      decimal (some vector.expectedOutput) = some point.2 := by
  simp only [ConformanceVector.point, bind, Option.bind_eq_some_iff]
  constructor
  · rintro ⟨input, hinput, output, houtput, heq⟩
    obtain rfl := Option.some.inj heq
    exact ⟨hinput, houtput⟩
  · rintro ⟨hinput, houtput⟩
    exact ⟨_, hinput, _, houtput, rfl⟩

/-- The check of a vector -/
def agrees (x0 x1 y0 y1 : ScaledDecimal) (vector : ConformanceVector) : Bool :=
  (decimal (some vector.expectedOutput)).isSome &&
    ((decimal (some vector.inputValue)).bind (DerivationSpec.apply x0 x1 y0 y1)).any fun result =>
      sameNumber (some result) (decimal (some vector.expectedOutput))

theorem agrees_iff {vector : ConformanceVector} {point : ScaledDecimal × ScaledDecimal}
    (h : vector.point = some point) : agrees x0 x1 y0 y1 vector ↔ Evaluable x0 x1 y0 y1 point.1 ∧
      point.2.value = affine x0.value x1.value y0.value y1.value point.1.value := by
  obtain ⟨hinput, houtput⟩ := point_eq_some_iff.mp h
  rw [agrees, hinput, houtput, Option.isSome_some, Bool.true_and, Option.bind_some, Option.any_eq_true,
    ← exists_apply]
  simp only [sameNumber_iff, Option.map_some, Option.some_inj]
  constructor
  · rintro ⟨result, hresult, heq⟩
    exact ⟨⟨result, hresult⟩, heq ▸ value_apply hresult⟩
  · rintro ⟨⟨result, hresult⟩, heq⟩
    exact ⟨result, hresult, (value_apply hresult).trans heq.symm⟩

theorem inputs_of_points {vectors : List ConformanceVector}
    {points : List (ScaledDecimal × ScaledDecimal)}
    (h : vectors.mapM ConformanceVector.point = some points) :
    (vectors.map fun vector => decimal (some vector.inputValue)) = points.map fun p => some p.1 :=
  (List.map_eq_of_mapM (fun _ _ _ hpoint => (point_eq_some_iff.mp hpoint).1.symm) h).symm

/-- Vectors at the three points are mapped as the points are, if each agrees with the map. -/
theorem points_perm_iff (hspan : x0.value ≠ x1.value)
    {points : List (ScaledDecimal × ScaledDecimal)} :
    (points.map fun point => (point.1.value, point.2.value)).Perm
        [(x0.value, y0.value), ((x0.value + x1.value) / 2, (y0.value + y1.value) / 2),
          (x1.value, y1.value)] ↔
      (points.map fun point => point.1.value).Perm
        [x0.value, (x0.value + x1.value) / 2, x1.value] ∧
      ∀ point ∈ points,
        point.2.value = affine x0.value x1.value y0.value y1.value point.1.value := by
  obtain ⟨hlow, hmiddle, hhigh⟩ := affine_points (c := y0.value) (d := y1.value) hspan
  constructor
  · intro h
    refine ⟨by simpa [Function.comp_def] using h.map Prod.fst, fun point hpoint => ?_⟩
    have hmem := h.subset (List.mem_map_of_mem hpoint)
    simp only [List.mem_cons, List.not_mem_nil, or_false, Prod.mk.injEq] at hmem
    rcases hmem with ⟨hinput, houtput⟩ | ⟨hinput, houtput⟩ | ⟨hinput, houtput⟩
    · rw [hinput, houtput, hlow]
    · rw [hinput, houtput, hmiddle]
    · rw [hinput, houtput, hhigh]
  · rintro ⟨h, hagree⟩
    have hpairs : (points.map fun point => (point.1.value, point.2.value)) =
        (points.map fun point => point.1.value).map fun x =>
          (x, affine x0.value x1.value y0.value y1.value x) := by
      rw [List.map_map]
      exact List.map_congr_left fun point hpoint => Prod.ext rfl (hagree point hpoint)
    have hmap := h.map fun x => (x, affine x0.value x1.value y0.value y1.value x)
    rw [List.map_cons, List.map_cons, List.map_cons, List.map_nil, hlow, hmiddle, hhigh] at hmap
    exact hpairs ▸ hmap

/-- The vectors are three, at three different points, and agree with the map at each. -/
theorem observationTransformHolds_eq : spec.observationTransformHolds x0 x1 y0 y1 =
    (DerivationSpec.midpoint x0 x1).any fun midpoint =>
      let inputs := spec.conformanceVectors.map fun vector => decimal (some vector.inputValue)
      let values := inputs.map (·.map ScaledDecimal.value)
      let expected := [some x0.value, some midpoint.value, some x1.value]
      spec.selectedInputRevisionId.isNone && nonblankOption spec.observationVariable &&
        spec.observationUnit.any (· ∈ units) && spec.conformanceVectors.length = 3 &&
        inputs.all Option.isSome && values.Nodup && values ⊆ expected && expected ⊆ values &&
        spec.conformanceVectors.all (agrees x0 x1 y0 y1) := rfl

/-- What the vectors say, when all their texts are decimals -/
theorem exists_points (hinputs : ∀ vector ∈ spec.conformanceVectors,
      (decimal (some vector.inputValue)).isSome)
    (hagrees : ∀ vector ∈ spec.conformanceVectors, agrees x0 x1 y0 y1 vector) :
    ∃ points, spec.conformanceVectors.mapM ConformanceVector.point = some points ∧
      ∀ point ∈ points, Evaluable x0 x1 y0 y1 point.1 ∧
        point.2.value = affine x0.value x1.value y0.value y1.value point.1.value := by
  have hpoint : ∀ vector ∈ spec.conformanceVectors, ∃ point, vector.point = some point := by
    intro vector hvector
    obtain ⟨input, hinput⟩ := Option.isSome_iff_exists.mp (hinputs vector hvector)
    have hagree := hagrees vector hvector
    rw [agrees, Bool.and_eq_true] at hagree
    obtain ⟨output, houtput⟩ := Option.isSome_iff_exists.mp hagree.1
    exact ⟨(input, output), point_eq_some_iff.mpr ⟨hinput, houtput⟩⟩
  obtain ⟨points, hpoints⟩ := List.exists_mapM_eq_some hpoint
  refine ⟨points, hpoints, fun point hmem => ?_⟩
  obtain ⟨vector, hvector, hpoint⟩ := List.exists_of_mem_mapM hpoints hmem
  exact (agrees_iff hpoint).mp (hagrees vector hvector)

theorem observationTransformHolds_iff (hspan : x0.value ≠ x1.value) :
    spec.observationTransformHolds x0 x1 y0 y1 ↔ ObservationTransform spec x0 x1 y0 y1 := by
  have hsome : ∀ points : List (ScaledDecimal × ScaledDecimal),
      (points.map fun point => some point.1).map (·.map ScaledDecimal.value) =
        (points.map fun point => point.1.value).map some := by simp
  have hexpected : ∀ a b c : ℚ, [some a, some b, some c] = [a, b, c].map some := fun _ _ _ => rfl
  rw [observationTransformHolds_eq, Option.any_eq_true]
  simp only [Bool.and_eq_true, decide_eq_true_eq, Option.isNone_iff_eq_none, List.all_eq_true,
    Option.any_eq_true, hexpected]
  constructor
  · rintro ⟨midpoint, hmidpoint, ⟨⟨⟨⟨⟨⟨⟨hunselected, hvariable⟩, hunit⟩, hlength⟩, hinputs⟩, hnodup⟩,
      hsubset⟩, -⟩, hagrees⟩
    obtain ⟨unit, hunit, hmem⟩ := hunit
    obtain ⟨points, hpoints, hevaluable⟩ := exists_points
      (fun vector hvector => hinputs _ (List.mem_map_of_mem hvector)) hagrees
    rw [inputs_of_points hpoints, hsome, value_midpoint hmidpoint] at hsubset
    rw [inputs_of_points hpoints, hsome] at hnodup
    have hthree : points.length = 3 := by
      rw [← (List.mapM_eq_some_iff.mp hpoints).length_eq, hlength]
    have hperm : (points.map fun point => point.1.value).Perm
        [x0.value, (x0.value + x1.value) / 2, x1.value] := by
      have hsub : (points.map fun point => point.1.value) ⊆
          [x0.value, (x0.value + x1.value) / 2, x1.value] := fun x hx => by
        simpa using hsubset (List.mem_map_of_mem (f := some) hx)
      refine (hnodup.of_map.subperm hsub).perm_of_length_le ?_
      rw [List.length_map, hthree]
      rfl
    exact ⟨hunselected, hvariable, ⟨unit, hmem, hunit⟩, exists_midpoint.mp ⟨midpoint, hmidpoint⟩,
      points, hpoints, fun point hpoint => (hevaluable point hpoint).1,
      (points_perm_iff hspan).mpr ⟨hperm, fun point hpoint => (hevaluable point hpoint).2⟩⟩
  · intro h
    obtain ⟨midpoint, hmidpoint⟩ := exists_midpoint.mpr h.midpoint
    obtain ⟨unit, hmem, hunit⟩ := h.unit
    obtain ⟨points, hpoints, hevaluable, hperm⟩ := h.vectors
    obtain ⟨hperm, hagree⟩ := (points_perm_iff hspan).mp hperm
    have hnodup : [x0.value, (x0.value + x1.value) / 2, x1.value].Nodup := by
      have hlow : x0.value ≠ (x0.value + x1.value) / 2 := fun heq => hspan (by linarith)
      have hhigh : (x0.value + x1.value) / 2 ≠ x1.value := fun heq => hspan (by linarith)
      simp [hlow, hhigh, hspan]
    have hvalues := hperm.map some
    refine ⟨midpoint, hmidpoint, ⟨⟨⟨⟨⟨⟨⟨h.unselected, h.variable_nonblank⟩, unit, hunit, hmem⟩, ?_⟩,
      ?_⟩, ?_⟩, ?_⟩, ?_⟩, ?_⟩
    · rw [(List.mapM_eq_some_iff.mp hpoints).length_eq, ← List.length_map (f := fun point => point.1.value),
        hperm.length_eq]
      rfl
    · rw [inputs_of_points hpoints]
      intro input hinput
      obtain ⟨point, -, rfl⟩ := List.mem_map.mp hinput
      rfl
    · rw [inputs_of_points hpoints, hsome]
      exact (hperm.nodup_iff.mpr hnodup).map (Option.some_injective _)
    · rw [inputs_of_points hpoints, hsome, value_midpoint hmidpoint]
      exact hvalues.subset
    · rw [inputs_of_points hpoints, hsome, value_midpoint hmidpoint]
      exact hvalues.symm.subset
    · intro vector hvector
      obtain ⟨point, hmem, hpoint⟩ := List.exists_of_mapM_eq_some hpoints hvector
      exact (agrees_iff hpoint).mpr ⟨hevaluable point hmem, hagree point hmem⟩

end Results

/-! ### The conditions -/

/-- The derivation is of the one operation, from revisions that are there and fit together. -/
structure WellPosed (spec : DerivationSpec) (record : ParameterRevision) (records : Records)
    (low high outputLow outputHigh : ParameterRevision) (x0 x1 y0 y1 : ScaledDecimal) : Prop where
  operation : spec.operation = affineOperation
  precision : spec.decimalPrecision = 50
  rounding : spec.rounding = text "ROUND_HALF_EVEN"
  distinct : spec.inputs.Nodup
  lookup_low : records.lookup spec.inputLowRevisionId = some low
  lookup_high : records.lookup spec.inputHighRevisionId = some high
  lookup_outputLow : records.lookup spec.outputLowRevisionId = some outputLow
  lookup_outputHigh : records.lookup spec.outputHighRevisionId = some outputHigh
  lookup_selected : ∀ id, spec.selectedInputRevisionId = some id → ∃ selected,
    records.lookup id = some selected ∧ selected.quantityKind = low.quantityKind ∧
      selected.unit = low.unit
  scalar_low : scalar low = some x0
  scalar_high : scalar high = some x1
  scalar_outputLow : scalar outputLow = some y0
  scalar_outputHigh : scalar outputHigh = some y1
  span : x0.value ≠ x1.value
  inputUnit : low.unit = high.unit
  outputUnit : outputLow.unit = outputHigh.unit
  inputKind : low.quantityKind = high.quantityKind
  outputKind : outputLow.quantityKind = outputHigh.quantityKind
  observed : spec.derivationKind = text "observation_transform" →
    spec.observationUnit.getD (text "None") = low.unit
  specUnit : outputLow.unit = spec.outputUnit
  recordUnit : record.unit = spec.outputUnit
  recordKind : record.quantityKind = outputLow.quantityKind

section Conditions

variable {spec : DerivationSpec} {record low high outputLow outputHigh : ParameterRevision}
  {records : Records} {x0 x1 y0 y1 : ScaledDecimal}

/-- The first check that fails decides. -/
theorem ite_some_eq_none_iff {α : Type} {P : Prop} [Decidable P] {a : α} {rest : Option α} :
    (if P then some a else rest) = none ↔ ¬P ∧ rest = none := by
  split_ifs with h
  · exact iff_of_false nofun fun hnot => hnot.1 h
  · exact (and_iff_right h).symm

theorem axisIssue_eq_none_iff {selected : Option ParameterRevision} :
    spec.axisIssue record low high outputLow outputHigh selected = none ↔
      (low.unit = high.unit ∧ outputLow.unit = outputHigh.unit) ∧
      (low.quantityKind = high.quantityKind ∧ outputLow.quantityKind = outputHigh.quantityKind ∧
        ∀ record ∈ selected, record.quantityKind = low.quantityKind) ∧
      ((∀ record ∈ selected, record.unit = low.unit) ∧
        (spec.derivationKind = text "observation_transform" →
          spec.observationUnit.getD (text "None") = low.unit)) ∧
      (outputLow.unit = spec.outputUnit ∧ record.unit = spec.outputUnit) ∧
      record.quantityKind = outputLow.quantityKind := by
  have hany : ∀ (f : ParameterRevision → Text) (t : Text),
      ¬selected.any (fun record => decide (f record ≠ t)) ↔ ∀ record ∈ selected, f record = t := by
    intro f t
    cases selected <;> simp
  rw [DerivationSpec.axisIssue]
  simp only [ite_some_eq_none_iff, not_or, not_and, not_not, hany, Ne]
  constructor
  · rintro ⟨hunits, hkinds, hobserved, houtput, ⟨-, hrecord⟩, -⟩
    exact ⟨hunits, hkinds, hobserved, houtput, hrecord⟩
  · rintro ⟨hunits, hkinds, hobserved, houtput, hrecord⟩
    exact ⟨hunits, hkinds, hobserved, houtput, ⟨hkinds.2.1, hrecord⟩, trivial⟩

theorem endpointIssue_eq_none_iff :
    spec.endpointIssue record records low high outputLow outputHigh = none ↔
      ∃ x0 x1 y0 y1, (scalar low = some x0 ∧ scalar high = some x1 ∧ scalar outputLow = some y0 ∧
        scalar outputHigh = some y1) ∧ x0.value ≠ x1.value ∧
        spec.axisIssue record low high outputLow outputHigh
          (spec.selectedInputRevisionId.bind fun id => records.lookup id) = none ∧
        spec.reproduces record records x0 x1 y0 y1 := by
  rw [DerivationSpec.endpointIssue]
  constructor
  · intro h
    split at h
    · rename_i x0 x1 y0 y1 hlow hhigh houtputLow houtputHigh
      rw [ite_some_eq_none_iff] at h
      obtain ⟨hspan, h⟩ := h
      split at h
      · cases h
      · rename_i haxis
        split_ifs at h with hreproduces
        exact ⟨x0, x1, y0, y1, ⟨hlow, hhigh, houtputLow, houtputHigh⟩, hspan, haxis, hreproduces⟩
    · cases h
  · rintro ⟨x0, x1, y0, y1, ⟨hlow, hhigh, houtputLow, houtputHigh⟩, hspan, haxis, hreproduces⟩
    rw [hlow, hhigh, houtputLow, houtputHigh]
    simp only [if_neg hspan, haxis, hreproduces, if_true]

/-- A derivation is accepted if it is well posed and reproduced. -/
theorem validateDerivation_eq_none_iff : validateDerivation record (some spec) records = none ↔
    ∃ low high outputLow outputHigh x0 x1 y0 y1,
      WellPosed spec record records low high outputLow outputHigh x0 x1 y0 y1 ∧
      spec.reproduces record records x0 x1 y0 y1 := by
  have hany : ¬spec.inputs.any (fun id => (records.lookup id).isNone) ↔
      ∀ id ∈ spec.inputs, ∃ record, records.lookup id = some record := by
    rw [Bool.not_eq_true, List.any_eq_false]
    exact forall₂_congr fun id _ => by
      rw [Bool.not_eq_true, Option.isNone_eq_false_iff, Option.isSome_iff_exists]
  rw [validateDerivation]
  simp only [ite_some_eq_none_iff, not_or, not_not, hany, Ne]
  constructor
  · rintro ⟨⟨hoperation, hprecision, hrounding⟩, ⟨hdistinct, hfound⟩, h⟩
    obtain ⟨low, hlow⟩ := hfound spec.inputLowRevisionId (by simp [DerivationSpec.inputs])
    obtain ⟨high, hhigh⟩ := hfound spec.inputHighRevisionId (by simp [DerivationSpec.inputs])
    obtain ⟨outputLow, houtputLow⟩ := hfound spec.outputLowRevisionId (by simp [DerivationSpec.inputs])
    obtain ⟨outputHigh, houtputHigh⟩ := hfound spec.outputHighRevisionId
      (by simp [DerivationSpec.inputs])
    rw [hlow, hhigh, houtputLow, houtputHigh] at h
    obtain ⟨x0, x1, y0, y1, hscalars, hspan, haxis, hreproduces⟩ := endpointIssue_eq_none_iff.mp h
    obtain ⟨hunits, hkinds, hobserved, houtput, hkind⟩ := axisIssue_eq_none_iff.mp haxis
    refine ⟨low, high, outputLow, outputHigh, x0, x1, y0, y1, ?_, hreproduces⟩
    refine ⟨hoperation, hprecision, hrounding, hdistinct, hlow, hhigh, houtputLow, houtputHigh, ?_,
      hscalars.1, hscalars.2.1, hscalars.2.2.1, hscalars.2.2.2, hspan, hunits.1, hunits.2, hkinds.1,
      hkinds.2.1, hobserved.2, houtput.1, houtput.2, hkind⟩
    intro id hid
    obtain ⟨selected, hselected⟩ := hfound id (by simp [DerivationSpec.inputs, hid])
    have hmem : selected ∈ spec.selectedInputRevisionId.bind fun id => records.lookup id := by
      rw [hid, Option.bind_some, hselected]
      rfl
    exact ⟨selected, hselected, hkinds.2.2 selected hmem, hobserved.1 selected hmem⟩
  · rintro ⟨low, high, outputLow, outputHigh, x0, x1, y0, y1, h, hreproduces⟩
    have hselected : ∀ selected ∈ spec.selectedInputRevisionId.bind fun id => records.lookup id,
        selected.quantityKind = low.quantityKind ∧ selected.unit = low.unit := by
      intro selected hmem
      obtain ⟨id, hid, hlookup⟩ := Option.bind_eq_some_iff.mp hmem
      obtain ⟨other, hother, hfits⟩ := h.lookup_selected id hid
      rw [hother] at hlookup
      cases hlookup
      exact hfits
    refine ⟨⟨h.operation, h.precision, h.rounding⟩, ⟨h.distinct, fun id hid => ?_⟩, ?_⟩
    · simp only [DerivationSpec.inputs, List.mem_append, List.mem_cons, List.not_mem_nil, or_false,
        Option.mem_toList] at hid
      rcases hid with (rfl | rfl | rfl | rfl) | hid
      · exact ⟨low, h.lookup_low⟩
      · exact ⟨high, h.lookup_high⟩
      · exact ⟨outputLow, h.lookup_outputLow⟩
      · exact ⟨outputHigh, h.lookup_outputHigh⟩
      · obtain ⟨selected, hselected, -⟩ := h.lookup_selected id hid
        exact ⟨selected, hselected⟩
    · rw [h.lookup_low, h.lookup_high, h.lookup_outputLow, h.lookup_outputHigh]
      refine endpointIssue_eq_none_iff.mpr ⟨x0, x1, y0, y1,
        ⟨h.scalar_low, h.scalar_high, h.scalar_outputLow, h.scalar_outputHigh⟩, h.span, ?_,
        hreproduces⟩
      exact axisIssue_eq_none_iff.mpr ⟨⟨h.inputUnit, h.outputUnit⟩,
        ⟨h.inputKind, h.outputKind, fun selected hmem => (hselected selected hmem).1⟩,
        ⟨fun selected hmem => (hselected selected hmem).2, h.observed⟩,
        ⟨h.specUnit, h.recordUnit⟩, h.recordKind⟩

theorem reproduces_iff (hspan : x0.value ≠ x1.value) :
    spec.reproduces record records x0 x1 y0 y1 ↔
      spec.derivationKind = text "constant_result" ∧ ConstantResult spec record records x0 x1 y0 y1 ∨
      spec.derivationKind = text "observation_transform" ∧ ObservationTransform spec x0 x1 y0 y1 := by
  have hdistinct : text "constant_result" ≠ text "observation_transform" := by decide
  rw [DerivationSpec.reproduces]
  split_ifs with hconstant htransform
  · rw [constantResultHolds_iff, or_iff_left fun h => hdistinct (hconstant.symm.trans h.1)]
    exact (and_iff_right hconstant).symm
  · rw [observationTransformHolds_iff hspan, or_iff_right fun h => hconstant h.1]
    exact (and_iff_right htransform).symm
  · refine iff_of_false not_false ?_
    rintro (⟨h, -⟩ | ⟨h, -⟩)
    · exact hconstant h
    · exact htransform h

end Conditions

/-- A derivation is accepted if and only if it is well posed, the declared numbers are those of the
affine map over the rationals, and the context holds every intermediate result. -/
theorem validateDerivation_exact (record : ParameterRevision) (spec : Option DerivationSpec)
    (records : Records) : validateDerivation record spec records = none ↔
      ∃ derivation low high outputLow outputHigh x0 x1 y0 y1, spec = some derivation ∧
        WellPosed derivation record records low high outputLow outputHigh x0 x1 y0 y1 ∧
        (derivation.derivationKind = text "constant_result" ∧
            ConstantResult derivation record records x0 x1 y0 y1 ∨
          derivation.derivationKind = text "observation_transform" ∧
            ObservationTransform derivation x0 x1 y0 y1) := by
  cases spec with
  | none => exact iff_of_false nofun (by simp)
  | some derivation =>
    rw [validateDerivation_eq_none_iff]
    constructor
    · rintro ⟨low, high, outputLow, outputHigh, x0, x1, y0, y1, h, hreproduces⟩
      exact ⟨derivation, low, high, outputLow, outputHigh, x0, x1, y0, y1, rfl, h,
        (reproduces_iff h.span).mp hreproduces⟩
    · rintro ⟨other, low, high, outputLow, outputHigh, x0, x1, y0, y1, heq, h, hresults⟩
      cases heq
      exact ⟨low, high, outputLow, outputHigh, x0, x1, y0, y1, h, (reproduces_iff h.span).mpr hresults⟩

/-! A derived number with one digit, that is too small for the context -/

section Sample

def sampleRevision (id scalar : Text) : ParameterRevision where
  parameterId := id
  parameterRevisionId := id
  revisionSha256 := []
  parameterClass := text "direct"
  valueRole := text "single"
  value := ⟨text "scalar", some scalar, none, none, none, none, none⟩
  unit := text "one"
  quantityKind := text "normalized_span"
  recordState := text "valid"
  approvalState := text "approved"
  migrationStatus := []
  profileId := []
  experimentScope := []
  authenticReproductionFeasibility := []
  prototypeComponent := []
  consumerLocator := []
  researchQuestion := []
  evidenceTrack := []
  finalPackageElement := []
  transferabilityRationale := []
  limitations := []
  uncertainty := ⟨text "not_applicable", none, none, none, [], none, none, none⟩
  owner := []
  syntheticStatus := []
  directAuthority := none
  derivedAuthority := none
  measuredAuthority := none
  decisionAuthority := none
  mockAuthority := none

/-- The digit one after so many zeros -/
def tinyText (n : ℕ) : Text := text "0." ++ ScaledDecimal.zeros n ++ text "1"

def tinySpec (n : ℕ) : DerivationSpec where
  derivationId := text "derivation"
  derivationKind := text "constant_result"
  operation := affineOperation
  inputLowRevisionId := text "x0"
  inputHighRevisionId := text "x1"
  outputLowRevisionId := text "y0"
  outputHighRevisionId := text "y1"
  selectedInputRevisionId := some (text "x")
  observationVariable := none
  observationUnit := none
  declaredOutput := some (tinyText n)
  outputUnit := text "one"
  conformanceVectors := []
  decimalPrecision := 50
  rounding := text "ROUND_HALF_EVEN"

def tinyRecords (n : ℕ) : Records :=
  [(text "x0", sampleRevision (text "x0") (text "0")), (text "x1", sampleRevision (text "x1") (text "1")),
    (text "y0", sampleRevision (text "y0") (text "0")), (text "y1", sampleRevision (text "y1") (tinyText n)),
    (text "x", sampleRevision (text "x") (text "1"))]

def tiny (n : ℕ) : ScaledDecimal := ⟨1, -(n + 1)⟩

theorem decimal_tinyText (n : ℕ) : decimal (some (tinyText n)) = some (tiny n) := by
  let fraction := ScaledDecimal.zeros n ++ text "1"
  have htext : tinyText n = '0'.codePoint :: '.'.codePoint :: fraction := rfl
  have hdigit : JsonText.isDigit '0'.codePoint = true := by decide
  have hpoint : JsonText.isDigit '.'.codePoint = false := by decide
  have htake : (tinyText n).takeWhile JsonText.isDigit = ['0'.codePoint] := by
    rw [htext, List.takeWhile_cons_of_pos hdigit, List.takeWhile_cons_of_neg (by rw [hpoint]; simp)]
  have hdrop : (tinyText n).dropWhile JsonText.isDigit = '.'.codePoint :: fraction := by
    rw [htext, List.dropWhile_cons_of_pos hdigit, List.dropWhile_cons_of_neg (by rw [hpoint]; simp)]
  have hall : fraction.all JsonText.isDigit := by
    rw [List.all_append, ScaledDecimal.all_isDigit_zeros]
    decide
  have hne : fraction.isEmpty = false := by simp [fraction, text]
  have hsign : '0'.codePoint ≠ '-'.codePoint := by decide
  have hdecimal : DecimalText.isDecimal (tinyText n) := by
    have hzero : DecimalText.isNatText ['0'.codePoint] := by decide
    rw [htext, DecimalText.isDecimal, if_neg hsign, DecimalText.isUnsignedDecimal, ← htext, htake,
      hdrop, hzero]
    simp only [hne, hall]
    rfl
  have hlast : (tinyText n).getLast? = some '1'.codePoint := by
    rw [tinyText]
    exact List.getLast?_concat
  have hcanonical : isCanonicalDecimal (tinyText n) := by
    have hone : (some '1'.codePoint = some '0'.codePoint) = False := by decide
    have hhead : ((tinyText n).head? = some '-'.codePoint) = False := by
      rw [htext, List.head?_cons]
      exact eq_false (by decide)
    simp [isCanonicalDecimal, hdecimal, hlast, hhead, hone]
  have hvalue : DecimalText.natValue (['0'.codePoint] ++ fraction) = 1 := by
    have hzeros : ['0'.codePoint] ++ fraction = ScaledDecimal.zeros (n + 1) ++ text "1" := by
      rw [ScaledDecimal.zeros, List.replicate_succ]
      rfl
    rw [hzeros, ScaledDecimal.natValue_zeros_append]
    decide
  have hlength : fraction.length = n + 1 := by
    rw [List.length_append, ScaledDecimal.zeros, List.length_replicate]
    rfl
  rw [decimal, Option.bind_some, if_pos hcanonical, htext, ScaledDecimal.ofText, if_neg hsign, ← htext]
  simp only [htake, hdrop, List.tail_cons, hvalue, hlength]
  rfl

theorem scalar_tiny (id : Text) (n : ℕ) : scalar (sampleRevision id (tinyText n)) = some (tiny n) :=
  decimal_tinyText n

theorem declaredOutput_tiny (n : ℕ) : decimal (tinySpec n).declaredOutput = some (tiny n) :=
  decimal_tinyText n

theorem selected_tiny (n : ℕ) : ((tinyRecords n).lookup (text "x")).bind scalar = some ⟨1, 0⟩ := by
  have hscalar : scalar (sampleRevision (text "x") (text "1")) = some ⟨1, 0⟩ := by decide +kernel
  exact hscalar

theorem wellPosed_tiny (n : ℕ) : WellPosed (tinySpec n) (sampleRevision (text "y") (tinyText n))
    (tinyRecords n) (sampleRevision (text "x0") (text "0")) (sampleRevision (text "x1") (text "1"))
    (sampleRevision (text "y0") (text "0")) (sampleRevision (text "y1") (tinyText n))
    ⟨0, 0⟩ ⟨1, 0⟩ ⟨0, 0⟩ (tiny n) where
  operation := rfl
  precision := rfl
  rounding := rfl
  distinct := by
    change [text "x0", text "x1", text "y0", text "y1", text "x"].Nodup
    decide
  lookup_low := rfl
  lookup_high := rfl
  lookup_outputLow := rfl
  lookup_outputHigh := rfl
  lookup_selected := by
    rintro id ⟨⟩
    exact ⟨_, rfl, rfl, rfl⟩
  scalar_low := by decide +kernel
  scalar_high := by decide +kernel
  scalar_outputLow := by decide +kernel
  scalar_outputHigh := scalar_tiny _ n
  span := by norm_num [ScaledDecimal.value]
  inputUnit := rfl
  outputUnit := rfl
  inputKind := rfl
  outputKind := rfl
  observed := by
    have hkind : text "constant_result" ≠ text "observation_transform" := by decide
    exact fun h => absurd h hkind
  specUnit := rfl
  recordUnit := rfl
  recordKind := rfl

/-- A number with fifty digits at most, and zeros before or after them -/
def FewDigits (q : ℚ) : Prop := ∃ c k : ℤ, |c| < 10 ^ 50 ∧ q = c * 10 ^ k

/-- The difference of the outputs is below the least exponent. -/
theorem not_holds_tiny {n : ℕ} (h : 1000048 ≤ n) :
    ¬affineContext.Holds ((tiny n).sub ⟨0, 0⟩) := by
  have hsub : (tiny n).sub ⟨0, 0⟩ = tiny n := by
    simp [ScaledDecimal.sub, tiny, ScaledDecimal.coefficientAt]
  rw [hsub, DecimalContext.Holds]
  rintro (hzero | ⟨-, htiny, -⟩)
  · exact one_ne_zero hzero
  · simp only [tiny, DecimalContext.etiny, affineContext] at htiny
    omega

theorem validateDerivation_tiny {n : ℕ} (h : 1000048 ≤ n) :
    validateDerivation (sampleRevision (text "y") (tinyText n)) (some (tinySpec n)) (tinyRecords n) ≠
      none := by
  intro haccepted
  have hw := wellPosed_tiny n
  obtain ⟨low, high, outputLow, outputHigh, x0, x1, y0, y1, hposed, hreproduces⟩ :=
    validateDerivation_eq_none_iff.mp haccepted
  have hlow := (hposed.lookup_outputLow.symm.trans hw.lookup_outputLow)
  have hhigh := (hposed.lookup_outputHigh.symm.trans hw.lookup_outputHigh)
  cases hlow
  cases hhigh
  have hy0 := Option.some.inj (hposed.scalar_outputLow.symm.trans hw.scalar_outputLow)
  have hy1 := Option.some.inj (hposed.scalar_outputHigh.symm.trans hw.scalar_outputHigh)
  subst hy0 hy1
  have hkind : text "constant_result" ≠ text "observation_transform" := by decide
  rcases (reproduces_iff hposed.span).mp hreproduces with ⟨-, hresult⟩ | ⟨hother, -⟩
  · obtain ⟨x, expected, own, -, -, -, hevaluable, -⟩ := hresult
    exact not_holds_tiny h hevaluable.rise
  · exact hkind hother

/-- A derivation that is well posed and right over the rationals, and whose intermediate results have
one digit, is rejected when one of them is too small. -/
theorem tinyDerivation_rejected :
    WellPosed (tinySpec 1000048) (sampleRevision (text "y") (tinyText 1000048)) (tinyRecords 1000048)
        (sampleRevision (text "x0") (text "0")) (sampleRevision (text "x1") (text "1"))
        (sampleRevision (text "y0") (text "0")) (sampleRevision (text "y1") (tinyText 1000048))
        ⟨0, 0⟩ ⟨1, 0⟩ ⟨0, 0⟩ (tiny 1000048) ∧
      ((tinyRecords 1000048).lookup (text "x")).bind scalar = some ⟨1, 0⟩ ∧
      decimal (tinySpec 1000048).declaredOutput = some (tiny 1000048) ∧
      scalar (sampleRevision (text "y") (tinyText 1000048)) = some (tiny 1000048) ∧
      (tiny 1000048).value = affine 0 1 0 (tiny 1000048).value 1 ∧
      (∀ q ∈ [(tiny 1000048).value - 0, 1 - 0, ((tiny 1000048).value - 0) * (1 - 0),
        ((tiny 1000048).value - 0) * (1 - 0) / (1 - 0),
        0 + ((tiny 1000048).value - 0) * (1 - 0) / (1 - 0)], FewDigits q) ∧
      validateDerivation (sampleRevision (text "y") (tinyText 1000048)) (some (tinySpec 1000048))
        (tinyRecords 1000048) ≠ none := by
  have hfew : FewDigits (tiny 1000048).value := ⟨1, _, by norm_num, rfl⟩
  have hone : FewDigits 1 := ⟨1, 0, by norm_num, by norm_num⟩
  have hrejected := validateDerivation_tiny (n := 1000048) (by norm_num)
  refine ⟨wellPosed_tiny _, selected_tiny _, declaredOutput_tiny _, scalar_tiny _ _, ?_, ?_,
    hrejected⟩
  · rw [affine]
    ring
  · simp only [sub_zero, mul_one, div_one, zero_add, List.forall_mem_cons]
    exact ⟨hfew, hone, hfew, hfew, hfew, nofun⟩

end Sample

end TruthFingerprint.Evidence.Parameter
