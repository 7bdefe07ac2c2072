import Mathlib
import TruthFingerprint.Python.Coercions

/-!
# The numeric schema of a v2 configuration

The schema lists the JSON pointer and the type of every number that a v2 configuration has. A
configuration is accepted if it has each of them and no other number, nor a string that reads as
one. Pointers are kept as lists of segments. What is used of an accepted configuration is that a
number in it is one of the list (`rule_of_integer`), and that the listed integers are there
(`integer_of_rule`).
-/

namespace TruthFingerprint.OfflineTraining

open Python (Coercions FloatOps Members Number Value)

abbrev Pointer := List Text

/-! ## Rules -/

inductive NumericType where
  | integer
  | number
deriving DecidableEq

abbrev NumericRule := Pointer × NumericType

def phases : List Text := [text "pilot", text "confirmatory"]

def rulesOf (type : NumericType) (parent : Pointer) (fields : List Text) : List NumericRule :=
  fields.map fun field => (parent ++ [field], type)

def integers : Pointer → List Text → List NumericRule := rulesOf .integer

def numbers : Pointer → List Text → List NumericRule := rulesOf .number

def indices (n : Nat) : List Text := (List.range n).map DecimalText.natText

def datasetPointer (dataset : Text) : Pointer := [text "datasets", dataset]

/-- `add_common_dataset_fields` -/
def commonDatasetFields (dataset : Text) : List NumericRule :=
  integers (datasetPointer dataset) [text "partition_seed"] ++
  (phases.flatMap fun phase =>
    integers (datasetPointer dataset ++ [text "minimum_support", phase])
      [text "test_normal", text "test_attack"]) ++
  integers (datasetPointer dataset ++ [text "window"])
    [text "sequence_length", text "stride", text "max_windows_per_unit"]

/-- `add_phase_allocation` -/
def phaseAllocationFields (dataset : Text) (roles : List Text) : List NumericRule :=
  phases.flatMap fun phase => [text "offsets", text "counts"].flatMap fun collection =>
    integers (datasetPointer dataset ++ [text "phase_allocation", phase, collection]) roles

def phaseCapFields (dataset : Text) (caps : Pointer) (fields : List Text) : List NumericRule :=
  phases.flatMap fun phase =>
    integers (datasetPointer dataset ++ [text "phase_caps", phase] ++ caps) fields

/-- `add_categorical_models` -/
def categoricalModels (dataset : Text) : List NumericRule :=
  let models := datasetPointer dataset ++ [text "models"]
  numbers (models ++ [text "categorical-unigram"]) [text "laplace_alpha"] ++
  integers (models ++ [text "robust-distance"]) [text "hash_bins"] ++
  numbers (models ++ [text "robust-distance"]) [text "max_robust_z"] ++
  integers (models ++ [text "pca-autoencoder"]) [text "hash_bins", text "latent_dimensions"] ++
  integers (models ++ [text "recurrent-autoencoder"])
    [text "epochs", text "batch_size", text "hidden_units", text "latent_units",
      text "embedding_dimensions", text "patience"] ++
  numbers (models ++ [text "recurrent-autoencoder"]) [text "learning_rate", text "min_delta"]

def adfaRoles : List Text :=
  [text "train", text "validation", text "test_normal", text "attack_per_class"]

def lidRoles : List Text :=
  [text "training", text "validation", text "test-normal", text "test-normal-and-attack"]

def haiRoles : List Text := [text "train", text "validation", text "test"]

def adfaRules : List NumericRule :=
  commonDatasetFields (text "adfa-ld") ++
  numbers (datasetPointer (text "adfa-ld")) [text "normal_validation_fraction", text "numeric_clip"] ++
  phaseCapFields (text "adfa-ld") []
    [text "train", text "validation", text "test_normal", text "test_attack_per_class"] ++
  phaseAllocationFields (text "adfa-ld") adfaRoles ++ categoricalModels (text "adfa-ld")

def lidRules : List NumericRule :=
  commonDatasetFields (text "lid-ds-2021") ++
  numbers (datasetPointer (text "lid-ds-2021")) [text "numeric_clip"] ++
  phaseCapFields (text "lid-ds-2021") [] [text "archives_per_scenario_partition"] ++
  phaseAllocationFields (text "lid-ds-2021") lidRoles ++ categoricalModels (text "lid-ds-2021")

def haiRules : List NumericRule :=
  let models := datasetPointer (text "hai-23.05") ++ [text "models"]
  commonDatasetFields (text "hai-23.05") ++
  integers (datasetPointer (text "hai-23.05")) [text "block_rows"] ++
  numbers (datasetPointer (text "hai-23.05")) [text "numeric_clip"] ++
  phaseCapFields (text "hai-23.05") [text "train"] [text "normal"] ++
  phaseCapFields (text "hai-23.05") [text "validation"] [text "normal"] ++
  phaseCapFields (text "hai-23.05") [text "test"] [text "total"] ++
  phaseAllocationFields (text "hai-23.05") haiRoles ++
  numbers (models ++ [text "robust-distance"]) [text "max_robust_z"] ++
  integers (models ++ [text "pca-autoencoder"]) [text "latent_dimensions"] ++
  integers (models ++ [text "recurrent-autoencoder"])
    [text "epochs", text "batch_size", text "hidden_units", text "latent_units", text "patience"] ++
  numbers (models ++ [text "recurrent-autoencoder"]) [text "learning_rate", text "min_delta"]

def protocolRules : List NumericRule :=
  integers [text "pilot_seeds"] (indices 5) ++
  integers [text "confirmatory_seeds"] (indices 50) ++
  integers [text "execution_protocol"] [text "confirmatory_batch_size"] ++
  numbers [text "computational_budget"] [text "ask_first_cpu_hours", text "safety_factor"] ++
  numbers [text "validation_protocol"] [text "early_stopping_fraction"] ++
  integers [text "validation_protocol"] [text "split_seed", text "minimum_units_per_role"] ++
  integers [text "statistical_protocol"]
    [text "bootstrap_replicates", text "minimum_bootstrap_clusters",
      text "minimum_class_carrying_clusters", text "minimum_valid_bootstrap_replicates",
      text "bootstrap_seed_offset", text "minimum_stochastic_trials",
      text "maximum_stochastic_trials", text "comparison_seed", text "permutation_replicates",
      text "curve_max_points"] ++
  numbers [text "statistical_protocol"]
    [text "confidence_level", text "minimum_valid_bootstrap_fraction", text "target_ci_half_width"] ++
  numbers [text "statistical_protocol", text "threshold"] [text "target_fpr", text "normal_quantile"] ++
  numbers [text "statistical_protocol", text "threshold", text "sensitivity_normal_quantiles"]
    (indices 5)

/-- `V2_NUMERIC_RULES` -/
def v2NumericRules : List NumericRule := protocolRules ++ adfaRules ++ lidRules ++ haiRules

example : (v2NumericRules.map Prod.fst).Nodup := by decide +kernel

/-! ## Documents -/

section Documents

variable {N : Type}

/-- `_pointer_value`, none where it is missing -/
def pointerValue : Doc N → Pointer → Option (Doc N)
  | value, [] => some value
  | .obj members, segment :: rest => (members.lookup segment).bind (pointerValue · rest)
  | .arr items, segment :: rest =>
    if segment ≠ [] ∧ segment.all Python.isDecimal then do
      let index ← Python.intOfText segment
      let item ← items[index.toNat]?
      pointerValue item rest
    else none
  | _, _ :: _ => none

mutual
/-- `_scalar_leaves` -/
def scalarLeaves : Doc N → List (Pointer × Doc N)
  | .obj members => memberLeaves members
  | .arr items => itemLeaves 0 items
  | value => [([], value)]
termination_by structural d => d

def itemLeaves : Nat → List (Doc N) → List (Pointer × Doc N)
  | _, [] => []
  | i, d :: ds =>
    ((scalarLeaves d).map fun leaf => (DecimalText.natText i :: leaf.1, leaf.2)) ++
      itemLeaves (i + 1) ds
termination_by structural _ ds => ds

def memberLeaves : List (Text × Doc N) → List (Pointer × Doc N)
  | [] => []
  | m :: ms => memberLeaf m ++ memberLeaves ms
termination_by structural ms => ms

def memberLeaf : Text × Doc N → List (Pointer × Doc N)
  | (name, d) => (scalarLeaves d).map fun leaf => (name :: leaf.1, leaf.2)
termination_by structural m => m
end

theorem mem_scalarLeaves_obj {members : List (Text × Doc N)} {name : Text} {d leaf : Doc N}
    {pointer : Pointer} (hmem : (name, d) ∈ members) (h : (pointer, leaf) ∈ scalarLeaves d) :
    (name :: pointer, leaf) ∈ scalarLeaves (.obj members) := by
  rw [scalarLeaves]
  induction members with
  | nil => simp at hmem
  | cons m ms ih =>
    rw [memberLeaves, List.mem_append]
    rcases List.mem_cons.mp hmem with rfl | hmem
    · rw [memberLeaf]
      exact .inl (List.mem_map.mpr ⟨_, h, rfl⟩)
    · exact .inr (ih hmem)

end Documents

/-! ## Validation -/

/-- An exponent, if there is one -/
def isExponent : Text → Bool
  | [] => true
  | c :: rest =>
    let digits := (Python.takeSign rest).2
    (c = 'e'.codePoint || c = 'E'.codePoint) && digits ≠ [] && digits.all Python.isDecimal

/-- The full match of `_NUMERIC_STRING` -/
def isNumericString (t : Text) : Bool :=
  let body := (Python.takeSign t).2
  let fraction := body.dropWhile Python.isDecimal
  if (body.takeWhile Python.isDecimal).isEmpty then
    match fraction with
    | c :: rest => c = '.'.codePoint && !(rest.takeWhile Python.isDecimal).isEmpty &&
        isExponent (rest.dropWhile Python.isDecimal)
    | [] => false
  else match fraction with
    | c :: rest =>
      if c = '.'.codePoint then isExponent (rest.dropWhile Python.isDecimal)
      else isExponent (c :: rest)
    | [] => true

example : ["12", "-0.5e-3", ".5", "1e9"].all fun s => isNumericString (text s) := by
  decide +kernel

inductive NumericIssue where
  | missing (pointer : Pointer)
  | notInteger (pointer : Pointer)
  | notNumber (pointer : Pointer)
  | unknownNumber (pointer : Pointer)
  | numericString (pointer : Pointer)
deriving DecidableEq

section Validation

variable {F : Type} [FloatOps F]

def isIntegerValue : Value F → Bool
  | .num (.int _) => true
  | _ => false

/-- `_finite_decimal` has a value, which a negative zero has not. -/
def isFiniteDecimal : Value F → Bool
  | .num (.int i) => i.natAbs < 10 ^ Python.maxStrDigits
  | .num (.float x) => FloatOps.isFinite x && FloatOps.repr x ≠ text "-0.0"
  | _ => false

def ruleIssue (config : Value F) (rule : NumericRule) : Option NumericIssue :=
  match pointerValue config rule.1 with
  | none => some (.missing rule.1)
  | some value =>
    match rule.2 with
    | .integer => if isIntegerValue value then none else some (.notInteger rule.1)
    | .number => if isFiniteDecimal value then none else some (.notNumber rule.1)

def leafIssue (leaf : Pointer × Value F) : Option NumericIssue :=
  match leaf.2 with
  | .num _ => if leaf.1 ∈ v2NumericRules.map Prod.fst then none else some (.unknownNumber leaf.1)
  | .str s => if isNumericString (Python.strip s) then some (.numericString leaf.1) else none
  | _ => none

/-- The issues that `validate_v2_numeric_schema` raises, if there is one -/
def numericIssues (config : Value F) : List NumericIssue :=
  v2NumericRules.filterMap (ruleIssue config) ++ (scalarLeaves config).filterMap leafIssue

variable {config : Value F}

theorem integer_of_rule (h : numericIssues config = []) {pointer : Pointer}
    (hrule : (pointer, .integer) ∈ v2NumericRules) :
    ∃ i, pointerValue config pointer = some (.num (.int i)) := by
  have hissue : ruleIssue config (pointer, .integer) = none :=
    List.filterMap_eq_nil_iff.mp (List.append_eq_nil_iff.mp h).1 _ hrule
  unfold ruleIssue at hissue
  split at hissue
  · simp at hissue
  · rename_i value hvalue
    simp only [ite_eq_left_iff, reduceCtorEq, imp_false, not_not] at hissue
    unfold isIntegerValue at hissue
    split at hissue
    · exact ⟨_, hvalue⟩
    · simp at hissue

theorem rule_of_integer (h : numericIssues config = []) {pointer : Pointer} {n : Number F}
    (hleaf : (pointer, .num n) ∈ scalarLeaves config) :
    pointer ∈ v2NumericRules.map Prod.fst := by
  have hissue : leafIssue (pointer, .num n) = none :=
    List.filterMap_eq_nil_iff.mp (List.append_eq_nil_iff.mp h).2 _ hleaf
  simpa only [leafIssue, ite_eq_left_iff, reduceCtorEq, imp_false, not_not] using hissue

end Validation

end TruthFingerprint.OfflineTraining
