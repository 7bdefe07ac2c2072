import Mathlib
import TruthFingerprint.Evidence.Diagnostics
import TruthFingerprint.Python.Json

/-!
# Records of the evidence

A record is identified by the digest of its canonical JSON text, in which its own identity is left
empty. Some validators report codes without a subject; what they accept has no code
(`diagnosticCodes_eq_nil`).
-/

namespace TruthFingerprint.Evidence

/-- The JSON documents of the records. Their numbers are integers. -/
abbrev Document := Python.Value Unit

namespace Document

def optional : Option Text → Document
  | none => .null
  | some t => .str t

def texts (ts : List Text) : Document := .arr (ts.map .str)

def record (fields : List (String × Document)) : Document :=
  .obj (fields.map fun f => (text f.1, f.2))

end Document

/-- `"sha256:" + sha256(canonical).hexdigest()` -/
def recordId (document : Document) : Text := sha256Id (Python.canonicalText document)

theorem isImmutableId_recordId (document : Document) : isImmutableId (recordId document) :=
  isImmutableId_sha256Id _

/-! ## Codes without a subject -/

structure CodeValidation where
  accepted : Bool
  diagnosticCodes : List Text

/-- `_result`: the codes as a set, sorted -/
def codesResult (codes : List Text) : CodeValidation :=
  let ordered := codes.dedup.insertionSort (· ≤ ·)
  ⟨ordered.isEmpty, ordered⟩

theorem diagnosticCodes_eq_nil {codes : List Text} :
    (codesResult codes).diagnosticCodes = [] ↔ codes = [] := by
  rw [codesResult, ← List.length_eq_zero_iff, List.length_insertionSort,
    List.length_eq_zero_iff, List.dedup_eq_nil]

/-- A code unless the condition holds. -/
def check (ok : Bool) (code : String) : List Text := if ok then [] else [text code]

@[simp] theorem check_eq_nil {ok : Bool} {code : String} : check ok code = [] ↔ ok := by
  cases ok <;> simp [check]

/-- `_resolves`, where there is a value -/
def resolves (resolver : ImmutableResolver) (value : Option Text) : Bool :=
  value.any (immutable resolver)

theorem immutable_sampleId (n : Fin 16) : immutable (fun _ => true) (sampleId n).val := by
  rw [immutable, (sampleId n).property]
  rfl

theorem sampleId_injective : Function.Injective fun n => (sampleId n).val := by
  intro m n
  revert m n
  decide +kernel

end TruthFingerprint.Evidence
