import Mathlib
import TruthFingerprint.Identity

/-!
# Diagnostics

The validators of the evidence collect their findings, and return them without repetition and in
order. What they accept has no finding (`accepted_iff`). An identity of the evidence is immutable
and resolved by the caller.
-/

namespace TruthFingerprint.Evidence

/-- A finding: its code, and what it is about. -/
structure Diagnostic where
  code : Text
  subjectId : Text
deriving DecidableEq

def Diagnostic.key (diagnostic : Diagnostic) : Text ×ₗ Text :=
  toLex (diagnostic.code, diagnostic.subjectId)

structure Validation where
  accepted : Bool
  diagnostics : List Diagnostic

/-- `_result`: the findings as a set, sorted by code and subject -/
def result (diagnostics : List Diagnostic) : Validation :=
  let ordered := diagnostics.dedup.insertionSort (·.key ≤ ·.key)
  ⟨ordered.isEmpty, ordered⟩

theorem accepted_iff {diagnostics : List Diagnostic} :
    (result diagnostics).accepted ↔ diagnostics = [] := by
  rw [result, List.isEmpty_iff, ← List.length_eq_zero_iff, List.length_insertionSort,
    List.length_eq_zero_iff, List.dedup_eq_nil]

/-- A finding unless the condition holds. -/
def finding (ok : Bool) (code : String) (subjectId : Text) : List Diagnostic :=
  if ok then [] else [⟨text code, subjectId⟩]

@[simp] theorem finding_eq_nil {ok : Bool} {code : String} {subjectId : Text} :
    finding ok code subjectId = [] ↔ ok := by
  cases ok <;> simp [finding]

abbrev ImmutableResolver := Text → Bool

/-- `_immutable` -/
def immutable (resolver : ImmutableResolver) (value : Text) : Bool :=
  isImmutableId value && resolver value

end TruthFingerprint.Evidence
