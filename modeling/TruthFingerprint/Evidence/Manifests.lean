import Mathlib
import TruthFingerprint.Evidence.ManifestBytes

/-!
# Checks of manifests

The validators of manifests collect violations. A violation names the rule, the field and what was
expected and observed; of these values it shows a digest, or nothing at all where they could hold a
secret. Running checks raises when a violation cannot be shown.
-/

namespace TruthFingerprint.Evidence

/-! ## Violations -/

structure ManifestViolation where
  ruleId : Text
  recordId : Text
  fieldPath : Text
  expectedValue : Text
  observedValue : Text
  explanation : Text
deriving DecidableEq

/-- `str.casefold`, as far as ASCII letters come from it -/
def casefold (s : Text) : Text :=
  s.flatMap fun c =>
    if h : 0x41 ≤ c.val ∧ c.val ≤ 0x5a then [⟨c.val + 0x20, c.lower_lt h⟩]
    else match c.val with
      | 0xdf | 0x1e9e => text "ss"
      | 0x130 => text "i" ++ [0x307]
      | 0x149 => 0x2bc :: text "n"
      | 0x17f => text "s"
      | 0x1f0 => text "j" ++ [0x30c]
      | 0x1e96 => text "h" ++ [0x331]
      | 0x1e97 => text "t" ++ [0x308]
      | 0x1e98 => text "w" ++ [0x30a]
      | 0x1e99 => text "y" ++ [0x30a]
      | 0x1e9a => text "a" ++ [0x2be]
      | 0x212a => text "k"
      | 0xfb00 => text "ff"
      | 0xfb01 => text "fi"
      | 0xfb02 => text "fl"
      | 0xfb03 => text "ffi"
      | 0xfb04 => text "ffl"
      | 0xfb05 | 0xfb06 => text "st"
      | _ => [c]

/-- `token in s` -/
def contains (token s : Text) : Bool := s.tails.any token.isPrefixOf

def secretMarkers : List Text :=
  [text "password=", text "secret=", text "token=", text "access_key"]

/-- `bounded`: a digest, unless the text holds a marker of a secret. It raises for a surrogate. -/
def bounded (value : Text) : Option Text :=
  let rendered : Text := value.flatMap fun c => if c.val = 0 then text "[NUL]" else [c]
  if secretMarkers.any fun marker => contains marker (casefold rendered) then
    some (text "[REDACTED]")
  else if isEncodable rendered then some (bytesId rendered.utf8)
  else none

/-- `_violation` -/
def violation (rule : String) (record : Text) (field : String) (expected observed : Text)
    (explanation : String) : Option ManifestViolation := do
  let recordId ← bounded record
  let expectedValue ← bounded expected
  let observedValue ← bounded observed
  some ⟨text rule, recordId, text field, expectedValue, observedValue, text explanation⟩

/-! ## Checks -/

/-- A condition and the violation that it reports when it does not hold. -/
structure Check where
  ok : Bool
  rule : String
  field : String
  expected : Text
  observed : Text
  explanation : String

def Check.run (check : Check) (record : Text) : Option (List ManifestViolation) :=
  if check.ok then some []
  else (violation check.rule record check.field check.expected check.observed
    check.explanation).map ([·])

/-- What is found in all elements, one after the other. -/
def collect {α β : Type} (find : α → Option (List β)) (items : List α) : Option (List β) :=
  (items.mapM find).map List.flatten

theorem collect_eq_nil {α β : Type} {find : α → Option (List β)} {items : List α} :
    collect find items = some [] ↔ ∀ item ∈ items, find item = some [] := by
  induction items with
  | nil => simp [collect]
  | cons item items ih =>
    rw [List.forall_mem_cons, ← ih, collect, collect, List.mapM_cons]
    cases find item with
    | none => simp
    | some found =>
      cases items.mapM find with
      | none => simp
      | some rest => simp

theorem Check.run_eq_nil {check : Check} {record : Text} :
    check.run record = some [] ↔ check.ok := by
  rw [Check.run]
  split_ifs with h
  · simp [h]
  · simp [h]

/-- The violations in the order of rules and fields. -/
def sortViolations (violations : List ManifestViolation) : List ManifestViolation :=
  violations.insertionSort fun v w => toLex (v.ruleId, v.fieldPath) ≤ toLex (w.ruleId, w.fieldPath)

theorem insertionSort_eq_nil {α : Type} {r : α → α → Prop} [DecidableRel r] {items : List α} :
    items.insertionSort r = [] ↔ items = [] := by
  rw [← List.length_eq_zero_iff, List.length_insertionSort, List.length_eq_zero_iff]

/-! ## Locators and times -/

/-- `root_relative_body` -/
def rootRelativeBody (locator name : Text) : Bool :=
  locator.count ':'.codePoint = 1 &&
    let body := locator.drop name.length
    !body.isEmpty && !([text "/", text "./", text "../"].any fun start => start.isPrefixOf body) &&
      (body.splitOn '/'.codePoint).all fun segment => segment ∉ [[], text ".", text ".."]

/-- `_immutable_locator` -/
def immutableLocator (locator : Text) : Bool :=
  !locator.isEmpty &&
  !([text "latest", text "current", text "@", text "?", text "#"] ++ secretMarkers).any
    (fun token => contains token (casefold locator)) &&
  !(contains (text "..") locator || contains (text "\\") locator ||
    locator.any fun c => c.val < 32) &&
  if text "repo:" <+: locator then rootRelativeBody locator (text "repo:")
  else if text "object:" <+: locator then rootRelativeBody locator (text "object:")
  else if text "oci:sha256:" <+: locator then isImmutableId (locator.drop 4)
  else false

/-- `_UTC`: the form of a time, where a zero stands for any digit -/
def isUtc (s : Text) : Bool :=
  let form := text "0000-00-00T00:00:00.000000Z"
  s.length = form.length &&
    (s.zip form).all fun p => if p.2 = '0'.codePoint then JsonText.isDigit p.1 else p.1 = p.2

end TruthFingerprint.Evidence
