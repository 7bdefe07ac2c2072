import Mathlib
import TruthFingerprint.Lib.Utf8
import TruthFingerprint.Evidence.Records

/-!
# The bytes of manifests

Manifests and their receipts are identified by the digest of their canonical text, which keeps what
is not ASCII and ends with a line feed. It has no bytes when a string holds a surrogate or a number
cannot be printed.
-/

namespace TruthFingerprint.Evidence

variable {F : Type} [Python.FloatOps F]

/-- What `json.dumps` without `ensure_ascii` leaves as it is. -/
def isPlain (c : CodePoint) : Bool := 0x20 ≤ c.val

def canonicalManifestText (document : Python.Value F) : Text :=
  JsonText.render (JsonText.escapeWith isPlain)
    (document.sortKeys.map Python.Number.literal id) ++ text "\n"

def isEncodable (s : Text) : Bool := s.all fun c => !c.isSurrogate

/-- The numbers of a document can be printed, and its strings encoded. -/
def Encodable (document : Python.Value F) : Prop := document.All (·.printable) (isEncodable ·)

instance : DecidablePred (Encodable (F := F)) :=
  fun document => inferInstanceAs (Decidable (document.All _ _))

/-- `canonical_manifest_bytes`: `dumps` raises for a number that cannot be printed, and `encode` for
a surrogate. -/
def canonicalManifestBytes (document : Python.Value F) : Option Bytes :=
  if Encodable document then some (canonicalManifestText document).utf8 else none

def bytesId (content : Bytes) : Text := text "sha256:" ++ Sha256.hexDigest content

theorem isEncodable_iff {s : Text} :
    isEncodable s ↔ ∀ c ∈ s, c.val < 0xd800 ∨ 0xe000 ≤ c.val := by
  rw [isEncodable, List.all_eq_true]
  refine forall₂_congr fun c _ => ?_
  rw [CodePoint.isSurrogate, CodePoint.isHighSurrogate, CodePoint.isLowSurrogate]
  simp
  omega

theorem isEncodable_bytesId (content : Bytes) : isEncodable (bytesId content) := by
  refine isEncodable_iff.mpr fun c hc => .inl ?_
  rcases List.mem_append.mp hc with hc | hc
  · have hall : (text "sha256:").all fun c => c.val < 0xd800 := by decide
    exact of_decide_eq_true (List.all_eq_true.mp hall c hc)
  · have hhex := Sha256.hexDigest_isHex content c hc
    simp only [isHexDigit, Bool.or_eq_true, Bool.and_eq_true, decide_eq_true_eq] at hhex
    omega

theorem isEncodable_text (s : String) : isEncodable (text s) := by
  refine isEncodable_iff.mpr fun c hc => ?_
  obtain ⟨ch, -, rfl⟩ := List.mem_map.mp hc
  rcases ch.valid with h | h
  · exact .inl h
  · exact .inr h.1

theorem exists_canonicalManifestBytes {document : Python.Value F} (h : Encodable document) :
    ∃ content, canonicalManifestBytes document = some content :=
  ⟨_, if_pos h⟩

end TruthFingerprint.Evidence
