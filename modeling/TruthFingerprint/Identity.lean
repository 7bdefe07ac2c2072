import Mathlib
import TruthFingerprint.Lib.Sha256

/-!
# Immutable identities

An identity is the name of a digest, `sha256:` and 64 lower-case hexadecimal digits. The digest of
every text is one (`isImmutableId_sha256Id`).
-/

namespace TruthFingerprint

/-- `is_immutable_id`, the full match of `sha256:[0-9a-f]{64}` -/
def isImmutableId (s : Text) : Bool :=
  s.take 7 = text "sha256:" && (s.drop 7).length = 64 && (s.drop 7).all isHexDigit

/-- `"sha256:" + sha256(...).hexdigest()` of the bytes of a text -/
def sha256Id (t : Text) : Text := text "sha256:" ++ Sha256.hexDigest t.utf8

theorem isImmutableId_sha256Id (t : Text) : isImmutableId (sha256Id t) := by
  have htake : (sha256Id t).take 7 = text "sha256:" := List.take_left' (by decide)
  have hdrop : (sha256Id t).drop 7 = Sha256.hexDigest t.utf8 := List.drop_left' (by decide)
  rw [isImmutableId, htake, hdrop, Sha256.length_hexDigest]
  simpa using Sha256.hexDigest_isHex t.utf8

/-- An immutable identity. -/
abbrev Digest := {s : Text // isImmutableId s}

def digestOf (t : Text) : Digest := ⟨sha256Id t, isImmutableId_sha256Id t⟩

instance Digest.lawfulBEq : LawfulBEq Digest := inferInstance

instance neZero_sixteen : NeZero 16 := ⟨by decide⟩

/-- An identity of one digit, for examples. -/
def sampleId (n : Fin 16) : Digest :=
  ⟨text "sha256:" ++ List.replicate 64 (hexDigit n), by revert n; decide⟩

end TruthFingerprint
