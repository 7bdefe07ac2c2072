import Mathlib
import TruthFingerprint.Lib.JsonEscapes
import TruthFingerprint.Lib.Utf8

/-!
# Go's `encoding/json`

Values are what a decoder with `UseNumber` returns: documents whose numbers are literals. A string
of such a value has no surrogates, because what is not UTF-8 and an escaped surrogate on its own
are read as U+FFFD.

`decodeCanonicalJSON` accepts the bytes that `json.Marshal` writes of a value, and no others
(`decodeCanonicalJSON_eq_ok`).
-/

namespace TruthFingerprint.Go

open JsonText (IsLiteral Literals)

abbrev Value := Doc Text

abbrev Members := List (Text × Value)

/-- `utf8.RuneError` -/
def runeError : CodePoint := 0xfffd

def isRune (c : CodePoint) : Bool := !c.isSurrogate

/-- The runes of bytes, `utf8.RuneError` for each byte that starts none -/
def runes (raw : Bytes) : Text := (Utf8.scan isRune 0 raw).map (·.getD runeError)

/-- A string of the decoder, of code units that may be surrogates. -/
def goString (t : Text) : Text := t.map fun c => if isRune c then c else runeError

/-- What `json.Marshal` writes as it is. -/
def isRaw (c : CodePoint) : Bool :=
  0x20 ≤ c.val && c ≠ '<'.codePoint && c ≠ '>'.codePoint && c ≠ '&'.codePoint && c.val ≠ 0x2028 &&
    c.val ≠ 0x2029

def escape : CodePoint → Text := JsonText.escapeWith isRaw

/-- `json.Marshal`, of a map with its keys sorted -/
def marshal (v : Value) : Text := JsonText.render escape v.sortKeys

/-- `decodeNoDuplicate` on the whole input -/
def decodeNoDuplicate (raw : Bytes) : Option Value :=
  match JsonText.parse (runes raw) with
  | none => none
  | some d => if (d.map id goString).UniqueNames then some (d.map id goString) else none

def decodeCanonicalJSON (raw : Bytes) : Except String Value :=
  match decodeNoDuplicate raw with
  | none => .error "CV2_STRICT_JSON"
  | some value =>
    if raw = (marshal value).utf8 then .ok value else .error "CV2_NONCANONICAL_WIRE"

/-- The numbers and strings of a value are those of a decoder. -/
def Decoded (v : Value) : Prop := v.All IsLiteral fun s => ∀ c ∈ s, isRune c

/-- A value of the decoder with its names sorted. -/
structure Canonical (v : Value) : Prop where
  decoded : Decoded v
  unique : v.UniqueNames
  sorted : v.sortKeys = v

/-! ## Runes -/

theorem isRune_runeError : isRune runeError := by decide

theorem isRune_goString (t : Text) : ∀ c ∈ goString t, isRune c := by
  intro c hc
  obtain ⟨c', -, rfl⟩ := List.mem_map.mp hc
  split
  · assumption
  · exact isRune_runeError

theorem goString_of_runes {t : Text} (h : ∀ c ∈ t, isRune c) : goString t = t := by
  rw [goString, List.map_congr_left (g := id), List.map_id]
  intro c hc
  rw [if_pos (h c hc), id]

theorem runes_utf8 {t : Text} (h : ∀ c ∈ t, isRune c) : runes t.utf8 = t := by
  rw [runes, Utf8.scan_utf8 h, List.map_map]
  exact List.map_id t

theorem isRune_of_isAscii {c : CodePoint} (h : c.isAscii) : isRune c := by
  simp only [CodePoint.isAscii, decide_eq_true_eq] at h
  simp only [isRune, CodePoint.isSurrogate, CodePoint.isHighSurrogate, CodePoint.isLowSurrogate,
    Bool.not_eq_true', Bool.or_eq_false_iff, Bool.and_eq_false_iff, decide_eq_false_iff_not]
  omega

theorem isAscii_of_isNumberChar {c : CodePoint} (h : JsonText.isNumberChar c) : c.isAscii := by
  rw [JsonText.isNumberChar_iff] at h
  simp only [CodePoint.isAscii, decide_eq_true_eq]
  omega

/-! ## What is written -/

theorem isRune_of_mem_marshal {v : Value} (h : Decoded v) : ∀ c ∈ marshal v, isRune c := by
  refine JsonText.forall_mem_render (fun c => isRune_of_isAscii) _
    (Doc.All.imp (fun literal hliteral c hc => ?_) (fun s hs c hc c' hc' => ?_) _
      ((Doc.all_sortKeys v).mpr h))
  · exact isRune_of_isAscii (isAscii_of_isNumberChar (hliteral.2 c hc))
  · rcases JsonText.mem_escapeWith hc' with rfl | hascii
    · exact hs c' hc
    · exact isRune_of_isAscii hascii

theorem decoded_sortKeys {v : Value} : Decoded v.sortKeys ↔ Decoded v := Doc.all_sortKeys v

/-- A string without surrogates is read as it is written. -/
theorem goString_reread {s : Text} (h : ∀ c ∈ s, isRune c) :
    goString (JsonText.reread (JsonText.scannedWith isRaw) s) = s := by
  have hpair : JsonText.NoSplitPair s :=
    JsonText.noSplitPair_of_no_surrogate fun c hc => by simpa [isRune] using h c hc
  rw [JsonText.reread_escapeWith isRaw hpair, goString_of_runes h]

theorem isRaw_ge {c : CodePoint} (h : isRaw c) : 0x20 ≤ c.val := by
  simp only [isRaw, Bool.and_eq_true, decide_eq_true_eq] at h
  exact h.1.1.1.1.1

/-- The decoder reads what `json.Marshal` writes. -/
theorem decodeNoDuplicate_marshal {v : Value} (hdecoded : Decoded v) (hunique : v.UniqueNames) :
    decodeNoDuplicate (marshal v).utf8 = some v.sortKeys := by
  have hsorted : Decoded v.sortKeys := decoded_sortKeys.mpr hdecoded
  have hparse := JsonText.parse_render (JsonText.escaping_escapeWith fun _ => isRaw_ge) v.sortKeys
    (hsorted.imp (fun _ => id) fun _ _ => trivial)
  have hread : (v.sortKeys.map id (JsonText.reread (JsonText.scannedWith isRaw))).map id goString =
      v.sortKeys := by
    rw [Doc.map_map]
    conv_rhs => rw [← Doc.map_id_id v.sortKeys]
    exact Doc.map_congr _ (hsorted.imp (fun _ _ => rfl) fun s hs => goString_reread hs)
  rw [decodeNoDuplicate, runes_utf8 (isRune_of_mem_marshal hdecoded), marshal, escape, hparse]
  simp only [hread, (Doc.uniqueNames_sortKeys v).mpr hunique, if_true]

theorem decoded_of_decodeNoDuplicate {raw : Bytes} {v : Value} (h : decodeNoDuplicate raw = some v) :
    Decoded v ∧ v.UniqueNames := by
  rw [decodeNoDuplicate] at h
  split at h
  · cases h
  · split_ifs at h with hunique
    obtain rfl := Option.some.inj h
    have hliterals := JsonText.literals_of_parse (by assumption)
    exact ⟨(Doc.all_map id goString _).mpr
      (hliterals.imp (fun _ => id) fun s _ => isRune_goString s), hunique⟩

/-- The accepted bytes are those that `json.Marshal` writes of a value. -/
theorem decodeCanonicalJSON_eq_ok {raw : Bytes} {v : Value} :
    decodeCanonicalJSON raw = .ok v ↔ Canonical v ∧ raw = (marshal v).utf8 := by
  rw [decodeCanonicalJSON]
  constructor
  · intro h
    split at h
    · cases h
    · rename_i value hvalue
      split_ifs at h with hraw
      obtain rfl := Except.ok.inj h
      obtain ⟨hdecoded, hunique⟩ := decoded_of_decodeNoDuplicate hvalue
      -- The bytes are those of the sorted value, so reading them gives the sorted value.
      rw [hraw, decodeNoDuplicate_marshal hdecoded hunique] at hvalue
      exact ⟨⟨hdecoded, hunique, Option.some.inj hvalue⟩, hraw⟩
  · intro ⟨hv, hraw⟩
    rw [hraw, decodeNoDuplicate_marshal hv.decoded hv.unique, hv.sorted]
    simp

theorem canonical_sortKeys {v : Value} (hdecoded : Decoded v) (hunique : v.UniqueNames) :
    Canonical v.sortKeys :=
  ⟨decoded_sortKeys.mpr hdecoded, (Doc.uniqueNames_sortKeys v).mpr hunique, Doc.sortKeys_sortKeys v⟩

end TruthFingerprint.Go
