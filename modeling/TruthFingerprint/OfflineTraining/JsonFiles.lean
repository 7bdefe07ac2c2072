import Mathlib
import TruthFingerprint.Lib.Dict
import TruthFingerprint.Lib.JsonLayout
import TruthFingerprint.Evidence.BaselinePublication
import TruthFingerprint.OfflineTraining.AdfaLd

/-!
# JSON files

Files are written by `json.dumps` with sorted keys and without `ensure_ascii`, in a layout, and read
by `json.loads` without hooks, which keeps the last of the members of one name. What is written of
texts and integers is read back (`loadsBytes_dumpsAt`).
-/

namespace TruthFingerprint.OfflineTraining

open Python
open Evidence (Encodable isEncodable isPlain)

variable {F : Type} [FloatOps F] {N : Type}

/-! ## Reading -/

mutual
/-- The document with the last of the members of one name -/
def asDicts : Doc N → Doc N
  | .arr items => .arr (asDictsItems items)
  | .obj members => .obj (Dict.ofItems (asDictsMembers members))
  | d => d
termination_by structural d => d

def asDictsItems : List (Doc N) → List (Doc N)
  | [] => []
  | d :: ds => asDicts d :: asDictsItems ds
termination_by structural ds => ds

def asDictsMembers : List (Text × Doc N) → List (Text × Doc N)
  | [] => []
  | m :: ms => asDictsMember m :: asDictsMembers ms
termination_by structural ms => ms

def asDictsMember : Text × Doc N → Text × Doc N
  | (name, d) => (name, asDicts d)
termination_by structural m => m
end

/-- `json.loads` of a text -/
def loadsText (t : Text) : Option (Value F) := do
  let d ← JsonText.parse t
  guard (d.All (fun literal => (Number.ofLiteral (F := F) literal).isSome) fun _ => True)
  some (asDicts (d.map (fun literal => (Number.ofLiteral literal).getD (.int 0)) id))

/-- `json.loads` of the content of a file -/
def loadsBytes (content : Bytes) : Option (Value F) := (decodeUtf8 content).bind loadsText

/-! ## Writing -/

/-- `json.dumps` with sorted keys and neither `ensure_ascii` nor `nan` -/
def dumpsAt (layout : JsonText.Layout) (v : Value F) : Option Text :=
  if Encodable v then
    some (JsonText.renderAt layout (JsonText.escapeWith isPlain) 0
      (v.sortKeys.map Number.literal id))
  else none

/-! ## Reading back -/

theorem asDictsItems_eq (items : List (Doc N)) : asDictsItems items = items.map asDicts := by
  induction items with
  | nil => rfl
  | cons d ds ih => rw [asDictsItems, ih, List.map_cons]

theorem asDictsMembers_eq (members : List (Text × Doc N)) :
    asDictsMembers members = members.map fun m => (m.1, asDicts m.2) := by
  induction members with
  | nil => rfl
  | cons m ms ih => rw [asDictsMembers, ih, List.map_cons, asDictsMember]

/-- Names that are not repeated stay as they are. -/
theorem asDicts_of_uniqueNames (d : Doc N) (h : d.UniqueNames) : asDicts d = d := by
  induction d using Doc.induction with
  | null | bool | num | str => rfl
  | arr items ih =>
    rw [asDicts, asDictsItems_eq]
    refine congrArg Doc.arr ((List.map_congr_left fun d hd => ?_).trans (List.map_id items))
    exact ih d hd (Doc.uniqueNames_arr.mp h d hd)
  | obj members ih =>
    obtain ⟨hnodup, hmembers⟩ := Doc.uniqueNames_obj.mp h
    have hsame : members.map (fun m => (m.1, asDicts m.2)) = members := by
      refine (List.map_congr_left fun m hm => ?_).trans (List.map_id members)
      exact Prod.ext rfl (ih m hm (hmembers m hm))
    rw [asDicts, asDictsMembers_eq, hsame, Dict.ofItems_of_nodup hnodup]

theorem decodeUtf8_utf8 {t : Text} (h : isEncodable t) : decodeUtf8 t.utf8 = some t := by
  have hplain : ∀ c ∈ t, (!c.isSurrogate) = true := List.all_eq_true.mp h
  rw [decodeUtf8, Utf8.scan_utf8 hplain]
  clear h hplain
  induction t with
  | nil => rfl
  | cons c t ih => rw [List.map_cons, List.mapM_cons, ih]; rfl

theorem length_natText_le {n digits : ℕ} (h : n < 10 ^ digits) (hpos : 0 < digits) :
    (DecimalText.natText n).length ≤ digits := by
  rw [DecimalText.natText]
  split_ifs with hzero
  · exact hpos
  · rw [List.length_reverse, List.length_map]
    exact (Nat.digits_length_le_iff (by decide) n).mpr h

theorem isDigit_natText (n : ℕ) : ∀ c ∈ DecimalText.natText n, JsonText.isDigit c :=
  fun _ => isDigit_of_mem_natText

/-- An integer is read back. -/
theorem ofLiteral_intText {i : ℤ} (h : i.natAbs < 10 ^ maxStrDigits) :
    (Number.ofLiteral (intText i) : Option (Number F)) = some (.int i) := by
  have hdigits := isDigit_natText i.natAbs
  have hlength : (DecimalText.natText i.natAbs).length ≤ maxStrDigits :=
    length_natText_le h (by decide)
  have hfilter : (DecimalText.natText i.natAbs).filter JsonText.isDigit =
      DecimalText.natText i.natAbs := List.filter_eq_self.mpr hdigits
  have hsign : ¬JsonText.isDigit '-'.codePoint := by decide
  have hall : (intText i).all fun c => JsonText.isDigit c || c = '-'.codePoint := by
    rw [List.all_eq_true]
    intro c hc
    rcases mem_intText hc with rfl | hc
    · decide
    · simp [hc]
  have hkept : (intText i).filter JsonText.isDigit = DecimalText.natText i.natAbs := by
    rw [intText]
    split_ifs
    · rw [List.filter_cons, if_neg hsign, hfilter]
    · exact hfilter
  have hhead : (intText i).head? = some '-'.codePoint ↔ i < 0 := by
    rw [intText]
    split_ifs with hneg
    · exact iff_of_true rfl hneg
    · refine iff_of_false (fun heq => ?_) hneg
      exact hsign (hdigits _ (List.mem_of_mem_head? heq))
  rw [Number.ofLiteral, if_pos hall]
  simp only [hkept, hlength, if_true, hhead, DecimalText.natValue_natText]
  congr 2
  split_ifs with hneg <;> omega

theorem isLiteral_intText (i : ℤ) : JsonText.IsLiteral (intText i) := by
  have hnat := DecimalText.isNatText_natText i.natAbs
  rw [intText]
  split_ifs
  · exact Evidence.Baseline.isLiteral_minus hnat
  · exact DecimalText.isLiteral_of_isNatText hnat

theorem all_and {p p' : N → Prop} {q q' : Text → Prop} {d : Doc N} (h : d.All p q)
    (h' : d.All p' q') : d.All (fun n => p n ∧ p' n) fun s => q s ∧ q' s := by
  induction d using Doc.induction with
  | null | bool => trivial
  | num n => exact ⟨h, h'⟩
  | str s => exact ⟨h, h'⟩
  | arr items ih =>
    rw [Doc.all_arr] at h h' ⊢
    exact fun d hd => ih d hd (h d hd) (h' d hd)
  | obj members ih =>
    rw [Doc.all_obj] at h h' ⊢
    exact fun m hm => ⟨⟨(h m hm).1, (h' m hm).1⟩, ih m hm (h m hm).2 (h' m hm).2⟩

/-- What a document of texts and integers has for numbers -/
def IsInt : Number F → Prop
  | .int _ => True
  | .float _ => False

/-- An integer that can be printed -/
def PrintedInt (n : Number F) : Prop := n.printable ∧ IsInt n

theorem PrintedInt.ofLiteral {n : Number F} (h : PrintedInt n) :
    Number.ofLiteral n.literal = some n := by
  cases n with
  | int i =>
    have hprintable := h.1
    rw [Number.printable, decide_eq_true_eq] at hprintable
    exact ofLiteral_intText hprintable
  | float x => exact h.2.elim

theorem PrintedInt.isLiteral {n : Number F} (h : PrintedInt n) : JsonText.IsLiteral n.literal := by
  cases n with
  | int i => exact isLiteral_intText i
  | float x => exact h.2.elim

theorem isAscii_of_isNumberChar {c : CodePoint} (h : JsonText.isNumberChar c) : c.isAscii := by
  have hval := JsonText.isNumberChar_iff.mp h
  exact decide_eq_true (by omega)

section ReadBack

variable {layout : JsonText.Layout} {d : Value F} {depth : ℕ} {ws : Text}

theorem isEncodable_renderAt (h : d.All PrintedInt (isEncodable ·))
    (hws : ∀ c ∈ ws, JsonText.isSpace c) :
    isEncodable (JsonText.renderAt layout (JsonText.escapeWith isPlain) depth
      (d.map Number.literal id) ++ ws) := by
  have hascii (c : CodePoint) (hc : c.isAscii) : (!c.isSurrogate) = true := by
    have hval : c.val < 0x80 := of_decide_eq_true hc
    rw [CodePoint.isSurrogate, CodePoint.isHighSurrogate, CodePoint.isLowSurrogate]
    simp
    omega
  rw [isEncodable, List.all_eq_true]
  refine List.forall_mem_append.mpr ⟨JsonText.forall_mem_renderAt hascii depth _ ?_,
    fun c hc => hascii c (JsonText.isAscii_of_isSpace (hws c hc))⟩
  rw [Doc.all_map]
  refine Doc.All.imp (fun n hn c hc => ?_) (fun s hs c hc c' hc' => ?_) _ h
  · exact hascii c (isAscii_of_isNumberChar (hn.isLiteral.2 c hc))
  · rcases JsonText.mem_escapeWith hc' with rfl | hc'
    · exact List.all_eq_true.mp hs c' hc
    · exact hascii c' hc'

theorem parse_renderAt_literals (h : d.All PrintedInt (isEncodable ·))
    (hws : ∀ c ∈ ws, JsonText.isSpace c) :
    JsonText.parse (JsonText.renderAt layout (JsonText.escapeWith isPlain) depth
      (d.map Number.literal id) ++ ws) = some (d.map Number.literal id) := by
  have hescaping : JsonText.Escaping (JsonText.escapeWith isPlain) (JsonText.scannedWith isPlain) :=
    JsonText.escaping_escapeWith fun c hc => of_decide_eq_true hc
  have hliteral : JsonText.Literals (d.map Number.literal id) := by
    rw [JsonText.Literals, Doc.all_map]
    exact Doc.All.imp (fun n hn => hn.isLiteral) (fun s hs => trivial) _ h
  rw [JsonText.parse_renderAt hescaping _ hliteral hws, Doc.map_map]
  refine congrArg some (Doc.map_congr d ?_)
  refine Doc.All.imp (fun _ _ => rfl) (fun s hs => ?_) _ h
  exact JsonText.reread_escapeWith isPlain (Evidence.noSplitPair_of_isEncodable hs)

/-- What is written of texts and integers is read back with sorted keys, whatever the layout, and
whatever the white space after it. -/
theorem loadsBytes_dumpsAt {v : Value F} {t : Text} (h : dumpsAt layout v = some t)
    (hints : v.All IsInt fun _ => True) (hunique : v.UniqueNames)
    (hws : ∀ c ∈ ws, JsonText.isSpace c) : loadsBytes (t ++ ws).utf8 = some v.sortKeys := by
  rw [dumpsAt] at h
  split_ifs at h with hencodable
  obtain rfl := Option.some.inj h
  have hgood : v.sortKeys.All PrintedInt (isEncodable ·) := by
    rw [Doc.all_sortKeys]
    exact Doc.All.imp (fun n hn => hn) (fun s hs => hs.1) _ (all_and hencodable hints)
  have hliterals : (v.sortKeys.map Number.literal id).All
      (fun literal => (Number.ofLiteral (F := F) literal).isSome) fun _ => True := by
    rw [Doc.all_map]
    refine Doc.All.imp (fun n hn => ?_) (fun s _ => trivial) _ hgood
    rw [hn.ofLiteral]
    rfl
  have hread : (v.sortKeys.map Number.literal id).map
      (fun literal => (Number.ofLiteral literal).getD (.int 0)) id = v.sortKeys := by
    rw [Doc.map_map]
    conv_rhs => rw [← Doc.map_id_id v.sortKeys]
    refine Doc.map_congr _ (Doc.All.imp (fun n hn => ?_) (fun s _ => rfl) _ hgood)
    simp only [Function.comp_apply, hn.ofLiteral, Option.getD_some, id_eq]
  rw [loadsBytes, decodeUtf8_utf8 (isEncodable_renderAt hgood hws), Option.bind_some, loadsText,
    parse_renderAt_literals hgood hws]
  simp only [Option.bind_eq_bind, Option.bind_some, guard, hliterals, if_true, hread]
  exact congrArg some (asDicts_of_uniqueNames _ ((Doc.uniqueNames_sortKeys v).mpr hunique))

end ReadBack

end TruthFingerprint.OfflineTraining
