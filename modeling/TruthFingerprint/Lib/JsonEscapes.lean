import Mathlib
import TruthFingerprint.Lib.JsonText

/-!
# Escapes

Printers write the characters that they call raw as they are, seven characters as two-character
escapes, and every other code point as one or two code units (`escapeWith`). Whatever is raw, the
reader gets a string back unless a high surrogate stands before a low one, which it joins to one
code point (`reread_escapeWith`).
-/

namespace JsonText

/-- The six characters of a code unit. -/
def unicodeEscape (n : Nat) : Text :=
  [backslash, 'u'.codePoint, hexDigit (n / 0x1000), hexDigit (n / 0x100 % 0x10),
    hexDigit (n / 0x10 % 0x10), hexDigit (n % 0x10)]

def shortEscape (c : CodePoint) : Option CodePoint :=
  if c = quote || c = backslash then some c
  else if c.val = 0x08 then some 'b'.codePoint
  else if c.val = 0x09 then some 't'.codePoint
  else if c.val = 0x0a then some 'n'.codePoint
  else if c.val = 0x0c then some 'f'.codePoint
  else if c.val = 0x0d then some 'r'.codePoint
  else none

def highUnit (c : CodePoint) : Nat := 0xd800 + (c.val - 0x10000) / 0x400

def lowUnit (c : CodePoint) : Nat := 0xdc00 + (c.val - 0x10000) % 0x400

/-- A code point of a string, as a printer with these raw characters writes it. -/
def escapeWith (raw : CodePoint → Bool) (c : CodePoint) : Text :=
  match shortEscape c with
  | some e => [backslash, e]
  | none =>
    if raw c then [c]
    else if c.val < 0x10000 then unicodeEscape c
    else unicodeEscape (highUnit c) ++ unicodeEscape (lowUnit c)

def scannedWith (raw : CodePoint → Bool) (c : CodePoint) : List Scanned :=
  match shortEscape c with
  | some _ => [(c, false)]
  | none =>
    if raw c then [(c, false)]
    else if c.val < 0x10000 then [(c, true)]
    else [(Fin.ofNat _ (highUnit c), true), (Fin.ofNat _ (lowUnit c), true)]

theorem isAscii_hexDigit (n : Nat) : (hexDigit n).isAscii := by
  have h : ∀ n < 16, (hexDigit n).isAscii := by decide
  rcases Nat.lt_or_ge n 10 with hn | hn
  · exact h n (by omega)
  · have hmod : hexDigit n = Fin.ofNat _ (0x57 + n % 16) := if_neg (by omega)
    simp only [hmod, CodePoint.isAscii, Fin.val_ofNat, decide_eq_true_eq]
    omega

theorem isAscii_of_mem_unicodeEscape (h : c ∈ unicodeEscape n) : c.isAscii := by
  simp only [unicodeEscape, List.mem_cons, List.not_mem_nil, or_false] at h
  rcases h with rfl | rfl | rfl | rfl | rfl | rfl
  · rfl
  · rfl
  all_goals exact isAscii_hexDigit _

theorem isAscii_of_shortEscape (h : shortEscape c = some e) : e.isAscii := by
  revert h
  unfold shortEscape
  split_ifs with h1 <;> intro h
  · obtain rfl := Option.some.inj h
    simp only [Bool.or_eq_true, decide_eq_true_eq] at h1
    rcases h1 with rfl | rfl <;> rfl
  all_goals first
    | exact h.elim
    | cases h; rfl

/-- A printer writes a code point as it is, or as ASCII. -/
theorem mem_escapeWith {raw : CodePoint → Bool} (h : c' ∈ escapeWith raw c) :
    c' = c ∨ c'.isAscii := by
  rw [escapeWith] at h
  cases hshort : shortEscape c with
  | some e =>
    simp only [hshort, List.mem_cons, List.not_mem_nil, or_false] at h
    rcases h with rfl | rfl
    · exact .inr rfl
    · exact .inr (isAscii_of_shortEscape hshort)
  | none =>
    simp only [hshort] at h
    split_ifs at h
    · exact .inl (List.mem_singleton.mp h)
    · exact .inr (isAscii_of_mem_unicodeEscape h)
    · rcases List.mem_append.mp h with h | h
      · exact .inr (isAscii_of_mem_unicodeEscape h)
      · exact .inr (isAscii_of_mem_unicodeEscape h)

theorem hexValue_hexDigit (h : n < 0x10) : hexValue (hexDigit n) = some n := by
  interval_cases n <;> decide

theorem lexString_unicodeEscape (h : n < 0x10000) (t : Text) :
    lexString (unicodeEscape n ++ t) = (lexString t).map (prepend [(Fin.ofNat _ n, true)]) := by
  have hunit : codeUnit (hexDigit (n / 0x1000)) (hexDigit (n / 0x100 % 0x10))
      (hexDigit (n / 0x10 % 0x10)) (hexDigit (n % 0x10)) = some (Fin.ofNat _ n) := by
    rw [codeUnit, hexValue_hexDigit (by omega), hexValue_hexDigit (by omega),
      hexValue_hexDigit (by omega), hexValue_hexDigit (by omega)]
    simp only [Option.bind_eq_bind, Option.bind_some, Option.pure_def]
    congr 2
    omega
  rw [lexString.eq_def]
  simp only [unicodeEscape, List.cons_append, List.nil_append,
    show backslash ≠ quote by decide, if_true, if_false, hunit]

theorem shortEscape_cases (h : shortEscape c = some e) :
    e ≠ 'u'.codePoint ∧ simpleEscape e = some c := by
  revert h
  unfold shortEscape
  split_ifs with h1 h2 h3 h4 h5 h6 <;> intro h
  · obtain rfl : c = e := by simpa using h
    simp only [Bool.or_eq_true, decide_eq_true_eq] at h1
    rcases h1 with rfl | rfl <;> decide
  all_goals first
    | exact h.elim
    | obtain rfl := Option.some.inj h
      exact ⟨by decide, congrArg some (Fin.ext (by assumption)).symm⟩

theorem lexString_shortEscape (h : shortEscape c = some e) (t : Text) :
    lexString (backslash :: e :: t) = (lexString t).map (prepend [(c, false)]) := by
  obtain ⟨hu, hsimple⟩ := shortEscape_cases h
  rw [lexString.eq_def]
  simp only [show backslash ≠ quote by decide, if_true, if_false, hu, hsimple]

theorem lexString_raw (hshort : shortEscape c = none) (h : 0x20 ≤ c.val) (t : Text) :
    lexString (c :: t) = (lexString t).map (prepend [(c, false)]) := by
  have hne : c ≠ quote ∧ c ≠ backslash := by
    constructor <;> rintro rfl <;> exact absurd hshort (by decide)
  rw [lexString.eq_def]
  simp only [hne.1, hne.2, if_false, show ¬c.val < 0x20 by omega]

theorem escaping_escapeWith {raw : CodePoint → Bool} (hraw : ∀ c, raw c → 0x20 ≤ c.val) :
    Escaping (escapeWith raw) (scannedWith raw) where
  lex c t := by
    unfold escapeWith scannedWith
    cases hshort : shortEscape c with
    | some e => exact lexString_shortEscape hshort t
    | none =>
      simp only
      have hc := c.isLt
      split_ifs with h1 h2
      · exact lexString_raw hshort (hraw c h1) t
      · rw [lexString_unicodeEscape h2]
        congr 4
        exact Fin.ext (Nat.mod_eq_of_lt hc)
      · have hhigh : highUnit c < 0x10000 := by unfold highUnit; omega
        have hlow : lowUnit c < 0x10000 := by unfold lowUnit; omega
        rw [List.append_assoc, lexString_unicodeEscape hhigh, lexString_unicodeEscape hlow,
          Option.map_map]
        rfl

/-! ## Surrogates -/

/-- No high surrogate stands before a low one. -/
def NoSplitPair (s : Text) : Prop :=
  s.IsChain fun high low => ¬(high.isHighSurrogate ∧ low.isLowSurrogate)

instance : DecidablePred NoSplitPair := fun _ => inferInstanceAs (Decidable (List.IsChain _ _))

@[simp] theorem joinUnits_false (c : CodePoint) (us : List Scanned) :
    joinUnits ((c, false) :: us) = c :: joinUnits us := by
  simp [joinUnits]

theorem joinUnits_true {us : List Scanned} (h : ∀ low us', us = (low, true) :: us' →
    ¬(c.isHighSurrogate ∧ low.isLowSurrogate)) :
    joinUnits ((c, true) :: us) = c :: joinUnits us := by
  match us with
  | [] => simp [joinUnits]
  | (low, false) :: us => simp [joinUnits]
  | (low, true) :: us =>
    rw [joinUnits, if_neg]
    simpa using h low us rfl

theorem joinUnits_pair {us : List Scanned} (hhigh : high.isHighSurrogate)
    (hlow : low.isLowSurrogate) :
    joinUnits ((high, true) :: (low, true) :: us) = joined high low :: joinUnits us := by
  rw [joinUnits, if_pos]
  simp [hhigh, hlow]

theorem units_of_astral (h : ¬c.val < 0x10000) :
    CodePoint.isHighSurrogate (Fin.ofNat _ (highUnit c)) ∧
      CodePoint.isLowSurrogate (Fin.ofNat _ (lowUnit c)) ∧
      joined (Fin.ofNat _ (highUnit c)) (Fin.ofNat _ (lowUnit c)) = c := by
  have hc := c.isLt
  have hhigh : (Fin.ofNat 0x110000 (highUnit c)).val = highUnit c :=
    Nat.mod_eq_of_lt (by unfold highUnit; omega)
  have hlow : (Fin.ofNat 0x110000 (lowUnit c)).val = lowUnit c :=
    Nat.mod_eq_of_lt (by unfold lowUnit; omega)
  refine ⟨?_, ?_, ?_⟩
  · rw [CodePoint.isHighSurrogate, hhigh, highUnit]
    simp
    omega
  · rw [CodePoint.isLowSurrogate, hlow, lowUnit]
    simp
    omega
  · rw [joined, hhigh, hlow, highUnit, lowUnit]
    refine Fin.ext ?_
    rw [Fin.val_ofNat]
    omega

/-- A code unit that is a low surrogate comes from a low surrogate. -/
theorem head_scannedWith {raw : CodePoint → Bool} {s : Text}
    (h : s.flatMap (scannedWith raw) = (low, true) :: us) (hlow : low.isLowSurrogate) :
    s.head? = some low := by
  cases s with
  | nil => simp at h
  | cons c s =>
    rw [List.flatMap_cons, scannedWith] at h
    cases hshort : shortEscape c with
    | some e => simp [hshort] at h
    | none =>
      simp only [hshort] at h
      split_ifs at h with h1 h2
      · simp at h
      · simp only [List.cons_append, List.cons.injEq, Prod.mk.injEq] at h
        simp [h.1.1]
      · have hunits := (units_of_astral h2).1
        simp only [List.cons_append, List.cons.injEq, Prod.mk.injEq] at h
        rw [h.1.1] at hunits
        simp only [CodePoint.isHighSurrogate, CodePoint.isLowSurrogate, Bool.and_eq_true,
          decide_eq_true_eq] at hunits hlow
        omega

/-- The reader gets back a string without a pair of surrogates. -/
theorem reread_escapeWith (raw : CodePoint → Bool) {s : Text} (h : NoSplitPair s) :
    reread (scannedWith raw) s = s := by
  unfold reread
  induction s with
  | nil => rfl
  | cons c s ih =>
    have ih := ih (List.IsChain.tail h)
    rw [List.flatMap_cons, scannedWith]
    cases hshort : shortEscape c with
    | some e => simp [ih]
    | none =>
      simp only
      split_ifs with h1 h2
      · simp [ih]
      · rw [List.singleton_append, joinUnits_true, ih]
        rintro low us hus ⟨hhigh, hlow⟩
        have hhead := head_scannedWith hus hlow
        cases s with
        | nil => simp at hhead
        | cons c' s =>
          obtain rfl : c' = low := by simpa using hhead
          exact (List.isChain_cons_cons.mp h).1 ⟨hhigh, hlow⟩
      · obtain ⟨hhigh, hlow, hjoined⟩ := units_of_astral h2
        rw [List.cons_append, List.singleton_append, joinUnits_pair hhigh hlow, hjoined, ih]

/-- A text without surrogates has no pair of them. -/
theorem noSplitPair_of_no_surrogate {s : Text} (h : ∀ c ∈ s, ¬c.isSurrogate) : NoSplitPair s := by
  induction s with
  | nil => exact List.IsChain.nil
  | cons c s ih =>
    obtain ⟨hc, hs⟩ := List.forall_mem_cons.mp h
    cases s with
    | nil => exact List.IsChain.singleton c
    | cons c' s =>
      refine List.isChain_cons_cons.mpr ⟨fun hpair => hc ?_, ih hs⟩
      rw [CodePoint.isSurrogate, hpair.1, Bool.true_or]

/-- Documents whose strings have no pair of surrogates are told apart by their texts. -/
theorem render_injective {raw : CodePoint → Bool} (hraw : ∀ c, raw c → 0x20 ≤ c.val)
    {d d' : Doc Text} (hd : d.All IsLiteral NoSplitPair) (hd' : d'.All IsLiteral NoSplitPair)
    (h : render (escapeWith raw) d = render (escapeWith raw) d') : d = d' := by
  have hread {d : Doc Text} (hd : d.All IsLiteral NoSplitPair) :
      parse (render (escapeWith raw) d) = some d := by
    rw [parse_render (escaping_escapeWith hraw) d (hd.imp (fun _ => id) fun _ _ => trivial)]
    conv_rhs => rw [← Doc.map_id_id d]
    exact congrArg some
      (Doc.map_congr d (hd.imp (fun _ _ => rfl) fun s hs => reread_escapeWith raw hs))
  exact Option.some.inj ((hread hd).symm.trans ((congrArg parse h).trans (hread hd')))

end JsonText
