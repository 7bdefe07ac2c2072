import TruthFingerprint.Lib.BreakLoop
import TruthFingerprint.Evidence.ConfigurationIdentity

/-!
# Secrets and the identity of a configuration

Two configurations agree line by line but for values of entries that are secret. The scans of both
pass through the same states, where in each pair of lines both hold a marker of a secret or neither
does: so the configurations have one identity.
-/

namespace TruthFingerprint.Evidence

open Python (isSpace strip)

namespace Configuration

/-! ## The text of an entry -/

def IsSpaces (s : Text) : Prop := ∀ c ∈ s, isSpace c

instance (s : Text) : Decidable (IsSpaces s) := List.decidableBAll _ s

/-- `[A-Za-z_][A-Za-z0-9_-]*` -/
structure IsKey (key : Text) : Prop where
  start : key.head?.any isKeyStart
  rest : ∀ c ∈ key, isKeyChar c

theorem not_isSpace_of_isKeyChar {c : CodePoint} (h : isKeyChar c) : isSpace c = false := by
  have hunderscore : '_'.codePoint.val = 0x5f := rfl
  have hdash : '-'.codePoint.val = 0x2d := rfl
  have hzero : '0'.codePoint.val = 0x30 := rfl
  have hnine : '9'.codePoint.val = 0x39 := rfl
  simp only [isKeyChar, isKeyStart, isLetter, JsonText.isDigit, Bool.or_eq_true, Bool.and_eq_true,
    decide_eq_true_eq, Fin.ext_iff, Fin.le_def] at h
  simp only [isSpace, Bool.or_eq_false_iff, Bool.and_eq_false_iff, decide_eq_false_iff_not]
  omega

theorem lstrip_append {indent : Text} (h : IsSpaces indent) (s : Text) :
    lstrip (indent ++ s) = lstrip s := by
  rw [lstrip, List.dropWhile_append_of_pos h, lstrip]

theorem lstrip_cons {c : CodePoint} (h : isSpace c = false) (s : Text) :
    lstrip (c :: s) = c :: s := by
  rw [lstrip, List.dropWhile_cons_of_neg (by simp [h])]

/-- The spaces at the end of a text come after a character that is none. -/
theorem rstrip_append {c : CodePoint} (h : isSpace c = false) (s t : Text) :
    rstrip (s ++ c :: t) = s ++ c :: rstrip t := by
  rw [rstrip, rstrip, List.reverse_append, List.reverse_cons, List.append_assoc,
    List.dropWhile_append, List.singleton_append, List.dropWhile_cons_of_neg (by simp [h])]
  split_ifs with hspaces
  · simp [List.isEmpty_iff.mp hspaces]
  · simp

theorem IsKey.cons {key : Text} (hkey : IsKey key) :
    ∃ c t, key = c :: t ∧ isKeyStart c ∧ isSpace c = false := by
  cases key with
  | nil => exact absurd hkey.start (by simp)
  | cons c t =>
    exact ⟨c, t, rfl, by simpa using hkey.start,
      not_isSpace_of_isKeyChar (hkey.rest c List.mem_cons_self)⟩

/-- What stands after a key does not belong to it. -/
theorem takeWhile_gap {p : CodePoint → Bool} {gap : Text} {c : CodePoint}
    (hspace : ∀ d, isSpace d → p d = false) (hgap : IsSpaces gap) (hc : p c = false) (t : Text) :
    (gap ++ c :: t).takeWhile p = [] := by
  cases gap with
  | nil => simp [hc]
  | cons d gap => simp [hspace d (hgap d List.mem_cons_self)]

theorem matchKey_entry {start rest separator : CodePoint → Bool} {key gap : Text} {c : CodePoint}
    (hstart : key.head?.any start) (hrest : ∀ d ∈ key, rest d)
    (hspace : ∀ d, isSpace d → rest d = false) (hgap : IsSpaces gap) (hc : rest c = false)
    (hc' : isSpace c = false) (value : Text) :
    matchKey start rest separator (key ++ (gap ++ c :: value)) =
      if separator c then some (key, value) else none := by
  have hkey : (key ++ (gap ++ c :: value)).takeWhile rest = key := by
    rw [List.takeWhile_append_of_pos hrest, takeWhile_gap hspace hgap hc, List.append_nil]
  simp only [matchKey, hkey, hstart, if_true, List.drop_left, lstrip_append hgap,
    lstrip_cons hc']

theorem mem_rstrip {c : CodePoint} {s : Text} (hc : isSpace c = false) (h : c ∈ s) :
    c ∈ rstrip s := by
  obtain ⟨before, after, rfl⟩ := List.append_of_mem h
  rw [rstrip_append hc]
  simp

theorem mem_lstrip {c : CodePoint} {s : Text} (hc : isSpace c = false) (h : c ∈ s) :
    c ∈ lstrip s := by
  rw [← List.takeWhile_append_dropWhile (p := isSpace) (l := s)] at h
  rcases List.mem_append.mp h with htake | hdrop
  · exact absurd (List.mem_takeWhile_imp htake) (by simp [hc])
  · exact hdrop

theorem mem_strip {c : CodePoint} {s : Text} (hc : isSpace c = false) (h : c ∈ s) : c ∈ strip s :=
  mem_rstrip hc (mem_lstrip hc h)

/-- A value that is not blank is none after its spaces are cut either. -/
theorem strip_rstrip_ne_nil {value : Text} (h : ¬IsSpaces value) : strip (rstrip value) ≠ [] := by
  obtain ⟨c, hmem, hc⟩ : ∃ c ∈ value, isSpace c = false := by simpa [IsSpaces] using h
  exact List.ne_nil_of_mem (mem_strip hc (mem_rstrip hc hmem))

/-- A key at an indentation, the separator and what follows -/
def keyLine (indent key gap : Text) (separator : CodePoint) (value : Text) : Text :=
  indent ++ (key ++ (gap ++ separator :: value))

/-- An item of a list that holds a key, the separator and what follows -/
def itemLine (indent spaces key gap : Text) (separator : CodePoint) (value : Text) : Text :=
  indent ++ '-'.codePoint :: keyLine spaces key gap separator value

section Lines

variable {indent spaces key gap : Text} {separator : CodePoint} (value : Text)

theorem strip_keyLine (hindent : IsSpaces indent) (hkey : IsKey key)
    (hseparator : isSpace separator = false) :
    strip (keyLine indent key gap separator value) =
      key ++ (gap ++ separator :: rstrip value) := by
  obtain ⟨c, t, rfl, -, hc⟩ := hkey.cons
  calc strip (keyLine indent (c :: t) gap separator value)
    _ = rstrip (lstrip (indent ++ (c :: t ++ (gap ++ separator :: value)))) := rfl
    _ = rstrip (c :: t ++ (gap ++ separator :: value)) := by
      rw [lstrip_append hindent, List.cons_append, lstrip_cons hc]
    _ = c :: t ++ (gap ++ separator :: rstrip value) := by
      rw [← List.append_assoc, rstrip_append hseparator, List.append_assoc]

theorem strip_itemLine (hindent : IsSpaces indent) (hseparator : isSpace separator = false) :
    strip (itemLine indent spaces key gap separator value) =
      '-'.codePoint :: keyLine spaces key gap separator (rstrip value) := by
  have hdash : isSpace '-'.codePoint = false := rfl
  calc strip (itemLine indent spaces key gap separator value)
    _ = rstrip (lstrip (indent ++ '-'.codePoint :: keyLine spaces key gap separator value)) := rfl
    _ = rstrip (('-'.codePoint :: (spaces ++ (key ++ gap))) ++ separator :: value) := by
      rw [lstrip_append hindent, lstrip_cons hdash]
      simp [keyLine]
    _ = '-'.codePoint :: keyLine spaces key gap separator (rstrip value) := by
      rw [rstrip_append hseparator]
      simp [keyLine]

theorem indentationOf_append (hindent : IsSpaces indent) {c : CodePoint}
    (hc : isSpace c = false) (t : Text) : indentationOf (indent ++ c :: t) = indent.length := by
  rw [indentationOf, List.takeWhile_append_of_pos hindent,
    List.takeWhile_cons_of_neg (by simp [hc]), List.append_nil]

theorem indentationOf_keyLine (gap : Text) (separator : CodePoint) (hindent : IsSpaces indent)
    (hkey : IsKey key) :
    indentationOf (keyLine indent key gap separator value) = indent.length := by
  obtain ⟨c, t, rfl, -, hc⟩ := hkey.cons
  exact indentationOf_append hindent hc _

theorem indentationOf_itemLine (spaces key gap : Text) (separator : CodePoint)
    (hindent : IsSpaces indent) :
    indentationOf (itemLine indent spaces key gap separator value) = indent.length :=
  indentationOf_append hindent rfl _

theorem matchKey_keyLine (separator : CodePoint) (separates : CodePoint → Bool) (hkey : IsKey key)
    (hgap : IsSpaces gap) (hseparator : isKeyChar separator = false)
    (hspace : isSpace separator = false) :
    matchKey isKeyStart isKeyChar separates (key ++ (gap ++ separator :: value)) =
      if separates separator then some (key, value) else none :=
  matchKey_entry hkey.start hkey.rest
    (fun d hd => Bool.eq_false_iff.mpr fun hd' => by simp [not_isSpace_of_isKeyChar hd'] at hd)
    hgap hseparator hspace value

theorem listEnvironment_key (hkey : IsKey key) (t : Text) : listEnvironment (key ++ t) = none := by
  obtain ⟨c, t', rfl, hstart, -⟩ := hkey.cons
  have hc : c ≠ '-'.codePoint := by
    rintro rfl
    exact absurd hstart (by decide)
  simp [listEnvironment, hc]

theorem keyMatch_key (hkey : IsKey key) (hgap : IsSpaces gap) :
    keyMatch (key ++ (gap ++ ':'.codePoint :: value)) = some (key, value) := by
  have hmatch := matchKey_keyLine value ':'.codePoint (· = ':'.codePoint) hkey hgap rfl rfl
  obtain ⟨c, t, rfl, hstart, -⟩ := hkey.cons
  have hc : c ≠ '-'.codePoint := by
    rintro rfl
    exact absurd hstart (by decide)
  simpa [keyMatch, hc] using hmatch

theorem listEnvironment_item (hspaces : IsSpaces spaces) (hkey : IsKey key) (hgap : IsSpaces gap) :
    listEnvironment ('-'.codePoint :: keyLine spaces key gap '='.codePoint value) =
      some (key, lstrip value) := by
  have hmatch := matchKey_keyLine value '='.codePoint (· = '='.codePoint) hkey hgap rfl rfl
  have hstrip : lstrip (keyLine spaces key gap '='.codePoint value) =
      key ++ (gap ++ '='.codePoint :: value) := by
    obtain ⟨c, t, rfl, -, hc⟩ := hkey.cons
    rw [keyLine, lstrip_append hspaces, List.cons_append, lstrip_cons hc]
  simp [listEnvironment, hstrip, hmatch]

theorem isBlank_keyLine (hindent : IsSpaces indent) (hkey : IsKey key)
    (hseparator : isSpace separator = false) :
    isBlank (strip (keyLine indent key gap separator value)) = false := by
  rw [strip_keyLine value hindent hkey hseparator]
  obtain ⟨c, t, rfl, hstart, -⟩ := hkey.cons
  have hc : c ≠ '#'.codePoint := by
    rintro rfl
    exact absurd hstart (by decide)
  simp [isBlank, hc]

theorem isBlank_itemLine (hindent : IsSpaces indent) (hseparator : isSpace separator = false) :
    isBlank (strip (itemLine indent spaces key gap separator value)) = false := by
  rw [strip_itemLine value hindent hseparator]
  rfl

end Lines

theorem lower_upper (s : Text) : lower (upper s) = lower s := by
  rw [lower, upper, List.flatMap_map, lower]
  refine List.flatMap_congr fun c _ => ?_
  by_cases hlower : 0x61 ≤ c.val ∧ c.val ≤ 0x7a
  · have hletter : 0x41 ≤ c.val - 0x20 ∧ c.val - 0x20 ≤ 0x5a := by omega
    have hnot : ¬(0x41 ≤ c.val ∧ c.val ≤ 0x5a) := by omega
    have hback : c.val - 0x20 + 0x20 = c.val := by omega
    simp only [hlower, hletter, hnot, and_self, dite_true, dite_false, hback, Fin.eta]
    split
    · omega
    · omega
    · rfl
  · simp [hlower]

theorem containsSecretMarker_upper (key : Text) :
    containsSecretMarker (upper key) = containsSecretMarker key := by
  simp only [containsSecretMarker, lower_upper]

/-! ## What the scanner makes of an entry -/

section Entries

variable (urlsplit : UrlSplitter) (s : Scan) {indent spaces key gap : Text} (value : Text)

/-- A key that names a secret starts a part that is skipped. -/
theorem openLine_marked (hindent : IsSpaces indent) (hkey : IsKey key) (hgap : IsSpaces gap)
    (hmarked : containsSecretMarker key) :
    openLine urlsplit s (keyLine indent key gap ':'.codePoint value)
        (strip (keyLine indent key gap ':'.codePoint value)) =
      some ((s.redact (upper key)).skipBelow indent.length) := by
  rw [strip_keyLine value hindent hkey rfl, openLine, listEnvironment_key hkey]
  simp only [keyedLine, keyMatch_key _ hkey hgap, hmarked, if_true,
    indentationOf_keyLine value gap ':'.codePoint hindent hkey]

/-- Of an entry of an environment that is not approved, its key is reported. Where the line has a
marker of a secret in it, that is reported in place of the key. -/
theorem openLine_unapproved (hindent : IsSpaces indent) (hkey : IsKey key) (hgap : IsSpaces gap)
    (hunmarked : containsSecretMarker key = false) (hsecret : upper key ∉ approvedConfigKeys)
    (hparent : s.parentKey = environmentKey) (hvalue : ¬IsSpaces value) :
    openLine urlsplit s (keyLine indent key gap ':'.codePoint value)
        (strip (keyLine indent key gap ':'.codePoint value)) =
      some (s.redact (if containsSecretMarker (strip (keyLine indent key gap ':'.codePoint value))
        then inlineSecretMarker else upper key)) := by
  have hrest : (strip (rstrip value)).isEmpty = false := by
    simpa using strip_rstrip_ne_nil hvalue
  rw [strip_keyLine value hindent hkey rfl, openLine, listEnvironment_key hkey]
  simp only [keyedLine, keyMatch_key _ hkey hgap, hunmarked, hrest, Bool.false_eq_true, if_false]
  split_ifs with hmarker
  · rfl
  · simp [valueEntry, hparent, environmentEntry, hsecret]

theorem openLine_item (hindent : IsSpaces indent) (hspaces : IsSpaces spaces) (hkey : IsKey key)
    (hgap : IsSpaces gap) (hsecret : isRedactedKey key) (hparent : s.parentKey = environmentKey) :
    openLine urlsplit s (itemLine indent spaces key gap '='.codePoint value)
        (strip (itemLine indent spaces key gap '='.codePoint value)) =
      some (s.redact (upper key)) := by
  rw [strip_itemLine value hindent rfl, openLine,
    listEnvironment_item _ hspaces hkey hgap]
  simp only [hparent, if_true, listEntry]
  split_ifs with hmarked
  · rfl
  · have hunapproved : upper key ∉ approvedConfigKeys := by
      simpa [isRedactedKey, hmarked] using hsecret
    simp [environmentEntry, hunapproved]

end Entries

/-! ## What a line changes -/

section Steps

variable {urlsplit : UrlSplitter} {s s' : Scan} {rawLine stripped key value : Text}

/-- The lines and names that are collected decide nothing about other lines. -/
structure SameStack (s s' : Scan) : Prop where
  context : s'.context = s.context
  redactedIndent : s'.redactedIndent = s.redactedIndent

theorem SameStack.rfl : SameStack s s := ⟨.refl _, .refl _⟩

theorem sameStack_keep : SameStack s (s.keep rawLine) := ⟨.refl _, .refl _⟩

theorem sameStack_redact : SameStack s (s.redact key) := ⟨.refl _, .refl _⟩

theorem environmentEntry_sameStack (h : environmentEntry urlsplit s rawLine key value = some s') :
    SameStack s s' := by
  rw [environmentEntry] at h
  split_ifs at h
  · obtain ⟨safe, -, rfl⟩ := Option.map_eq_some_iff.mp h
    cases safe with
    | true => exact sameStack_keep
    | false => exact sameStack_redact
  · cases h
    exact sameStack_redact

theorem listEntry_sameStack (h : listEntry urlsplit s rawLine key value = some s') :
    SameStack s s' := by
  rw [listEntry] at h
  split_ifs at h
  · cases h
    exact sameStack_redact
  · exact environmentEntry_sameStack h

theorem valueEntry_sameStack (h : valueEntry urlsplit s rawLine key value = some s') :
    SameStack s s' := by
  rw [valueEntry] at h
  split_ifs at h
  · exact environmentEntry_sameStack h
  · cases h
    exact sameStack_keep
  · cases h
    exact sameStack_redact

theorem scalarItem_sameStack : SameStack s (scalarItem s rawLine stripped) := by
  rw [scalarItem]
  split_ifs
  · exact sameStack_keep
  · exact .rfl

/-- At most a line opens a key, or starts a part that is skipped, at its indentation. -/
structure Opens (indentation : Nat) (s s' : Scan) : Prop where
  context : s'.context = s.context ∨ ∃ key, s'.context = (indentation, key) :: s.context
  redactedIndent : s'.redactedIndent = s.redactedIndent ∨ s'.redactedIndent = some indentation

theorem SameStack.opens {indentation : Nat} (h : SameStack s s') : Opens indentation s s' :=
  ⟨.inl h.context, .inl h.redactedIndent⟩

theorem keyedLine_opens (h : keyedLine urlsplit s rawLine stripped = some s') :
    Opens (indentationOf rawLine) s s' := by
  rw [keyedLine] at h
  cases hkey : keyMatch stripped with
  | none =>
    simp only [hkey] at h
    split_ifs at h
    · cases h
      exact sameStack_redact.opens
    · cases h
      exact scalarItem_sameStack.opens
  | some entry =>
    simp only [hkey] at h
    split_ifs at h
    · cases h
      exact ⟨.inl rfl, .inr rfl⟩
    · cases h
      exact sameStack_redact.opens
    · cases h
      exact ⟨.inr ⟨_, rfl⟩, .inl rfl⟩
    · exact (valueEntry_sameStack h).opens

theorem openLine_opens (h : openLine urlsplit s rawLine stripped = some s') :
    Opens (indentationOf rawLine) s s' := by
  rw [openLine] at h
  cases hlist : listEnvironment stripped with
  | none =>
    simp only [hlist] at h
    exact keyedLine_opens h
  | some entry =>
    simp only [hlist] at h
    split_ifs at h
    · exact (listEntry_sameStack h).opens
    · exact keyedLine_opens h

/-- A key that is open at an indentation stays so below a line that is not indented less. -/
theorem Opens.close_context {indentation lineIndentation : Nat}
    (h : Opens lineIndentation (s.close lineIndentation) s') (hle : indentation ≤ lineIndentation) :
    (s'.close indentation).context = (s.close indentation).context := by
  have hclose : (s.close lineIndentation).context.dropWhile (fun entry => indentation ≤ entry.1) =
      (s.close indentation).context := by
    rw [Scan.close, Scan.close]
    induction s.context with
    | nil => rfl
    | cons entry context ih =>
      by_cases hentry : lineIndentation ≤ entry.1
      · have hentry' : indentation ≤ entry.1 := hle.trans hentry
        simpa [List.dropWhile_cons, hentry, hentry'] using ih
      · simp [List.dropWhile_cons, hentry]
  rcases h.context with hsame | ⟨key, hpushed⟩
  · rw [← hclose, Scan.close, hsame]
  · rw [← hclose, Scan.close, hpushed]
    simp [hle]

end Steps

/-! ## What encloses a line -/

/-- `environment:` with nothing after it -/
def OpensEnvironment (line : Text) : Prop :=
  ∃ key rest, keyMatch (strip line) = some (key, rest) ∧ lower key = environmentKey ∧
    strip rest = [] ∧ containsSecretMarker (strip line) = false

/-- A key with a marker of a secret in it -/
def IsMarked (line : Text) : Prop :=
  ∃ key rest, keyMatch (strip line) = some (key, rest) ∧ containsSecretMarker key

/-- A line of an indentation comes directly under an `environment:`. -/
def UnderEnvironment (earlier : List Text) (indentation : Nat) : Prop :=
  ∃ before line between, earlier = before ++ line :: between ∧ OpensEnvironment line ∧
    indentationOf line < indentation ∧
    ∀ l ∈ between, isBlank (strip l) ∨ indentation ≤ indentationOf l

/-- A line of an indentation comes somewhere under a key that names a secret. -/
def UnderMarked (earlier : List Text) (indentation : Nat) : Prop :=
  ∃ before line between, earlier = before ++ line :: between ∧ IsMarked line ∧
    indentationOf line < indentation ∧
    ∀ l ∈ between, isBlank (strip l) ∨ indentationOf line < indentationOf l

theorem not_isBlank_of_keyMatch {s : Text} {entry : Text × Text} (h : keyMatch s = some entry) :
    isBlank s = false := by
  cases s with
  | nil => cases h
  | cons c t =>
    have hc : c ≠ '#'.codePoint := by
      rintro rfl
      have hdash : '#'.codePoint ≠ '-'.codePoint := by decide
      have hnot : ¬isKeyChar '#'.codePoint := by decide
      simp [keyMatch, matchKey, hdash, List.takeWhile_cons_of_neg hnot] at h
    simp [isBlank, hc]

theorem separator_of_matchKey {start rest separator : CodePoint → Bool} {s : Text}
    {entry : Text × Text} (h : matchKey start rest separator s = some entry) :
    ∃ c, (lstrip (s.drop (s.takeWhile rest).length)).head? = some c ∧ separator c := by
  rw [matchKey] at h
  split_ifs at h
  cases hrest : lstrip (s.drop (s.takeWhile rest).length) with
  | nil => simp [hrest] at h
  | cons c value =>
    simp only [hrest] at h
    split_ifs at h with hc
    exact ⟨c, rfl, hc⟩

/-- What follows a key is an equals sign or a colon. -/
theorem listEnvironment_of_keyMatch {s : Text} {entry : Text × Text} (h : keyMatch s = some entry) :
    listEnvironment s = none := by
  cases s with
  | nil => rfl
  | cons c t =>
    rw [listEnvironment]
    split_ifs with hc
    · simp only [keyMatch, hc, if_true] at h
      obtain ⟨d, hd, hcolon⟩ := separator_of_matchKey h
      rw [Option.map_eq_none_iff, Option.eq_none_iff_forall_ne_some]
      intro entry' hentry'
      obtain ⟨d', hd', hequals⟩ := separator_of_matchKey hentry'
      cases Option.some.inj (hd.symm.trans hd')
      simp only [decide_eq_true_eq] at hcolon hequals
      exact absurd (hcolon.symm.trans hequals) (by decide)
    · rfl

section Enclosed

variable {urlsplit : UrlSplitter} {s s' : Scan} {line : Text} {indentation : Nat}

/-- What is under an environment is skipped with it, or finds it open. -/
def Inside (indentation : Nat) (s : Scan) : Prop :=
  s.skips indentation ∨ (s.close indentation).parentKey = environmentKey

theorem scanLine_cases (h : scanLine urlsplit s line = some s') :
    (s' = s ∧ (isBlank (strip line) ∨ s.skips (indentationOf line))) ∨
      isBlank (strip line) = false ∧ s.skips (indentationOf line) = false ∧
        openLine urlsplit (s.close (indentationOf line)) line (strip line) = some s' := by
  rw [scanLine] at h
  split_ifs at h with hskip
  · cases h
    exact .inl ⟨rfl, by simpa using hskip⟩
  · simp only [Bool.or_eq_true, not_or, Bool.not_eq_true] at hskip
    exact .inr ⟨hskip.1, hskip.2, h⟩

theorem skips_mono {lineIndentation : Nat} (h : s.skips lineIndentation)
    (hle : lineIndentation ≤ indentation) : s.skips indentation := by
  obtain ⟨skipped, hskipped, hlt⟩ := (Option.any_eq_true _ _).mp h
  simp only [decide_eq_true_eq] at hlt
  simp only [Scan.skips, hskipped, Option.any_some, decide_eq_true_eq]
  omega

theorem inside_of_opensEnvironment (hopens : OpensEnvironment line)
    (hlt : indentationOf line < indentation) (h : scanLine urlsplit s line = some s') :
    Inside indentation s' := by
  obtain ⟨key, rest, hkey, henvironment, hrest, hunmarked⟩ := hopens
  rcases scanLine_cases h with ⟨rfl, hblank | hskip⟩ | ⟨-, -, h⟩
  · exact absurd hblank (by simp [not_isBlank_of_keyMatch hkey])
  · exact .inl (skips_mono hskip hlt.le)
  · have hkeyUnmarked : containsSecretMarker key = false := by
      rw [containsSecretMarker, henvironment]
      decide
    rw [openLine, listEnvironment_of_keyMatch hkey] at h
    simp only [keyedLine, hkey, hkeyUnmarked, hunmarked, hrest, List.isEmpty_nil, if_true,
      Bool.false_eq_true, if_false, Option.some.injEq] at h
    cases h
    have hnot : ¬indentation ≤ indentationOf line := by omega
    right
    simp [Scan.openKey, Scan.close, Scan.parentKey, hnot, henvironment]

theorem Inside.scanLine (hinside : Inside indentation s)
    (hline : isBlank (strip line) ∨ indentation ≤ indentationOf line)
    (h : scanLine urlsplit s line = some s') : Inside indentation s' := by
  rcases scanLine_cases h with ⟨rfl, -⟩ | ⟨hblank, hskip, h⟩
  · exact hinside
  · have hle : indentation ≤ indentationOf line := by simpa [hblank] using hline
    rcases hinside with hskips | hparent
    · exact absurd (skips_mono hskips hle) (by simp [hskip])
    · right
      rw [Scan.parentKey, (openLine_opens h).close_context hle, ← Scan.parentKey]
      exact hparent

theorem inside_of_underEnvironment {earlier : List Text}
    (hunder : UnderEnvironment earlier indentation)
    (h : earlier.foldlM (scanLine urlsplit) .start = some s) : Inside indentation s := by
  obtain ⟨before, line, between, rfl, hopens, hlt, hbetween⟩ := hunder
  rw [List.foldlM_append] at h
  obtain ⟨s₁, -, h⟩ := Option.bind_eq_some_iff.mp h
  rw [List.foldlM_cons] at h
  obtain ⟨s₂, hline, h⟩ := Option.bind_eq_some_iff.mp h
  exact BreakLoop.foldlM_invariant (Inside indentation)
    (fun l hl _ _ hinside hstep => hinside.scanLine (hbetween l hl) hstep)
    (inside_of_opensEnvironment hopens hlt hline) h

/-- From a key that names a secret on, lines are skipped. -/
def SkipsFrom (indentation : Nat) (s : Scan) : Prop :=
  ∃ skipped ≤ indentation, s.redactedIndent = some skipped

theorem skips_of_skipsFrom {lineIndentation : Nat} (h : SkipsFrom indentation s)
    (hlt : indentation < lineIndentation) : s.skips lineIndentation := by
  obtain ⟨skipped, hle, hskipped⟩ := h
  simp only [Scan.skips, hskipped, Option.any_some, decide_eq_true_eq]
  omega

theorem skipsFrom_of_isMarked (hmarked : IsMarked line) (h : scanLine urlsplit s line = some s') :
    SkipsFrom (indentationOf line) s' := by
  obtain ⟨key, rest, hkey, hmarker⟩ := hmarked
  rcases scanLine_cases h with ⟨rfl, hblank | hskip⟩ | ⟨-, -, h⟩
  · exact absurd hblank (by simp [not_isBlank_of_keyMatch hkey])
  · obtain ⟨skipped, hskipped, hlt⟩ := (Option.any_eq_true _ _).mp hskip
    exact ⟨skipped, (of_decide_eq_true hlt).le, hskipped⟩
  · rw [openLine, listEnvironment_of_keyMatch hkey] at h
    simp only [keyedLine, hkey, hmarker, if_true, Option.some.injEq] at h
    cases h
    exact ⟨_, le_rfl, rfl⟩

theorem SkipsFrom.scanLine (hskips : SkipsFrom indentation s)
    (hline : isBlank (strip line) ∨ indentation < indentationOf line)
    (h : scanLine urlsplit s line = some s') : SkipsFrom indentation s' := by
  rcases scanLine_cases h with ⟨rfl, -⟩ | ⟨hblank, hskip, -⟩
  · exact hskips
  · have hlt : indentation < indentationOf line := by simpa [hblank] using hline
    exact absurd (skips_of_skipsFrom hskips hlt) (by simp [hskip])

theorem skips_of_underMarked {earlier : List Text} (hunder : UnderMarked earlier indentation)
    (h : earlier.foldlM (scanLine urlsplit) .start = some s) : s.skips indentation := by
  obtain ⟨before, line, between, rfl, hmarked, hlt, hbetween⟩ := hunder
  rw [List.foldlM_append] at h
  obtain ⟨s₁, -, h⟩ := Option.bind_eq_some_iff.mp h
  rw [List.foldlM_cons] at h
  obtain ⟨s₂, hline, h⟩ := Option.bind_eq_some_iff.mp h
  have hskips : SkipsFrom (indentationOf line) s :=
    BreakLoop.foldlM_invariant (SkipsFrom (indentationOf line))
      (fun l hl _ _ hskips hstep => hskips.scanLine (hbetween l hl) hstep)
      (skipsFrom_of_isMarked hmarked hline) h
  exact skips_of_skipsFrom hskips hlt

end Enclosed

/-! ## Configurations that differ in secrets -/

/-- One entry with two values, of which neither is blank. Its key names a secret or is not approved;
in a YAML file it is an entry of an environment. -/
inductive SecretEntry (yaml : Bool) (earlier : List Text) : Text → Text → Prop
  | mapping {indent key gap value value' : Text} (hyaml : yaml) (hindent : IsSpaces indent)
      (hkey : IsKey key) (hgap : IsSpaces gap) (hsecret : isRedactedKey key)
      (hunder : UnderEnvironment earlier indent.length)
      (hvalue : ¬IsSpaces value) (hvalue' : ¬IsSpaces value') :
      SecretEntry yaml earlier (keyLine indent key gap ':'.codePoint value)
        (keyLine indent key gap ':'.codePoint value')
  | item {indent spaces key gap value value' : Text} (hyaml : yaml) (hindent : IsSpaces indent)
      (hspaces : IsSpaces spaces) (hkey : IsKey key) (hgap : IsSpaces gap)
      (hsecret : isRedactedKey key) (hunder : UnderEnvironment earlier indent.length)
      (hvalue : ¬IsSpaces value) (hvalue' : ¬IsSpaces value') :
      SecretEntry yaml earlier (itemLine indent spaces key gap '='.codePoint value)
        (itemLine indent spaces key gap '='.codePoint value')
  | plain {indent key gap value value' : Text} {separator : CodePoint} (hplain : yaml = false)
      (hindent : IsSpaces indent) (hkey : IsKey key) (hgap : IsSpaces gap)
      (hsecret : isRedactedKey key)
      (hseparator : separator = '='.codePoint ∨ separator = ':'.codePoint)
      (hvalue : ¬IsSpaces value) (hvalue' : ¬IsSpaces value') :
      SecretEntry yaml earlier (keyLine indent key gap separator value)
        (keyLine indent key gap separator value')

/-- The lines are the same but for values of secret entries. -/
structure SecretsApart (yaml : Bool) (lines lines' : List Text) : Prop where
  length : lines.length = lines'.length
  entry : ∀ i line line', lines[i]? = some line → lines'[i]? = some line' →
    line = line' ∨ SecretEntry yaml (lines.take i) line line'

/-- Where a key that names no secret has two values, and is not skipped under one that does, both
lines hold a marker of a secret or neither does. -/
def MarkedAlike (lines lines' : List Text) : Prop :=
  ∀ i line line' key rest, lines[i]? = some line → lines'[i]? = some line' →
    keyMatch (strip line) = some (key, rest) → containsSecretMarker key ∨
      UnderMarked (lines.take i) (indentationOf line) ∨
      containsSecretMarker (strip line) = containsSecretMarker (strip line')

theorem scanLine_of_openLine {urlsplit : UrlSplitter} {s : Scan} {line line' : Text}
    (hblank : isBlank (strip line) = false) (hblank' : isBlank (strip line') = false)
    (hindentation : indentationOf line = indentationOf line')
    (hopen : s.skips (indentationOf line) = false →
      openLine urlsplit (s.close (indentationOf line)) line (strip line) =
        openLine urlsplit (s.close (indentationOf line)) line' (strip line')) :
    scanLine urlsplit s line = scanLine urlsplit s line' := by
  simp only [scanLine, hblank, hblank', ← hindentation, Bool.false_or]
  split_ifs with hskip
  · rfl
  · exact hopen (Bool.eq_false_iff.mpr hskip)

theorem scanLine_secretEntry {urlsplit : UrlSplitter} {s : Scan} {earlier : List Text}
    {line line' : Text} (hs : earlier.foldlM (scanLine urlsplit) .start = some s)
    (hentry : SecretEntry true earlier line line')
    (halike : ∀ key rest, keyMatch (strip line) = some (key, rest) → containsSecretMarker key ∨
      UnderMarked earlier (indentationOf line) ∨
      containsSecretMarker (strip line) = containsSecretMarker (strip line')) :
    scanLine urlsplit s line = scanLine urlsplit s line' := by
  cases hentry with
  | @mapping indent key gap value value' _ hindent hkey hgap hsecret hunder hvalue hvalue' =>
    have hindentation := indentationOf_keyLine value gap ':'.codePoint hindent hkey
    have hindentation' := indentationOf_keyLine value' gap ':'.codePoint hindent hkey
    refine scanLine_of_openLine (isBlank_keyLine value hindent hkey rfl)
      (isBlank_keyLine value' hindent hkey rfl) (hindentation.trans hindentation'.symm)
      fun hskip => ?_
    rw [hindentation] at hskip halike ⊢
    have hmatch : keyMatch (strip (keyLine indent key gap ':'.codePoint value)) =
        some (key, rstrip value) := by
      rw [strip_keyLine value hindent hkey rfl, keyMatch_key _ hkey hgap]
    cases hmarked : containsSecretMarker key with
    | true =>
      rw [openLine_marked urlsplit _ value hindent hkey hgap hmarked,
        openLine_marked urlsplit _ value' hindent hkey hgap hmarked]
    | false =>
      have hparent : (s.close indent.length).parentKey = environmentKey :=
        (inside_of_underEnvironment hunder hs).resolve_left (by simp [hskip])
      have hunapproved : upper key ∉ approvedConfigKeys := by
        simpa [isRedactedKey, containsSecretMarker_upper, hmarked] using hsecret
      have hsame := (halike key _ hmatch).resolve_left (by simp [hmarked])
      have hsame := hsame.resolve_left fun hunderMarked => by
        simp [skips_of_underMarked hunderMarked hs] at hskip
      rw [openLine_unapproved urlsplit _ value hindent hkey hgap hmarked hunapproved hparent hvalue,
        openLine_unapproved urlsplit _ value' hindent hkey hgap hmarked hunapproved hparent hvalue',
        hsame]
  | @item indent spaces key gap value value' _ hindent hspaces hkey hgap hsecret hunder =>
    have hindentation := indentationOf_itemLine value spaces key gap '='.codePoint hindent
    have hindentation' := indentationOf_itemLine value' spaces key gap '='.codePoint hindent
    refine scanLine_of_openLine (isBlank_itemLine value hindent rfl)
      (isBlank_itemLine value' hindent rfl) (hindentation.trans hindentation'.symm) fun hskip => ?_
    rw [hindentation] at hskip ⊢
    have hparent : (s.close indent.length).parentKey = environmentKey :=
      (inside_of_underEnvironment hunder hs).resolve_left (by simp [hskip])
    rw [openLine_item urlsplit _ value hindent hspaces hkey hgap hsecret hparent,
      openLine_item urlsplit _ value' hindent hspaces hkey hgap hsecret hparent]
  | plain hplain => cases hplain

/-- A pattern finds the key of a line as a whole, or nothing. -/
theorem matchKey_cases (start : CodePoint → Bool) {rest separator : CodePoint → Bool}
    {key gap : Text} {c : CodePoint}
    (hkey : ∀ d ∈ key, isSpace d = false ∧ separator d = false)
    (hspace : ∀ d, isSpace d → rest d = false) (hgap : IsSpaces gap) (hc : rest c = false)
    (hc' : isSpace c = false) (value : Text) :
    matchKey start rest separator (key ++ (gap ++ c :: value)) = none ∨
      matchKey start rest separator (key ++ (gap ++ c :: value)) = some (key, value) := by
  by_cases hrest : ∀ d ∈ key, rest d
  · by_cases hstart : key.head?.any start
    · rw [matchKey_entry hstart hrest hspace hgap hc hc']
      split_ifs
      · exact .inr rfl
      · exact .inl rfl
    · left
      rw [matchKey, List.takeWhile_append_of_pos hrest, takeWhile_gap hspace hgap hc,
        List.append_nil, if_neg hstart]
  · left
    obtain ⟨d, hdrop⟩ : ∃ d, (key.dropWhile rest).head? = some d := by
      refine Option.isSome_iff_exists.mp (List.isSome_head?.mpr fun hnil => hrest ?_)
      simpa [List.dropWhile_eq_nil_iff] using hnil
    obtain ⟨after, hafter⟩ := List.head?_eq_some_iff.mp hdrop
    have hd : rest d = false := by
      have hhead := List.head?_dropWhile_not rest key
      simpa [hdrop] using hhead
    have hsplit : key = key.takeWhile rest ++ d :: after := by
      rw [← hafter, List.takeWhile_append_dropWhile]
    obtain ⟨hdspace, hdseparator⟩ := hkey d (by rw [hsplit]; simp)
    have hwhole : key ++ (gap ++ c :: value) =
        key.takeWhile rest ++ d :: (after ++ (gap ++ c :: value)) := by
      rw [← List.cons_append, ← List.append_assoc (key.takeWhile rest), ← hsplit]
    have htake : (key ++ (gap ++ c :: value)).takeWhile rest = key.takeWhile rest := by
      rw [hwhole, List.takeWhile_append_of_pos (fun x hx => List.mem_takeWhile_imp hx),
        List.takeWhile_cons_of_neg (by simp [hd]), List.append_nil]
    have hleft : (key ++ (gap ++ c :: value)).drop (key.takeWhile rest).length =
        d :: (after ++ (gap ++ c :: value)) := by
      rw [hwhole, List.drop_left]
    rw [matchKey, htake, hleft, lstrip_cons hdspace]
    simp [hdseparator]

theorem isPlainChar_of_isSpace (d : CodePoint) (h : isSpace d) :
    (isLetter d || JsonText.isDigit d || d = '_'.codePoint) = false := by
  refine Bool.eq_false_iff.mpr fun hd => ?_
  have hchar : isKeyChar d := by
    simp only [Bool.or_eq_true, decide_eq_true_eq] at hd
    simp only [isKeyChar, isKeyStart, Bool.or_eq_true, decide_eq_true_eq]
    tauto
  exact absurd h (by simp [not_isSpace_of_isKeyChar hchar])

theorem plainLine_secretEntry {urlsplit : UrlSplitter} (s : PlainScan) {earlier : List Text}
    {line line' : Text} (hentry : SecretEntry false earlier line line') :
    plainLine urlsplit s line = plainLine urlsplit s line' := by
  cases hentry with
  | mapping hyaml => cases hyaml
  | item hyaml => cases hyaml
  | @plain indent key gap value value' separator _ hindent hkey hgap hsecret hseparator =>
    have hskipped (v : Text) :
        plainLine urlsplit s (keyLine indent key gap separator v) = some s := by
      obtain ⟨c, t, hcons, -, hc⟩ := hkey.cons
      have hstrip : lstrip (keyLine indent key gap separator v) =
          key ++ (gap ++ separator :: v) := by
        rw [keyLine, lstrip_append hindent, hcons, List.cons_append, lstrip_cons hc]
      have hchars : ∀ d ∈ key, isSpace d = false ∧
          (d = '='.codePoint || d = ':'.codePoint) = false := by
        intro d hd
        refine ⟨not_isSpace_of_isKeyChar (hkey.rest d hd), Bool.eq_false_iff.mpr fun hd' => ?_⟩
        have hchar := hkey.rest d hd
        simp only [Bool.or_eq_true, decide_eq_true_eq] at hd'
        rcases hd' with rfl | rfl
        · exact absurd hchar (by decide)
        · exact absurd hchar (by decide)
      have hnot : (isLetter separator || JsonText.isDigit separator ||
          separator = '_'.codePoint) = false ∧ isSpace separator = false := by
        rcases hseparator with rfl | rfl
        · exact ⟨rfl, rfl⟩
        · exact ⟨rfl, rfl⟩
      have hmatch := matchKey_cases isLetter hchars isPlainChar_of_isSpace hgap hnot.1 hnot.2 v
      rw [plainLine, plainEntry, hstrip]
      rcases hmatch with hnone | hsome
      · simp [hnone]
      · simp [hsome, hsecret]
    rw [hskipped, hskipped]

/-- The view of a configuration shows no value of a secret entry. -/
theorem identityView_eq_of_secretsApart (urlsplit : UrlSplitter) (suffix locator : Text)
    {lines lines' : List Text} (h : SecretsApart (isYaml suffix) lines lines')
    (halike : isYaml suffix → MarkedAlike lines lines') :
    identityView urlsplit suffix locator lines = identityView urlsplit suffix locator lines' := by
  rw [identityView, identityView]
  cases hyaml : isYaml suffix with
  | true =>
    rw [hyaml] at h halike
    have hscan : lines.foldlM (scanLine urlsplit) .start =
        lines'.foldlM (scanLine urlsplit) .start := by
      refine BreakLoop.foldlM_congr_of_take h.length fun i line line' s hline hline' hs => ?_
      rcases h.entry i line line' hline hline' with rfl | hentry
      · rfl
      · exact scanLine_secretEntry hs hentry fun key rest =>
          halike rfl i line line' key rest hline hline'
    simp only [if_true, hscan]
  | false =>
    rw [hyaml] at h
    have hscan : lines.foldlM (plainLine urlsplit) ⟨[], []⟩ =
        lines'.foldlM (plainLine urlsplit) ⟨[], []⟩ := by
      refine BreakLoop.foldlM_congr_of_take h.length fun i line line' s hline hline' _ => ?_
      rcases h.entry i line line' hline hline' with rfl | hentry
      · rfl
      · exact plainLine_secretEntry s hentry
    simp only [Bool.false_eq_true, if_false, hscan]

/-- One entry of an environment with two values -/
theorem secretsApart_of_mapping {key value value' : Text} (hkey : IsKey key)
    (hsecret : isRedactedKey key) (hvalue : ¬IsSpaces value) (hvalue' : ¬IsSpaces value') :
    SecretsApart true [text "environment:", keyLine (text "  ") key [] ':'.codePoint value]
      [text "environment:", keyLine (text "  ") key [] ':'.codePoint value'] := by
  refine ⟨rfl, ?_⟩
  rintro (_ | _ | i) line line' hline hline'
  · exact .inl (Option.some.inj (hline.symm.trans hline'))
  · cases hline
    cases hline'
    refine .inr (.mapping rfl (by decide) hkey (by simp [IsSpaces]) hsecret ?_ hvalue hvalue')
    exact ⟨[], text "environment:", [], rfl, ⟨text "environment", [], rfl, rfl, rfl, rfl⟩,
      by decide, by simp⟩
  · cases hline

/-- No URL is split in these examples. -/
def noUrl : UrlSplitter := fun _ => none

end Configuration

end TruthFingerprint.Evidence
