import Mathlib
import TruthFingerprint.Lib.JsonText

/-!
# Numbers in decimal

The digits of a natural number without a leading zero, and what a text of digits is worth: each
undoes the other (`natValue_natText`, `natText_natValue`). A decimal has an optional sign and an
optional fraction, and is worth a rational.
-/

namespace DecimalText

open JsonText (isDigit)

def digitChar (d : Nat) : CodePoint := Fin.ofNat _ (0x30 + d)

def digitValue (c : CodePoint) : Nat := c.val - 0x30

def natText (n : Nat) : Text :=
  if n = 0 then ['0'.codePoint] else ((Nat.digits 10 n).map digitChar).reverse

def natValue (t : Text) : Nat := Nat.ofDigits 10 (t.reverse.map digitValue)

/-- Digits without a leading zero. -/
def isNatText (t : Text) : Bool :=
  match t with
  | [] => false
  | c :: rest => (c :: rest).all isDigit && (rest.isEmpty || c ≠ '0'.codePoint)

theorem isDigit_iff {c : CodePoint} : isDigit c ↔ 0x30 ≤ c.val ∧ c.val ≤ 0x39 := by
  simp [isDigit, Fin.le_def, Char.codePoint]

theorem val_digitChar (h : d < 10) : (digitChar d).val = 0x30 + d :=
  Nat.mod_eq_of_lt (by omega)

theorem isDigit_digitChar (h : d < 10) : isDigit (digitChar d) := by
  rw [isDigit_iff, val_digitChar h]
  omega

theorem digitValue_digitChar (h : d < 10) : digitValue (digitChar d) = d := by
  rw [digitValue, val_digitChar h]
  omega

theorem digitChar_digitValue {c : CodePoint} (h : isDigit c) : digitChar (digitValue c) = c := by
  rw [isDigit_iff] at h
  have hlt : digitValue c < 10 := by
    rw [digitValue]
    omega
  refine Fin.ext ?_
  rw [val_digitChar hlt, digitValue]
  omega

theorem natValue_natText (n : Nat) : natValue (natText n) = n := by
  rw [natText, natValue]
  split_ifs with h
  · simp [h, digitValue, Char.codePoint]
  · rw [List.reverse_reverse, List.map_map, List.map_congr_left (g := id), List.map_id,
      Nat.ofDigits_digits]
    exact fun d hd => digitValue_digitChar (Nat.digits_lt_base (by omega) hd)

theorem natText_natValue (h : isNatText t) : natText (natValue t) = t := by
  obtain _ | ⟨c, rest⟩ := t
  · simp [isNatText] at h
  simp only [isNatText, Bool.and_eq_true, List.all_eq_true, Bool.or_eq_true, List.isEmpty_iff,
    decide_eq_true_eq] at h
  obtain ⟨hdigits, hlead⟩ := h
  have hc := isDigit_iff.mp (hdigits c (by simp))
  by_cases hzero : c = '0'.codePoint
  · obtain rfl : rest = [] := hlead.resolve_right (not_not.mpr hzero)
    rw [hzero]
    decide
  have hcne : digitValue c ≠ 0 := fun hval => hzero (Fin.ext (by
    rw [digitValue] at hval
    change c.val = 0x30
    omega))
  have hlt : ∀ d ∈ (c :: rest).reverse.map digitValue, d < 10 := by
    intro d hd
    obtain ⟨c', hc', rfl⟩ := List.mem_map.mp hd
    have := isDigit_iff.mp (hdigits c' (List.mem_reverse.mp hc'))
    rw [digitValue]
    omega
  have hdigits_eq : Nat.digits 10 (natValue (c :: rest)) = (c :: rest).reverse.map digitValue := by
    refine Nat.digits_ofDigits 10 (by omega) _ hlt fun hne => ?_
    simpa using hcne
  have hpos : natValue (c :: rest) ≠ 0 := by
    intro hval
    rw [hval] at hdigits_eq
    simp at hdigits_eq
  rw [natText, if_neg hpos, hdigits_eq, List.map_map, List.map_congr_left (g := id), List.map_id,
    List.reverse_reverse]
  exact fun c' hc' => digitChar_digitValue (hdigits c' (List.mem_reverse.mp hc'))

theorem isNatText_natText (n : Nat) : isNatText (natText n) := by
  rw [natText]
  split_ifs with h
  · decide
  have hne : Nat.digits 10 n ≠ [] := Nat.digits_ne_nil_iff_ne_zero.mpr h
  have hall : ∀ c ∈ (((Nat.digits 10 n).map digitChar).reverse), isDigit c := by
    intro c hc
    obtain ⟨d, hd, rfl⟩ := List.mem_map.mp (List.mem_reverse.mp hc)
    exact isDigit_digitChar (Nat.digits_lt_base (by omega) hd)
  have hhead : ∀ c ∈ (((Nat.digits 10 n).map digitChar).reverse).head?, c ≠ '0'.codePoint := by
    intro c hc
    rw [List.head?_reverse, List.getLast?_map, List.getLast?_eq_getLast_of_ne_nil hne] at hc
    obtain rfl : digitChar ((Nat.digits 10 n).getLast hne) = c := by simpa using hc
    have hlast := Nat.getLast_digit_ne_zero 10 h
    have hlt := Nat.digits_lt_base (b := 10) (by omega) (List.getLast_mem hne)
    intro heq
    have hval := congrArg Fin.val heq
    rw [val_digitChar hlt] at hval
    exact hlast (by simpa [Char.codePoint] using hval)
  cases hrev : ((Nat.digits 10 n).map digitChar).reverse with
  | nil => simp [hne] at hrev
  | cons c rest =>
    rw [hrev] at hall hhead
    simp only [isNatText, Bool.and_eq_true, List.all_eq_true, Bool.or_eq_true, decide_eq_true_eq]
    exact ⟨hall, .inr (hhead c (by simp))⟩

/-- The digits of a natural number are a literal of JSON. -/
theorem isLiteral_of_isNatText (h : isNatText t) : JsonText.IsLiteral t := by
  obtain _ | ⟨c, rest⟩ := t
  · simp [isNatText] at h
  simp only [isNatText, Bool.and_eq_true, List.all_eq_true, Bool.or_eq_true, List.isEmpty_iff,
    decide_eq_true_eq] at h
  obtain ⟨hdigits, hlead⟩ := h
  have hc := isDigit_iff.mp (hdigits c (by simp))
  have hsign : c ≠ '-'.codePoint := fun heq => by
    rw [heq] at hc
    exact absurd hc (by decide)
  refine ⟨?_, fun c' hc' => ?_⟩
  · have htake : (c :: rest).takeWhile isDigit = c :: rest :=
      List.takeWhile_eq_self_iff.mpr hdigits
    have hdrop : (c :: rest).dropWhile isDigit = [] := List.dropWhile_eq_nil_iff.mpr hdigits
    rw [JsonText.isNumber, if_neg hsign, JsonText.unsignedOk, htake, hdrop]
    rcases hlead with rfl | hlead
    · simp [JsonText.fractionOk]
    · simp [JsonText.fractionOk, hlead]
  · have := hdigits c' hc'
    simp [JsonText.isNumberChar, this]

/-! ## Decimals -/

/-- The part of a decimal after its sign. -/
def isUnsignedDecimal (t : Text) : Bool :=
  isNatText (t.takeWhile isDigit) &&
    match t.dropWhile isDigit with
    | [] => true
    | c :: fraction => c = '.'.codePoint && !fraction.isEmpty && fraction.all isDigit

def isDecimal : Text → Bool
  | [] => false
  | c :: t => if c = '-'.codePoint then isUnsignedDecimal t else isUnsignedDecimal (c :: t)

def unsignedValue (t : Text) : ℚ :=
  let fraction := (t.dropWhile isDigit).tail
  natValue (t.takeWhile isDigit ++ fraction) / 10 ^ fraction.length

/-- What a decimal is worth. -/
def decimalValue : Text → ℚ
  | [] => 0
  | c :: t => if c = '-'.codePoint then -unsignedValue t else unsignedValue (c :: t)

example : isDecimal (text "-10.50") ∧ decimalValue (text "-10.50") = -21 / 2 := by decide +kernel

end DecimalText
