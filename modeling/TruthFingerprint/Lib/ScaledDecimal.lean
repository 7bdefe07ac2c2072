import Mathlib
import TruthFingerprint.Lib.Decimal
import TruthFingerprint.Lib.DecimalText
import TruthFingerprint.Lib.Loops

/-!
# Decimals by their digits

A decimal is an integer coefficient and an exponent of ten. A context rounds a coefficient of too
many digits half-even, and the result has the exact value if and only if the exact value fits
(`DecimalContext.absSub_exact_iff`). Fixed-point notation writes the value without an exponent
(`ScaledDecimal.decimalValue_fixedText`).
-/

structure ScaledDecimal where
  coefficient : ℤ
  exponent : ℤ
deriving DecidableEq

namespace ScaledDecimal

variable {x y : ScaledDecimal} {e : ℤ}

/-- The number that a decimal stands for -/
def value (x : ScaledDecimal) : ℚ := x.coefficient * 10 ^ x.exponent

/-- The coefficient at a smaller exponent -/
def coefficientAt (x : ScaledDecimal) (exponent : ℤ) : ℤ :=
  x.coefficient * 10 ^ (x.exponent - exponent).toNat

theorem pow_toNat_mul {d : ℤ} (h : e ≤ d) : (10 : ℚ) ^ (d - e).toNat * 10 ^ e = 10 ^ d := by
  rw [← zpow_natCast, ← zpow_add₀ (by norm_num), Int.toNat_of_nonneg (sub_nonneg.mpr h),
    sub_add_cancel]

theorem coefficientAt_mul (h : e ≤ x.exponent) :
    (x.coefficientAt e : ℚ) * 10 ^ e = x.value := by
  rw [coefficientAt, value, Int.cast_mul, mul_assoc, ← pow_toNat_mul h]
  push_cast
  rfl

/-- The exact difference -/
def sub (x y : ScaledDecimal) : ScaledDecimal :=
  let exponent := min x.exponent y.exponent
  ⟨x.coefficientAt exponent - y.coefficientAt exponent, exponent⟩

theorem value_sub : (x.sub y).value = x.value - y.value := by
  rw [← coefficientAt_mul (min_le_left x.exponent y.exponent),
    ← coefficientAt_mul (min_le_right x.exponent y.exponent), ← sub_mul, value, sub]
  push_cast
  rfl

def neg (x : ScaledDecimal) : ScaledDecimal := ⟨-x.coefficient, x.exponent⟩

def abs (x : ScaledDecimal) : ScaledDecimal := ⟨|x.coefficient|, x.exponent⟩

theorem value_abs : x.abs.value = |x.value| := by
  rw [value, value, abs, abs_mul, abs_of_pos (zpow_pos (by norm_num) x.exponent : (0 : ℚ) < _)]
  push_cast
  rfl

theorem sub_comm_neg : y.sub x = (x.sub y).neg := by
  rw [sub, sub, neg, min_comm]
  simp

end ScaledDecimal

/-! ## Rounding in a context -/

namespace DecimalContext

variable (ctx : DecimalContext)

/-- The exponent of the last digit of the smallest numbers -/
def etiny : ℤ := ctx.emin - (ctx.prec - 1)

def digitCount (c : ℕ) : ℕ := Nat.log 10 c + 1

/-- The quotient by a power of ten, half-even -/
def shiftRight (c shift : ℕ) : ℕ :=
  let remainder := c % 10 ^ shift
  if 2 * remainder < 10 ^ shift ∨ (2 * remainder = 10 ^ shift ∧ Even (c / 10 ^ shift)) then
    c / 10 ^ shift
  else c / 10 ^ shift + 1

/-- The digits of a coefficient that are kept, and their exponent -/
def keep (c : ℕ) (e : ℤ) : ℕ × ℤ :=
  let target := max (e + digitCount c - ctx.prec) ctx.etiny
  if e < target then
    let rounded := shiftRight c (target - e).toNat
    if rounded = 10 ^ ctx.prec then (10 ^ (ctx.prec - 1), target + 1) else (rounded, target)
  else (c, e)

/-- The result of an operation with an exact result -/
def finish (x : ScaledDecimal) : Except DecimalSignal ScaledDecimal :=
  if x.coefficient = 0 then .ok ⟨0, min (max x.exponent ctx.etiny) ctx.emax⟩
  else
    let kept := ctx.keep x.coefficient.natAbs x.exponent
    if kept.1 ≠ 0 ∧ ctx.emax < kept.2 + digitCount kept.1 - 1 then .error .overflow
    else .ok ⟨x.coefficient.sign * kept.1, kept.2⟩

/-- `abs(x - y)` -/
def absSub (x y : ScaledDecimal) : Except DecimalSignal ScaledDecimal := do
  let difference ← ctx.finish (x.sub y)
  ctx.finish difference.abs

/-- The number has at most the digits of the precision, and is within the range. -/
def Fits (q : ℚ) : Prop :=
  ∃ m k : ℤ, q = m * 10 ^ k ∧ |m| < 10 ^ ctx.prec ∧ ctx.etiny ≤ k ∧ |q| < 10 ^ (ctx.emax + 1)

variable {ctx} {x y z : ScaledDecimal} {c : ℕ} {e : ℤ} {q : ℚ}

theorem lt_pow_digitCount (c : ℕ) : c < 10 ^ digitCount c :=
  Nat.lt_pow_succ_log_self (by norm_num) c

theorem pow_digitCount_le (hc : c ≠ 0) : 10 ^ (digitCount c - 1) ≤ c :=
  Nat.pow_log_le_self 10 hc

theorem keep_bounds (hprec : 0 < ctx.prec) :
    (ctx.keep c e).1 < 10 ^ ctx.prec ∧ ctx.etiny ≤ (ctx.keep c e).2 := by
  rw [keep]
  dsimp only
  split_ifs with htarget hcarry
  · exact ⟨Nat.pow_lt_pow_right (by norm_num) (by omega), by
      have := le_max_right (e + digitCount c - ctx.prec) ctx.etiny
      omega⟩
  · refine ⟨lt_of_le_of_ne ?_ hcarry, le_max_right _ _⟩
    let shift := (max (e + digitCount c - ctx.prec) ctx.etiny - e).toNat
    have hshift : digitCount c ≤ ctx.prec + shift := by
      have := le_max_left (e + digitCount c - ctx.prec) ctx.etiny
      omega
    have hlt : c / 10 ^ shift < 10 ^ ctx.prec := by
      rw [Nat.div_lt_iff_lt_mul (by positivity), ← pow_add]
      exact (lt_pow_digitCount c).trans_le (Nat.pow_le_pow_right (by norm_num) hshift)
    change shiftRight c shift ≤ _
    rw [shiftRight]
    split_ifs <;> omega
  · have hle := not_lt.mp htarget
    have hleft := (le_max_left (e + digitCount c - ctx.prec) ctx.etiny).trans hle
    exact ⟨(lt_pow_digitCount c).trans_le (Nat.pow_le_pow_right (by norm_num) (by omega)),
      (le_max_right _ _).trans hle⟩

theorem fits_zero : ctx.Fits 0 :=
  ⟨0, ctx.etiny, by simp, by simp, le_rfl, by simpa using zpow_pos (by norm_num) _⟩

/-- What a context returns fits it. -/
theorem fits_of_finish (hprec : 0 < ctx.prec) (h : ctx.finish x = .ok y) : ctx.Fits y.value := by
  rw [finish] at h
  dsimp only at h
  split_ifs at h with hzero hoverflow
  · cases h
    simpa [ScaledDecimal.value] using fits_zero
  · cases h
    obtain ⟨hlt, htiny⟩ := keep_bounds (c := x.coefficient.natAbs) (e := x.exponent) hprec
    generalize ctx.keep x.coefficient.natAbs x.exponent = kept at *
    obtain ⟨n, k⟩ := kept
    have hmagnitude : |x.coefficient.sign * (n : ℤ)| = n := by
      rw [abs_mul, Int.abs_sign_of_ne_zero hzero, one_mul, Nat.abs_cast]
    refine ⟨x.coefficient.sign * n, k, rfl, ?_, htiny, ?_⟩
    · rw [hmagnitude]
      exact_mod_cast hlt
    · rw [← ScaledDecimal.value_abs, ScaledDecimal.abs, hmagnitude, ScaledDecimal.value]
      by_cases hn : n = 0
      · simpa [hn] using zpow_pos (by norm_num : (0 : ℚ) < 10) (ctx.emax + 1)
      · have hadjusted : k + digitCount n ≤ ctx.emax + 1 := by
          have := not_lt.mp fun hlt : ctx.emax < k + digitCount n - 1 => hoverflow ⟨hn, hlt⟩
          omega
        calc (n : ℚ) * 10 ^ k < 10 ^ digitCount n * 10 ^ k := by
              have : (n : ℚ) < 10 ^ digitCount n := by exact_mod_cast lt_pow_digitCount n
              gcongr
          _ = 10 ^ (digitCount n + k) := by
              rw [zpow_add₀ (by norm_num), zpow_natCast]
          _ ≤ 10 ^ (ctx.emax + 1) := by
              refine zpow_le_zpow_right₀ (by norm_num) ?_
              omega

theorem shiftRight_of_dvd {shift : ℕ} (h : 10 ^ shift ∣ c) : shiftRight c shift = c / 10 ^ shift := by
  rw [shiftRight, Nat.mod_eq_zero_of_dvd h]
  exact if_pos (.inl (by positivity))

/-- A coefficient keeps its value when the digits that are dropped are zeros. -/
theorem value_keep (hprec : 0 < ctx.prec)
    (h : e < max (e + digitCount c - ctx.prec) ctx.etiny →
      10 ^ (max (e + digitCount c - ctx.prec) ctx.etiny - e).toNat ∣ c) :
    ((ctx.keep c e).1 : ℚ) * 10 ^ (ctx.keep c e).2 = c * 10 ^ e := by
  rw [keep]
  dsimp only
  split_ifs with htarget hcarry
  · have hdvd := h htarget
    generalize max (e + digitCount c - ctx.prec) ctx.etiny = target at *
    rw [shiftRight_of_dvd hdvd] at hcarry
    obtain ⟨n, rfl⟩ := hdvd
    rw [Nat.mul_div_cancel_left _ (by positivity)] at hcarry
    obtain ⟨p, hp⟩ : ∃ p, ctx.prec = p + 1 := ⟨ctx.prec - 1, by omega⟩
    rw [hcarry, hp, Nat.add_sub_cancel, zpow_add_one₀ (by norm_num),
      ← ScaledDecimal.pow_toNat_mul htarget.le]
    push_cast
    ring
  · have hdvd := h htarget
    generalize max (e + digitCount c - ctx.prec) ctx.etiny = target at *
    rw [shiftRight_of_dvd hdvd]
    obtain ⟨n, rfl⟩ := hdvd
    rw [Nat.mul_div_cancel_left _ (by positivity), ← ScaledDecimal.pow_toNat_mul htarget.le]
    push_cast
    ring
  · rfl

/-- Where a number with few digits ends, no digit is dropped that is not zero. -/
theorem le_of_fits {m k : ℤ} (hc : c ≠ 0) (hvalue : (c : ℚ) * 10 ^ e = |(m : ℚ)| * 10 ^ k)
    (hm : |m| < 10 ^ ctx.prec) : e + digitCount c - ctx.prec ≤ k := by
  by_contra hlt
  have hcount : 1 ≤ digitCount c := Nat.le_add_left 1 _
  have hlow : (10 : ℚ) ^ (digitCount c - 1 + e) ≤ c * 10 ^ e := by
    rw [zpow_add₀ (by norm_num)]
    have hpow : (10 : ℚ) ^ ((digitCount c : ℤ) - 1) ≤ c := by
      have hle : ((10 ^ (digitCount c - 1) : ℕ) : ℚ) ≤ c := by exact_mod_cast pow_digitCount_le hc
      rw [← Nat.cast_one, ← Nat.cast_sub hcount, zpow_natCast]
      exact_mod_cast hle
    gcongr
  have hhigh : |(m : ℚ)| * 10 ^ k < 10 ^ ((ctx.prec : ℤ) + k) := by
    rw [zpow_add₀ (by norm_num), zpow_natCast]
    have hm' : |(m : ℚ)| < 10 ^ ctx.prec := by exact_mod_cast hm
    gcongr
  rw [hvalue] at hlow
  have hexponents := (zpow_lt_zpow_iff_right₀ (by norm_num : (1 : ℚ) < 10)).mp
    (hlow.trans_lt hhigh)
  omega

/-- A result that fits is returned with its value. -/
theorem finish_of_fits (hprec : 0 < ctx.prec) (h : ctx.Fits x.value) :
    ∃ y, ctx.finish x = .ok y ∧ y.value = x.value := by
  by_cases hzero : x.coefficient = 0
  · exact ⟨_, if_pos hzero, by simp [ScaledDecimal.value, hzero]⟩
  obtain ⟨m, k, hq, hm, hk, hrange⟩ := h
  let c := x.coefficient.natAbs
  have hc : c ≠ 0 := Int.natAbs_ne_zero.mpr hzero
  have habs : (c : ℚ) * 10 ^ x.exponent = |x.value| := by
    rw [← ScaledDecimal.value_abs, ScaledDecimal.value, ScaledDecimal.abs, ← Int.natCast_natAbs,
      Int.cast_natCast]
  have hvalue : (c : ℚ) * 10 ^ x.exponent = |(m : ℚ)| * 10 ^ k := by
    rw [habs, hq, abs_mul, abs_of_pos (zpow_pos (by norm_num : (0 : ℚ) < 10) k)]
  have hdvd : x.exponent < max (x.exponent + digitCount c - ctx.prec) ctx.etiny →
      10 ^ (max (x.exponent + digitCount c - ctx.prec) ctx.etiny - x.exponent).toNat ∣ c := by
    intro hlt
    have htarget : max (x.exponent + digitCount c - ctx.prec) ctx.etiny ≤ k :=
      max_le (le_of_fits hc hvalue hm) hk
    generalize max (x.exponent + digitCount c - ctx.prec) ctx.etiny = target at hlt htarget ⊢
    have hcoefficient : c = m.natAbs * 10 ^ (k - x.exponent).toNat := by
      have hpos : (10 : ℚ) ^ x.exponent ≠ 0 := (zpow_pos (by norm_num) _).ne'
      rw [← ScaledDecimal.pow_toNat_mul (hlt.le.trans htarget), ← mul_assoc] at hvalue
      have hcancel := mul_right_cancel₀ hpos hvalue
      rw [← Int.cast_abs, ← Int.natCast_natAbs, Int.cast_natCast] at hcancel
      exact_mod_cast hcancel
    rw [hcoefficient]
    exact dvd_mul_of_dvd_right (pow_dvd_pow 10 (by omega)) _
  have hkeep := value_keep hprec hdvd
  generalize hkept : ctx.keep c x.exponent = kept at hkeep
  obtain ⟨n, d⟩ := kept
  have hinside : ¬(n ≠ 0 ∧ ctx.emax < d + digitCount n - 1) := by
    rintro ⟨hn, hover⟩
    have hpow : (10 : ℚ) ^ (digitCount n - 1) ≤ n := by exact_mod_cast pow_digitCount_le hn
    have hlow : (10 : ℚ) ^ (ctx.emax + 1) ≤ n * 10 ^ d := by
      calc (10 : ℚ) ^ (ctx.emax + 1) ≤ 10 ^ (((digitCount n - 1 : ℕ) : ℤ) + d) := by
            refine zpow_le_zpow_right₀ (by norm_num) ?_
            have : 1 ≤ digitCount n := Nat.le_add_left 1 _
            omega
        _ = 10 ^ (digitCount n - 1) * 10 ^ d := by rw [zpow_add₀ (by norm_num), zpow_natCast]
        _ ≤ n * 10 ^ d := by gcongr
    rw [hkeep, habs] at hlow
    exact hrange.not_ge hlow
  refine ⟨⟨x.coefficient.sign * n, d⟩, ?_, ?_⟩
  · rw [finish, if_neg hzero]
    dsimp only
    rw [hkept, if_neg hinside]
  · rw [ScaledDecimal.value, ScaledDecimal.value, Int.cast_mul, Int.cast_natCast, mul_assoc, hkeep,
      ← mul_assoc]
    have hsign : ((x.coefficient.sign * (c : ℤ) : ℤ) : ℚ) = x.coefficient :=
      congrArg _ (Int.sign_mul_natAbs x.coefficient)
    rw [← hsign, Int.cast_mul, Int.cast_natCast]

theorem Fits.neg (h : ctx.Fits q) : ctx.Fits (-q) := by
  obtain ⟨m, k, rfl, hm, hk, hrange⟩ := h
  exact ⟨-m, k, by push_cast; ring, by rwa [abs_neg], hk, by rwa [abs_neg]⟩

theorem fits_abs_iff : ctx.Fits |q| ↔ ctx.Fits q := by
  rcases abs_choice q with h | h
  · rw [h]
  · rw [h]
    exact ⟨fun hq => by simpa using hq.neg, Fits.neg⟩

/-- The distance is exact if and only if it fits. -/
theorem absSub_exact_iff (hprec : 0 < ctx.prec) :
    (∃ d, ctx.absSub x y = .ok d ∧ d.value = |x.value - y.value|) ↔
      ctx.Fits |x.value - y.value| := by
  constructor
  · rintro ⟨d, hd, hvalue⟩
    obtain ⟨difference, -, hd⟩ := Except.bind_eq_ok.mp hd
    exact hvalue ▸ fits_of_finish hprec hd
  · intro hfits
    rw [← ScaledDecimal.value_sub] at hfits ⊢
    obtain ⟨difference, hdifference, hvalue⟩ := finish_of_fits hprec (fits_abs_iff.mp hfits)
    have habs : ctx.Fits difference.abs.value := by
      rwa [ScaledDecimal.value_abs, hvalue]
    obtain ⟨d, hd, hdvalue⟩ := finish_of_fits hprec habs
    exact ⟨d, Except.bind_eq_ok.mpr ⟨difference, hdifference, hd⟩, by
      rw [hdvalue, ScaledDecimal.value_abs, hvalue]⟩

theorem finish_neg : ctx.finish x.neg = (ctx.finish x).map ScaledDecimal.neg := by
  rw [finish, finish]
  by_cases hzero : x.coefficient = 0
  · simp [ScaledDecimal.neg, hzero, Except.map]
  · rw [if_neg hzero, if_neg (by simpa [ScaledDecimal.neg] using hzero)]
    dsimp only [ScaledDecimal.neg]
    rw [Int.natAbs_neg, Int.sign_neg]
    split_ifs
    · rfl
    · simp [Except.map, ScaledDecimal.neg]

/-- The distance does not depend on the order of the numbers. -/
theorem absSub_comm : ctx.absSub y x = ctx.absSub x y := by
  have habs : ∀ difference : ScaledDecimal, difference.neg.abs = difference.abs := fun _ => by
    rw [ScaledDecimal.abs, ScaledDecimal.neg, ScaledDecimal.abs, abs_neg]
  rw [absSub, absSub, ScaledDecimal.sub_comm_neg, finish_neg]
  cases ctx.finish (x.sub y) with
  | error signal => rfl
  | ok difference =>
    change ctx.finish difference.neg.abs = ctx.finish difference.abs
    rw [habs]

end DecimalContext

/-! ## Fixed-point notation -/

namespace ScaledDecimal

open DecimalText (natText natValue digitValue unsignedValue decimalValue)
open JsonText (isDigit)

def zeros (n : ℕ) : Text := List.replicate n '0'.codePoint

/-- The digits of a number, with a digit before so many places -/
def padded (c places : ℕ) : Text := zeros (places + 1 - (natText c).length) ++ natText c

def fixedMagnitude (c : ℕ) (e : ℤ) : Text :=
  if 0 ≤ e then if c = 0 then text "0" else natText c ++ zeros e.toNat
  else
    let places := (-e).toNat
    let digits := padded c places
    digits.take (digits.length - places) ++
      '.'.codePoint :: digits.drop (digits.length - places)

/-- `format(x, "f")` -/
def fixedText (x : ScaledDecimal) : Text :=
  if x.coefficient < 0 then '-'.codePoint :: fixedMagnitude x.coefficient.natAbs x.exponent
  else fixedMagnitude x.coefficient.natAbs x.exponent

theorem natValue_append_zeros (t : Text) (n : ℕ) : natValue (t ++ zeros n) = natValue t * 10 ^ n := by
  induction n with
  | zero => simp [zeros]
  | succ n ih =>
    have hlast : zeros (n + 1) = zeros n ++ ['0'.codePoint] := List.replicate_succ'
    rw [hlast, ← List.append_assoc, natValue, List.reverse_append, List.reverse_singleton,
      List.singleton_append, List.map_cons, Nat.ofDigits_cons]
    change 0 + 10 * natValue (t ++ zeros n) = _
    rw [ih]
    ring

theorem natValue_zeros_append (t : Text) (n : ℕ) : natValue (zeros n ++ t) = natValue t := by
  rw [natValue, natValue, List.reverse_append, List.map_append, Nat.ofDigits_append, zeros,
    List.reverse_replicate, List.map_replicate]
  have hzero : digitValue '0'.codePoint = 0 := rfl
  rw [hzero, Nat.ofDigits_replicate_zero]
  simp

theorem all_isDigit_natText (n : ℕ) : (natText n).all isDigit := by
  have h := DecimalText.isNatText_natText n
  cases hn : natText n with
  | nil => rfl
  | cons c rest =>
    rw [hn, DecimalText.isNatText, Bool.and_eq_true] at h
    exact h.1

theorem all_isDigit_zeros (n : ℕ) : (zeros n).all isDigit := by
  rw [zeros, List.all_replicate]
  split_ifs
  · rfl
  · decide

theorem all_isDigit_padded (c places : ℕ) : (padded c places).all isDigit := by
  rw [padded, List.all_append, all_isDigit_natText, all_isDigit_zeros]
  rfl

theorem lt_length_padded (c places : ℕ) : places < (padded c places).length := by
  rw [padded, List.length_append, zeros, List.length_replicate]
  omega

theorem all_isDigit_take {t : Text} (h : t.all isDigit) (n : ℕ) : (t.take n).all isDigit :=
  List.all_eq_true.mpr fun d hd => List.all_eq_true.mp h d (List.mem_of_mem_take hd)

theorem unsignedValue_of_digits {t : Text} (h : t.all isDigit) : unsignedValue t = natValue t := by
  have hdigits : ∀ c ∈ t, isDigit c := List.all_eq_true.mp h
  rw [unsignedValue, List.takeWhile_eq_self_iff.mpr hdigits, List.dropWhile_eq_nil_iff.mpr hdigits]
  simp

theorem unsignedValue_point {whole fraction : Text} (h : whole.all isDigit) :
    unsignedValue (whole ++ '.'.codePoint :: fraction) =
      natValue (whole ++ fraction) / 10 ^ fraction.length := by
  have hdigits : ∀ c ∈ whole, isDigit c := List.all_eq_true.mp h
  have hpoint : isDigit '.'.codePoint = false := by decide
  rw [unsignedValue, List.takeWhile_append_of_pos hdigits, List.dropWhile_append_of_pos hdigits,
    List.takeWhile_cons, List.dropWhile_cons, hpoint]
  simp

theorem unsignedValue_fixedMagnitude (c : ℕ) (e : ℤ) :
    unsignedValue (fixedMagnitude c e) = c * 10 ^ e := by
  rw [fixedMagnitude]
  split_ifs with hpos hzero
  · rw [hzero]
    have hzero : (text "0").all isDigit := by decide
    have hvalue : natValue (text "0") = 0 := by decide
    rw [unsignedValue_of_digits hzero, hvalue]
    simp
  · have hall : (natText c ++ zeros e.toNat).all isDigit := by
      rw [List.all_append, all_isDigit_natText, all_isDigit_zeros]
      rfl
    rw [unsignedValue_of_digits hall, natValue_append_zeros, DecimalText.natValue_natText,
      ← Int.toNat_of_nonneg hpos]
    push_cast
    rfl
  · let digits := padded c (-e).toNat
    have hlength : (-e).toNat < digits.length := lt_length_padded c _
    have hexponent : e = -((-e).toNat : ℤ) := by omega
    have hvalue : natValue digits = c := by
      rw [show digits = padded c (-e).toNat from rfl, padded, natValue_zeros_append,
        DecimalText.natValue_natText]
    change unsignedValue (digits.take (digits.length - (-e).toNat) ++
      '.'.codePoint :: digits.drop (digits.length - (-e).toNat)) = _
    rw [unsignedValue_point (all_isDigit_take (all_isDigit_padded c _) _), List.take_append_drop,
      hvalue, List.length_drop, Nat.sub_sub_self hlength.le]
    conv_rhs => rw [hexponent, zpow_neg, zpow_natCast, ← div_eq_mul_inv]

theorem decimalValue_of_digit {whole rest : Text} (hne : whole ≠ []) (h : whole.all isDigit) :
    decimalValue (whole ++ rest) = unsignedValue (whole ++ rest) := by
  cases whole with
  | nil => exact absurd rfl hne
  | cons c whole =>
    have hc : isDigit c := List.all_eq_true.mp h c List.mem_cons_self
    have hsign : c ≠ '-'.codePoint := fun heq => absurd (heq ▸ hc) (by decide)
    rw [List.cons_append, decimalValue, if_neg hsign]

theorem decimalValue_fixedMagnitude (c : ℕ) (e : ℤ) :
    decimalValue (fixedMagnitude c e) = c * 10 ^ e := by
  rw [← unsignedValue_fixedMagnitude, fixedMagnitude]
  have hne : natText c ≠ [] := fun hnil => by
    have h := DecimalText.isNatText_natText c
    rw [hnil] at h
    cases h
  split_ifs with hpos hzero
  · rfl
  · exact decimalValue_of_digit hne (all_isDigit_natText c)
  · have hlength := lt_length_padded c (-e).toNat
    refine decimalValue_of_digit (List.ne_nil_of_length_pos ?_)
      (all_isDigit_take (all_isDigit_padded c _) _)
    rw [List.length_take]
    exact lt_min (Nat.sub_pos_of_lt hlength) (by omega)

/-- The notation stands for the number. -/
theorem decimalValue_fixedText (x : ScaledDecimal) : decimalValue x.fixedText = x.value := by
  rw [fixedText, value]
  split_ifs with hneg
  · have hcast : ((x.coefficient.natAbs : ℕ) : ℤ) = -x.coefficient := by omega
    rw [decimalValue, if_pos rfl, unsignedValue_fixedMagnitude, ← Int.cast_natCast, hcast,
      Int.cast_neg]
    ring
  · have hcast : ((x.coefficient.natAbs : ℕ) : ℤ) = x.coefficient := by omega
    rw [decimalValue_fixedMagnitude, ← Int.cast_natCast, hcast]

end ScaledDecimal
