import Mathlib
import TruthFingerprint.Lib.ScaledDecimal

/-!
# Decimal arithmetic without rounding

Where a context traps rounding, an operation has its exact result or none. The exact result of a sum
or a product has the exponent that the operands give, and a quotient the exponent that is closest to
the ideal one (`ScaledDecimal.IsQuotient`). The context holds a result whose digits, zeros included,
are not more than its precision and whose exponents are in its range (`DecimalContext.Holds`).
-/

namespace ScaledDecimal

variable {x y q : ScaledDecimal}

/-- The decimal that a text is, digit by digit -/
def ofText (t : Text) : ScaledDecimal :=
  let unsigned (t : Text) : ℕ × ℕ :=
    let fraction := (t.dropWhile JsonText.isDigit).tail
    (DecimalText.natValue (t.takeWhile JsonText.isDigit ++ fraction), fraction.length)
  match t with
  | [] => ⟨0, 0⟩
  | c :: rest =>
    if c = '-'.codePoint then ⟨-(unsigned rest).1, -(unsigned rest).2⟩
    else ⟨(unsigned (c :: rest)).1, -(unsigned (c :: rest)).2⟩

theorem value_ofText (t : Text) : (ofText t).value = DecimalText.decimalValue t := by
  cases t with
  | nil => simp [ofText, value, DecimalText.decimalValue]
  | cons c rest =>
    rw [ofText, DecimalText.decimalValue]
    split_ifs
    · simp [value, DecimalText.unsignedValue, zpow_neg, div_eq_mul_inv]
    · simp [value, DecimalText.unsignedValue, zpow_neg, div_eq_mul_inv]

/-- The exact sum -/
def add (x y : ScaledDecimal) : ScaledDecimal :=
  let exponent := min x.exponent y.exponent
  ⟨x.coefficientAt exponent + y.coefficientAt exponent, exponent⟩

/-- The exact product -/
def mul (x y : ScaledDecimal) : ScaledDecimal :=
  ⟨x.coefficient * y.coefficient, x.exponent + y.exponent⟩

/-- An exact quotient, with the exponent closest to the ideal one -/
structure IsQuotient (x y q : ScaledDecimal) : Prop where
  divisor : y.coefficient ≠ 0
  value : q.value = x.value / y.value
  exponent_le : q.exponent ≤ x.exponent - y.exponent
  closest : ∀ other : ScaledDecimal, other.value = q.value →
    other.exponent ≤ x.exponent - y.exponent → other.exponent ≤ q.exponent

theorem value_add : (x.add y).value = x.value + y.value := by
  rw [← coefficientAt_mul (min_le_left x.exponent y.exponent),
    ← coefficientAt_mul (min_le_right x.exponent y.exponent), ← add_mul, value, add]
  push_cast
  rfl

theorem value_mul : (x.mul y).value = x.value * y.value := by
  rw [value, value, value, mul, zpow_add₀ (by norm_num)]
  push_cast
  ring

theorem zpow_ten_ne_zero (e : ℤ) : (10 : ℚ) ^ e ≠ 0 := zpow_ne_zero e (by norm_num)

theorem value_eq_zero_iff : x.value = 0 ↔ x.coefficient = 0 := by
  rw [value, mul_eq_zero, or_iff_left (zpow_ten_ne_zero _), Int.cast_eq_zero]

/-- The quotient with so many digits after the ideal exponent -/
def quotientAt (x y : ScaledDecimal) (shift : ℕ) : ScaledDecimal :=
  ⟨x.coefficient * 10 ^ shift / y.coefficient, x.exponent - y.exponent - shift⟩

@[simp] theorem exponent_quotientAt (x y : ScaledDecimal) (shift : ℕ) :
    (quotientAt x y shift).exponent = x.exponent - y.exponent - shift := rfl

theorem value_quotientAt {shift : ℕ} (hy : y.coefficient ≠ 0)
    (h : y.coefficient ∣ x.coefficient * 10 ^ shift) :
    (quotientAt x y shift).value = x.value / y.value := by
  have hcast : (y.coefficient : ℚ) ≠ 0 := Int.cast_ne_zero.mpr hy
  rw [value, quotientAt, Int.cast_div h hcast, value, value, zpow_sub₀ (by norm_num),
    zpow_sub₀ (by norm_num), zpow_natCast]
  have hten : (10 : ℚ) ^ shift ≠ 0 := pow_ne_zero _ (by norm_num)
  have hexp := zpow_ten_ne_zero y.exponent
  push_cast
  field_simp

/-- A quotient with an exponent below the ideal one divides without a remainder. -/
theorem dvd_of_value {shift : ℕ} (hy : y.coefficient ≠ 0) (hvalue : q.value = x.value / y.value)
    (hshift : q.exponent = x.exponent - y.exponent - shift) :
    q.coefficient * y.coefficient = x.coefficient * 10 ^ shift := by
  have hcast : (y.coefficient : ℚ) ≠ 0 := Int.cast_ne_zero.mpr hy
  rw [value, value, value, hshift, zpow_sub₀ (by norm_num), zpow_sub₀ (by norm_num),
    zpow_natCast] at hvalue
  have hten : (10 : ℚ) ^ shift ≠ 0 := pow_ne_zero _ (by norm_num)
  have hx := zpow_ten_ne_zero x.exponent
  have hexp := zpow_ten_ne_zero y.exponent
  field_simp at hvalue
  have hrat : (q.coefficient : ℚ) * y.coefficient = x.coefficient * 10 ^ shift := by
    linear_combination hvalue
  exact_mod_cast hrat

/-- The closest quotient is the one of the least shift that leaves no remainder. -/
theorem isQuotient_quotientAt_iff (hy : y.coefficient ≠ 0) : IsQuotient x y q ↔
    ∃ shift : ℕ, y.coefficient ∣ x.coefficient * 10 ^ shift ∧
      (∀ less < shift, ¬y.coefficient ∣ x.coefficient * 10 ^ less) ∧ q = quotientAt x y shift := by
  constructor
  · intro h
    let shift := (x.exponent - y.exponent - q.exponent).toNat
    have hle := h.exponent_le
    have hshift : q.exponent = x.exponent - y.exponent - shift := by
      rw [Int.toNat_of_nonneg (by omega)]
      ring
    have hdvd := dvd_of_value hy h.value hshift
    refine ⟨shift, ⟨q.coefficient, by rw [← hdvd]; ring⟩, fun less hless hdvd' => ?_, ?_⟩
    · have hcloser := h.closest (quotientAt x y less) ((value_quotientAt hy hdvd').trans h.value.symm)
        (by rw [exponent_quotientAt]; omega)
      rw [exponent_quotientAt, hshift] at hcloser
      omega
    · rw [quotientAt, ← hdvd, Int.mul_ediv_cancel _ hy, ← hshift]
  · rintro ⟨shift, hdvd, hleast, rfl⟩
    refine ⟨hy, value_quotientAt hy hdvd, by rw [exponent_quotientAt]; omega, fun other hvalue hle => ?_⟩
    by_contra hlt
    let less := (x.exponent - y.exponent - other.exponent).toNat
    have hless : other.exponent = x.exponent - y.exponent - less := by
      rw [Int.toNat_of_nonneg (by omega)]
      ring
    have hother := dvd_of_value hy (hvalue.trans (value_quotientAt hy hdvd)) hless
    refine hleast less ?_ ⟨other.coefficient, by rw [← hother]; ring⟩
    rw [exponent_quotientAt, not_le] at hlt
    omega

end ScaledDecimal

namespace DecimalContext

open ScaledDecimal

variable (ctx : DecimalContext)

/-- The digits of the result are kept as they are. -/
def Holds (x : ScaledDecimal) : Prop :=
  x.coefficient = 0 ∨ digitCount x.coefficient.natAbs ≤ ctx.prec ∧ ctx.etiny ≤ x.exponent ∧
    x.exponent + digitCount x.coefficient.natAbs - 1 ≤ ctx.emax

instance (x : ScaledDecimal) : Decidable (ctx.Holds x) := inferInstanceAs (Decidable (_ ∨ _))

/-- The exponent of a zero is brought into the range. -/
def clamp (x : ScaledDecimal) : ScaledDecimal :=
  if x.coefficient = 0 then ⟨0, min (max x.exponent ctx.etiny) ctx.emax⟩ else x

/-- What an operation with the exact result gives where rounding is trapped -/
def exact (x : ScaledDecimal) : Option ScaledDecimal :=
  if ctx.Holds x then some (ctx.clamp x) else none

/-- A quotient with more digits after the ideal exponent than the precision and the divisor have
digits does not fit. -/
def exactQuotient (x y : ScaledDecimal) : Option ScaledDecimal := do
  guard (y.coefficient ≠ 0)
  let shift ← (List.range (ctx.prec + digitCount y.coefficient.natAbs + 1)).find? fun shift =>
    y.coefficient ∣ x.coefficient * 10 ^ shift
  ctx.exact (quotientAt x y shift)

variable {ctx} {x y q r : ScaledDecimal}

@[simp] theorem value_clamp : (ctx.clamp x).value = x.value := by
  rw [clamp]
  split_ifs with hzero
  · rw [value, value, hzero]
    simp
  · rfl

theorem exact_eq_some_iff : ctx.exact x = some r ↔ ctx.Holds x ∧ r = ctx.clamp x := by
  rw [exact]
  split_ifs with h
  · rw [Option.some_inj, eq_comm]
    exact (and_iff_right h).symm
  · exact iff_of_false nofun fun hr => h hr.1

theorem value_of_exact (h : ctx.exact x = some r) : r.value = x.value := by
  rw [(exact_eq_some_iff.mp h).2, value_clamp]

/-- Where nothing is trapped, rounding has nothing to do. -/
theorem finish_of_exact (h : ctx.exact x = some r) : ctx.finish x = .ok r := by
  obtain ⟨hholds, rfl⟩ := exact_eq_some_iff.mp h
  rw [finish, clamp]
  split_ifs with hzero
  · rfl
  · obtain ⟨hprec, htiny, hmax⟩ := hholds.resolve_left hzero
    have hkeep : ctx.keep x.coefficient.natAbs x.exponent = (x.coefficient.natAbs, x.exponent) := by
      rw [keep]
      dsimp only
      rw [if_neg (not_lt.mpr (max_le (by omega) htiny))]
    rw [hkeep, if_neg fun hover => absurd hmax (not_le.mpr hover.2), Int.sign_mul_natAbs]

/-- A quotient that the context holds is found among the shifts that are tried. -/
theorem shift_lt_of_holds {shift : ℕ} (hy : y.coefficient ≠ 0)
    (hdvd : y.coefficient ∣ x.coefficient * 10 ^ shift)
    (hleast : ∀ less < shift, ¬y.coefficient ∣ x.coefficient * 10 ^ less)
    (hholds : ctx.Holds (quotientAt x y shift)) :
    shift < ctx.prec + digitCount y.coefficient.natAbs + 1 := by
  obtain ⟨c, hc⟩ := hdvd
  have hcoefficient : (quotientAt x y shift).coefficient = c := by
    rw [quotientAt, hc, Int.mul_ediv_cancel_left _ hy]
  by_cases hx : x.coefficient = 0
  · rcases Nat.eq_zero_or_pos shift with rfl | hpos
    · omega
    · exact absurd (by simp [hx]) (hleast 0 hpos)
  · have hpow : (10 : ℤ) ^ shift ≠ 0 := pow_ne_zero _ (by norm_num)
    have hne : c ≠ 0 := by
      rintro rfl
      rw [mul_zero] at hc
      exact mul_ne_zero hx hpow hc
    have hdigits : c.natAbs < 10 ^ ctx.prec := by
      rw [Holds, hcoefficient] at hholds
      exact (lt_pow_digitCount _).trans_le
        (Nat.pow_le_pow_right (by norm_num) (hholds.resolve_left hne).1)
    have habs : 10 ^ shift ≤ y.coefficient.natAbs * c.natAbs := by
      rw [← Int.natAbs_mul, ← hc, Int.natAbs_mul, Int.natAbs_pow]
      exact Nat.le_mul_of_pos_left _ (Int.natAbs_pos.mpr hx)
    have hlt : y.coefficient.natAbs * c.natAbs <
        10 ^ (ctx.prec + digitCount y.coefficient.natAbs) := by
      rw [pow_add, mul_comm]
      exact Nat.mul_lt_mul'' hdigits (lt_pow_digitCount _)
    have hexponent := (Nat.pow_lt_pow_iff_right (by norm_num)).mp (habs.trans_lt hlt)
    omega

/-- A division gives the closest quotient, if the context holds it. -/
theorem exactQuotient_eq_some_iff :
    ctx.exactQuotient x y = some r ↔ ∃ q, IsQuotient x y q ∧ ctx.exact q = some r := by
  by_cases hy : y.coefficient = 0
  · refine iff_of_false ?_ fun ⟨q, hq, _⟩ => hq.divisor hy
    simp [exactQuotient, hy]
  · have hguard : ctx.exactQuotient x y =
        ((List.range (ctx.prec + digitCount y.coefficient.natAbs + 1)).find? fun shift =>
          y.coefficient ∣ x.coefficient * 10 ^ shift).bind fun shift =>
            ctx.exact (quotientAt x y shift) := by
      simp [exactQuotient, hy]
    rw [hguard, Option.bind_eq_some_iff]
    constructor
    · rintro ⟨shift, hfind, hexact⟩
      obtain ⟨hdvd, -, hleast⟩ := List.find?_range_eq_some.mp hfind
      refine ⟨_, (isQuotient_quotientAt_iff hy).mpr ⟨shift, of_decide_eq_true hdvd, ?_, rfl⟩, hexact⟩
      intro less hless hdvd
      simpa [hdvd] using hleast less hless
    · rintro ⟨q, hq, hexact⟩
      obtain ⟨shift, hdvd, hleast, rfl⟩ := (isQuotient_quotientAt_iff hy).mp hq
      have hlt := shift_lt_of_holds hy hdvd hleast (exact_eq_some_iff.mp hexact).1
      refine ⟨shift, List.find?_range_eq_some.mpr ⟨decide_eq_true hdvd, List.mem_range.mpr hlt, ?_⟩,
        hexact⟩
      intro less hless
      simpa using hleast less hless

theorem value_of_exactQuotient (h : ctx.exactQuotient x y = some r) : r.value = x.value / y.value := by
  obtain ⟨q, hq, hexact⟩ := exactQuotient_eq_some_iff.mp h
  rw [value_of_exact hexact, hq.value]

example : (DecimalContext.mk 50 (-999999) 999999).exactQuotient ⟨15, -1⟩ ⟨2, 0⟩ = some ⟨75, -2⟩ := by
  decide +kernel

end DecimalContext
