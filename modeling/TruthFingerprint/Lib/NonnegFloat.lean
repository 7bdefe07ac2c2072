import Mathlib

/-!
# Nonnegative binary64 numbers

A sum, product or quotient of floats is not a number only where infinities or zeros meet. The
floats that are positive zero, a positive number or positive infinity (`Float.Nonneg`) stay clear
of that: they are closed under the operations below, and `Float.rank` orders them linearly
(`Float.lt_iff_rank`, `Float.beq_iff_rank`). The length of a list is a positive number
(`Float.posFinite_ofNat`), so that a mean of nonnegative floats is one too.

An operation on floats unpacks its arguments, computes on `UnpackedFloat` and packs the result. So
each closure law is one for `UnpackedFloat` first, carried over by `HasSign.unpack_pack`.
-/

namespace Float.Model.UnpackedFloat

/-- Not NaN, with the given sign. -/
def HasSign (sign : Sign) : UnpackedFloat → Prop
  | .infinity s | .zero s | .finite s .. => s = sign
  | .notANumber => False

/-- Positive zero, a positive number or positive infinity. -/
def Nonneg (u : UnpackedFloat) : Prop := u.HasSign .positive

/-- A positive number. -/
def PosFinite : UnpackedFloat → Prop
  | .finite .positive .. => True
  | _ => False

instance : DecidablePred PosFinite
  | .finite .positive .. => isTrue trivial
  | .finite .negative .. | .infinity _ | .zero _ | .notANumber => isFalse id

/-- Where a nonnegative float stands in their order. -/
def rank : UnpackedFloat → ℕ ×ₗ ℤ ×ₗ ℕ
  | .finite _ m e _ => toLex (1, toLex (e, m))
  | .infinity _ => toLex (2, toLex (0, 0))
  | _ => toLex (0, toLex (0, 0))

variable {u v : UnpackedFloat} {spec : Format}

theorem nonneg_iff : u.Nonneg ↔ u = .zero .positive ∨ u = .infinity .positive ∨
    ∃ m e hm, u = .finite .positive m e hm := by
  rcases u with ⟨_ | _⟩ | _ | ⟨_ | _⟩ | ⟨_ | _, m, e, hm⟩ <;> simp [Nonneg, HasSign, *]

theorem isNaN_eq_false_iff : u.isNaN = false ↔ ∃ sign, u.HasSign sign := by
  cases u <;> simp [isNaN, HasSign]

theorem posFinite_iff : u.PosFinite ↔ ∃ m e hm, u = .finite .positive m e hm := by
  rcases u with ⟨_ | _⟩ | _ | s | ⟨_ | _, m, e, hm⟩ <;> simp [PosFinite, *]

theorem PosFinite.nonneg (h : u.PosFinite) : u.Nonneg := by
  obtain ⟨m, e, hm, rfl⟩ := posFinite_iff.mp h
  rfl

/-! ## Order -/

theorem compare_eq (hu : u.Nonneg) (hv : v.Nonneg) :
    u.compare v = some (compare u.rank v.rank) := by
  rcases nonneg_iff.mp hu with rfl | rfl | ⟨m, e, hm, rfl⟩ <;>
    rcases nonneg_iff.mp hv with rfl | rfl | ⟨m', e', hm', rfl⟩ <;> rfl

theorem lt_iff_rank (hu : u.Nonneg) (hv : v.Nonneg) : u.lt v = true ↔ u.rank < v.rank := by
  rw [UnpackedFloat.lt, compare_eq hu hv, beq_iff_eq, Option.some_inj, compare_lt_iff_lt]

theorem beq_iff_rank (hu : u.Nonneg) (hv : v.Nonneg) : u.beq v = true ↔ u.rank = v.rank := by
  rw [UnpackedFloat.beq, compare_eq hu hv, beq_iff_eq, Option.some_inj, compare_eq_iff_eq]

/-! ## Operations -/

theorem nonneg_roundWithAccuracy : (roundWithAccuracy spec .positive m e acc).Nonneg := by
  rw [roundWithAccuracy]
  dsimp only
  split <;> rfl

theorem nonneg_normalize (hm : 0 ≤ m) : (normalize spec m e .positive).Nonneg := by
  rw [normalize]
  split
  · rename_i h
    exact absurd (compare_lt_iff_lt.mp h) (not_lt.mpr hm)
  · rfl
  · exact nonneg_roundWithAccuracy

theorem Nonneg.add (hu : u.Nonneg) (hv : v.Nonneg) : (add spec u v).Nonneg := by
  rcases nonneg_iff.mp hu with rfl | rfl | ⟨m, e, hm, rfl⟩ <;>
    rcases nonneg_iff.mp hv with rfl | rfl | ⟨m', e', hm', rfl⟩
  case inr.inr.inr.inr =>
    exact nonneg_normalize (Int.add_nonneg (Int.natCast_nonneg _) (Int.natCast_nonneg _))
  all_goals rfl

theorem Nonneg.mul_posFinite (hu : u.Nonneg) (hv : v.PosFinite) : (mul spec u v).Nonneg := by
  obtain ⟨m', e', hm', rfl⟩ := posFinite_iff.mp hv
  rcases nonneg_iff.mp hu with rfl | rfl | ⟨m, e, hm, rfl⟩
  · rfl
  · rfl
  · exact nonneg_roundWithAccuracy

theorem Nonneg.div_posFinite (hu : u.Nonneg) (hv : v.PosFinite) : (div spec u v).Nonneg := by
  obtain ⟨m', e', hm', rfl⟩ := posFinite_iff.mp hv
  rcases nonneg_iff.mp hu with rfl | rfl | ⟨m, e, hm, rfl⟩
  · rfl
  · rfl
  · exact nonneg_roundWithAccuracy

theorem PosFinite.div_nonneg (hu : u.PosFinite) (hv : v.Nonneg) : (div spec u v).Nonneg := by
  obtain ⟨m, e, hm, rfl⟩ := posFinite_iff.mp hu
  rcases nonneg_iff.mp hv with rfl | rfl | ⟨m', e', hm', rfl⟩
  · rfl
  · rfl
  · exact nonneg_roundWithAccuracy

theorem nonneg_ofScientific : (ofScientific spec m e).Nonneg := by
  rw [ofScientific]
  split
  · rfl
  · split
    · rfl
    · split
      · rfl
      · split
        · exact nonneg_roundWithAccuracy
        · exact nonneg_roundWithAccuracy

theorem isNaN_roundWithAccuracy : (roundWithAccuracy spec s m e acc).isNaN = false := by
  rw [roundWithAccuracy]
  dsimp only
  split <;> rfl

theorem isNaN_normalize : (normalize spec m e s).isNaN = false := by
  rw [normalize]
  split
  · exact isNaN_roundWithAccuracy
  · rfl
  · exact isNaN_roundWithAccuracy

theorem isNaN_sub (hu : u.isFinite) (hv : v.isFinite) : (sub spec u v).isNaN = false := by
  have hfinite : ∀ {w : UnpackedFloat}, w.isFinite → (∃ s, w = .zero s) ∨
      ∃ s m e hm, w = .finite s m e hm := fun {w} h => by
    cases w with
    | notANumber | infinity => cases h
    | zero s => exact .inl ⟨s, rfl⟩
    | finite s m e hm => exact .inr ⟨s, m, e, hm, rfl⟩
  rcases hfinite hu with ⟨s, rfl⟩ | ⟨s, m, e, hm, rfl⟩ <;>
    rcases hfinite hv with ⟨s', rfl⟩ | ⟨s', m', e', hm', rfl⟩
  · cases s <;> cases s' <;> rfl
  · rfl
  · rfl
  · exact isNaN_normalize

theorem nonneg_abs (hu : u.isNaN = false) : u.abs.Nonneg := by
  cases u with
  | notANumber => cases hu
  | infinity | zero | finite => rfl

/-! ## Packing -/

theorem hasSign_unpack_packComponents {e : BitVec spec.exponentBits}
    {m : BitVec spec.mantissaBitsWithoutImplicit} (h : e ≠ -1#_ ∨ m = 0#_) :
    (unpack spec (packComponents spec sign e m)).HasSign sign := by
  simp only [unpack, unpackMantissa_packComponents, unpackExponent_packComponents,
    unpackSign_packComponents, Sign.ofBitVec_toBitVec]
  split
  · rename_i he
    rw [if_pos (h.resolve_left (not_not.mpr he))]
    rfl
  · split
    · split <;> rfl
    · rfl

theorem HasSign.unpack_pack (hu : u.HasSign sign) : (unpack spec (pack spec u)).HasSign sign := by
  cases u with
  | notANumber => exact hu.elim
  | infinity s =>
    obtain rfl : s = sign := hu
    exact hasSign_unpack_packComponents (.inr rfl)
  | zero s =>
    obtain rfl : s = sign := hu
    rw [pack, unpack_packedZero]
    rfl
  | finite s m e hm =>
    obtain rfl : s = sign := hu
    rw [pack]
    generalize (e + spec.exponentBias + spec.mantissaBitsWithoutImplicit).toNat = biased
    split
    · exact hasSign_unpack_packComponents (.inr rfl)
    · rename_i hbiased
      have hne : ∀ n < 2 ^ spec.exponentBits - 1, BitVec.ofNat spec.exponentBits n ≠ -1#_ :=
        fun n hn h => by
          have htoNat := congrArg BitVec.toNat h
          rw [BitVec.toNat_ofNat, Nat.mod_eq_of_lt (by omega), BitVec.neg_one_eq_allOnes,
            BitVec.toNat_allOnes] at htoNat
          omega
      have htwo : 2 ^ 1 ≤ 2 ^ spec.exponentBits := Nat.pow_le_pow_right (by decide) spec.he
      split
      · exact hasSign_unpack_packComponents (.inl (hne _ (by omega)))
      · exact hasSign_unpack_packComponents (.inl (hne 0 (by omega)))

/-- A number with a full mantissa and an exponent in range is packed exactly. -/
theorem unpack_pack_of_log2 {s : Sign} {hm : 0 < m} (hlog : m.log2 = 52) (hlo : -1074 ≤ e)
    (hhi : e ≤ 971) : unpack .binary64 (pack .binary64 (.finite s m e hm)) = .finite s m e hm := by
  have hbias : (e + Format.binary64.exponentBias + Format.binary64.mantissaBitsWithoutImplicit).toNat =
      (e + 1075).toNat := congrArg Int.toNat (Int.add_assoc e 1023 52)
  obtain ⟨hmlo, hmhi⟩ := (Nat.log2_eq_iff hm.ne').mp hlog
  have hlt : (e + 1075).toNat < 2 ^ 11 := by omega
  have hexp : (BitVec.ofNat 11 (e + 1075).toNat).toNat = (e + 1075).toNat := by
    rw [BitVec.toNat_ofNat, Nat.mod_eq_of_lt hlt]
  have hones : BitVec.ofNat 11 (e + 1075).toNat ≠ -1#11 := fun h => by
    have htoNat := hexp.symm.trans (congrArg BitVec.toNat h)
    rw [show (-1#11).toNat = 2047 from rfl] at htoNat
    omega
  have hzero : BitVec.ofNat 11 (e + 1075).toNat ≠ 0#11 := fun h => by
    have htoNat := hexp.symm.trans (congrArg BitVec.toNat h)
    rw [show (0#11).toNat = 0 from rfl] at htoNat
    omega
  have hmant : (1#1 ++ BitVec.ofNat 52 m).toNat = m := by
    rw [BitVec.toNat_append, ← Nat.shiftLeft_add_eq_or_of_lt (BitVec.ofNat 52 m).isLt,
      BitVec.toNat_ofNat, BitVec.toNat_ofNat, Nat.shiftLeft_eq]
    omega
  rw [pack, hbias, if_neg (show ¬2 ^ 11 ≤ (e + 1075).toNat + 1 by omega),
    if_pos (show m.log2 + 1 = Format.binary64.mantissaBits by rw [hlog]; rfl)]
  simp only [unpack, unpackMantissa_packComponents, unpackExponent_packComponents,
    unpackSign_packComponents, Sign.ofBitVec_toBitVec, if_neg hones, if_neg hzero, hexp, hmant]
  congr 1
  change ((e + 1075).toNat : Int) - (1023 + 52) = e
  omega

/-! ## Numbers that are not rounded to zero or infinity -/

/-- A positive number with a full mantissa and an exponent in `[lo, hi]`. -/
def FullMantissa (u : UnpackedFloat) (lo hi : Int) : Prop :=
  ∃ m e hm, u = .finite .positive m e hm ∧ m.log2 = 52 ∧ lo ≤ e ∧ e ≤ hi

theorem FullMantissa.unpack_pack (h : FullMantissa u lo hi) (hlo : -1074 ≤ lo) (hhi : hi ≤ 971) :
    unpack .binary64 (pack .binary64 u) = u := by
  obtain ⟨m, e, hm, rfl, hlog, hle, hge⟩ := h
  exact unpack_pack_of_log2 hlog (by omega) (by omega)

theorem mantissa_shiftRight (em : ExtendedMantissa) (n : Nat) :
    (em >>> n).mantissa = em.mantissa / 2 ^ n := by
  change (n.repeat ExtendedMantissa.shiftRightOne em).mantissa = _
  induction n with
  | zero => simp [Nat.repeat]
  | succ n ih =>
    rw [Nat.repeat, ExtendedMantissa.shiftRightOne, ih, Nat.div_div_eq_div_mul, ← Nat.pow_succ]

theorem roundedMantissa_bounds (em : ExtendedMantissa) :
    em.mantissa ≤ em.roundedMantissa ∧ em.roundedMantissa ≤ em.mantissa + 1 := by
  rw [ExtendedMantissa.roundedMantissa]
  cases em.accuracy with
  | exact => simp [Accuracy.roundToNearestEven]
  | inexact o =>
    have hmod := Nat.mod_lt em.mantissa (y := 2) (by decide)
    cases o <;> simp only [Accuracy.roundToNearestEven] <;> omega

/-- The shift that brings a mantissa of at least 53 bits down to 53 bits. -/
theorem shiftToTargetExponent_eq (hlog : 52 ≤ m.log2) (he : -1074 ≤ e) :
    shiftToTargetExponent .binary64 m e .exact =
      ((⟨m, false, false⟩ : ExtendedMantissa) >>> (m.log2 - 52), e + (m.log2 - 52 : Nat)) := by
  have htarget : (Format.binary64.targetExponent (totalExponent m e) - e).toNat = m.log2 - 52 := by
    change (max ((m.log2 + 1 + e : Int) - 53) (-1074) - e).toNat = _
    omega
  rw [shiftToTargetExponent, shiftToExponent, htarget]
  rfl

theorem log2_div {m : Nat} (hlog : 52 ≤ m.log2) : (m / 2 ^ (m.log2 - 52)).log2 = 52 := by
  have hm : m ≠ 0 := by
    rintro rfl
    simp at hlog
  obtain ⟨hlo, hhi⟩ := (Nat.log2_eq_iff hm).mp rfl
  have hle : 2 ^ 52 ≤ m / 2 ^ (m.log2 - 52) := by
    rw [Nat.le_div_iff_mul_le (Nat.two_pow_pos _), ← Nat.pow_add, Nat.add_sub_cancel' hlog]
    exact hlo
  refine (Nat.log2_eq_iff (by omega)).mpr ⟨hle, ?_⟩
  rw [Nat.div_lt_iff_lt_mul (Nat.two_pow_pos _), ← Nat.pow_add]
  exact hhi.trans_eq (congrArg (2 ^ ·) (by omega))

/-- Rounding a mantissa of at least 53 bits leaves a full one. -/
theorem fullMantissa_roundWithAccuracy (hlog : 52 ≤ m.log2) (he : -1074 ≤ e) :
    FullMantissa (roundWithAccuracy .binary64 .positive m e .exact) (e + (m.log2 - 52 : Nat))
      (e + (m.log2 - 52 : Nat) + 1) := by
  have hbounds := roundedMantissa_bounds ((⟨m, false, false⟩ : ExtendedMantissa) >>> (m.log2 - 52))
  rw [roundWithAccuracy, shiftToTargetExponent_eq hlog he]
  dsimp only
  generalize ((⟨m, false, false⟩ : ExtendedMantissa) >>> (m.log2 - 52)).roundedMantissa = r
    at hbounds ⊢
  -- the rounded mantissa has 53 bits, or is the power of two that needs one more
  rw [mantissa_shiftRight] at hbounds
  dsimp only at hbounds
  obtain ⟨hlo, hhi⟩ := (Nat.log2_eq_iff (n := m / 2 ^ (m.log2 - 52)) (k := 52)
    (fun h => by simpa [h] using log2_div hlog)).mp (log2_div hlog)
  have hr : r ≠ 0 := by omega
  have hrlo : 52 ≤ r.log2 := (Nat.le_log2 hr).mpr (by omega)
  have hrhi : r.log2 < 54 := (Nat.log2_lt hr).mpr (by omega)
  rw [shiftToTargetExponent_eq hrlo (by omega)]
  dsimp only
  have hfull := log2_div hrlo
  rw [mantissa_shiftRight, dif_neg fun h => by simp [h] at hfull]
  exact ⟨_, _, _, rfl, hfull, by omega, by omega⟩

theorem log2_mul_two_pow {m : Nat} (hm : m ≠ 0) (k : Nat) : (m * 2 ^ k).log2 = m.log2 + k := by
  obtain ⟨hlo, hhi⟩ := (Nat.log2_eq_iff hm).mp rfl
  refine (Nat.log2_eq_iff (Nat.mul_ne_zero hm (Nat.two_pow_pos k).ne')).mpr ⟨?_, ?_⟩
  · rw [Nat.pow_add]
    exact Nat.mul_le_mul_right _ hlo
  · rw [Nat.add_right_comm, Nat.pow_add]
    exact Nat.mul_lt_mul_of_pos_right hhi (Nat.two_pow_pos k)

/-- A natural of at most 53 bits. -/
theorem fullMantissa_ofNat (hn : n ≠ 0) (hlog : n.log2 ≤ 52) :
    FullMantissa (ofNat .binary64 n) (-52) 1 := by
  have hround : ofNat .binary64 n =
      roundWithAccuracy .binary64 .positive (n * 2 ^ (52 - n.log2)) (n.log2 - 52) .exact := by
    have hpos : (0 : Int) < n := by omega
    have hshift : (0 - Format.binary64.targetExponent (totalExponent n 0)).toNat = 52 - n.log2 := by
      change (0 - max ((n.log2 + 1 + 0 : Int) - 53) (-1074)).toNat = _
      omega
    rw [ofNat, ofInt, normalize, compare_gt_iff_gt.mpr hpos]
    simp only [round, Int.toNat_natCast, decreaseExponent, hshift, Nat.shiftLeft_eq]
    congr 1
    omega
  have hfull : (n * 2 ^ (52 - n.log2)).log2 = 52 := by
    rw [log2_mul_two_pow hn]
    omega
  obtain ⟨m, e, hm, heq, hm52, hlo, hhi⟩ :=
    fullMantissa_roundWithAccuracy (e := n.log2 - 52) hfull.ge (by omega)
  rw [hround]
  exact ⟨m, e, hm, heq, hm52, by omega, by omega⟩

end Float.Model.UnpackedFloat

namespace Float

open Float.Model UnpackedFloat

/-- Positive zero, a positive number or positive infinity. -/
def Nonneg (x : Float) : Prop := x.toModel.unpack.Nonneg

/-- A positive number. -/
def PosFinite (x : Float) : Prop := x.toModel.unpack.PosFinite

instance : DecidablePred PosFinite := fun x =>
  inferInstanceAs (Decidable x.toModel.unpack.PosFinite)

/-- Where a nonnegative float stands in their order. -/
def rank (x : Float) : ℕ ×ₗ ℤ ×ₗ ℕ := x.toModel.unpack.rank

variable {x y : Float}

theorem lt_iff_rank (hx : x.Nonneg) (hy : y.Nonneg) : x < y ↔ x.rank < y.rank :=
  decide_eq_true_iff.trans (UnpackedFloat.lt_iff_rank hx hy)

theorem beq_iff_rank (hx : x.Nonneg) (hy : y.Nonneg) : (x == y) = true ↔ x.rank = y.rank :=
  UnpackedFloat.beq_iff_rank hx hy

theorem PosFinite.nonneg (h : x.PosFinite) : x.Nonneg := UnpackedFloat.PosFinite.nonneg h

theorem Nonneg.add (hx : x.Nonneg) (hy : y.Nonneg) : (x + y).Nonneg :=
  HasSign.unpack_pack (UnpackedFloat.Nonneg.add hx hy)

theorem Nonneg.mul_posFinite (hx : x.Nonneg) (hy : y.PosFinite) : (x * y).Nonneg :=
  HasSign.unpack_pack (UnpackedFloat.Nonneg.mul_posFinite hx hy)

theorem Nonneg.div_posFinite (hx : x.Nonneg) (hy : y.PosFinite) : (x / y).Nonneg :=
  HasSign.unpack_pack (UnpackedFloat.Nonneg.div_posFinite hx hy)

theorem PosFinite.div_nonneg (hx : x.PosFinite) (hy : y.Nonneg) : (x / y).Nonneg :=
  HasSign.unpack_pack (UnpackedFloat.PosFinite.div_nonneg hx hy)

theorem nonneg_abs_sub (hx : x.isFinite) (hy : y.isFinite) : (x - y).abs.Nonneg := by
  obtain ⟨sign, hsign⟩ := isNaN_eq_false_iff.mp (isNaN_sub hx hy : (UnpackedFloat.sub .binary64 _ _).isNaN = false)
  have hsub : (x - y).toModel.unpack.HasSign sign := hsign.unpack_pack
  exact HasSign.unpack_pack (nonneg_abs (isNaN_eq_false_iff.mpr ⟨sign, hsub⟩))

theorem nonneg_zero : (0.0 : Float).Nonneg := rfl

theorem nonneg_ofNat (n : Nat) : (Float.ofNat n).Nonneg := by
  change (Float.ofScientific n false 0).Nonneg
  rw [Float.ofScientific]
  split
  · have hofNat : (n.toUInt64.toFloat).Nonneg :=
      HasSign.unpack_pack (nonneg_normalize (Int.natCast_nonneg _))
    have hone : (Float.ofBits 0x3FF0000000000000).PosFinite := by decide +kernel
    exact hofNat.mul_posFinite hone
  · exact HasSign.unpack_pack nonneg_ofScientific

/-- The natural numbers up to the largest length of a list. -/
theorem posFinite_ofNat (hn : n ≠ 0) (hlt : n < 2 ^ 63) : (Float.ofNat n).PosFinite := by
  have hfull : ∀ {u : UnpackedFloat}, FullMantissa u (-52) 13 → (unpack .binary64
      (UnpackedFloat.pack .binary64 u)).PosFinite := fun {u} h => by
    rw [h.unpack_pack (by omega) (by omega)]
    obtain ⟨m, e, hm, rfl, -⟩ := h
    trivial
  rw [PosFinite, Float.ofNat]
  change (Float.ofScientific n false 0).toModel.unpack.PosFinite
  rw [Float.ofScientific]
  split
  · rename_i h
    have hone : (Float.ofBits 0x3FF0000000000000).toModel.unpack =
        .finite .positive (2 ^ 52) (-52) (by decide) := rfl
    have hsmall : n.toUInt64.toNat = n := by
      rw [Nat.toUInt64, UInt64.toNat_ofNat', Nat.mod_eq_of_lt (by omega)]
    have hofNat := fullMantissa_ofNat hn (Nat.le_of_lt_succ ((Nat.log2_lt hn).mpr h.1))
    have hfloat : n.toUInt64.toFloat.toModel.unpack = UnpackedFloat.ofNat .binary64 n := by
      change unpack .binary64 (UnpackedFloat.pack .binary64
        (UnpackedFloat.ofNat .binary64 n.toUInt64.toNat)) = _
      rw [hsmall, hofNat.unpack_pack (by omega) (by omega)]
    obtain ⟨m, e, hm, heq, hlog, hlo, hhi⟩ := hofNat
    have hprod : (m * 2 ^ 52).log2 = 104 := by rw [log2_mul_two_pow hm.ne', hlog]
    change (unpack .binary64 (UnpackedFloat.pack .binary64 (UnpackedFloat.mul .binary64
      n.toUInt64.toFloat.toModel.unpack (Float.ofBits 0x3FF0000000000000).toModel.unpack))).PosFinite
    rw [hone, hfloat, heq]
    refine hfull ?_
    obtain ⟨m', e', hm', heq', hlog', hlo', hhi'⟩ := fullMantissa_roundWithAccuracy
      (m := m * 2 ^ 52) (e := e + -52) (by omega) (by omega)
    exact ⟨m', e', hm', heq', hlog', by omega, by omega⟩
  · have hlog : (n * 2 ^ 53).log2 = n.log2 + 53 := log2_mul_two_pow hn 53
    have hlt63 : n.log2 < 63 := (Nat.log2_lt hn).mpr hlt
    change (unpack .binary64 (UnpackedFloat.pack .binary64
      (UnpackedFloat.ofScientific .binary64 n 0))).PosFinite
    have hround : UnpackedFloat.ofScientific .binary64 n 0 =
        roundWithAccuracy .binary64 .positive (n * 2 ^ 53) (-53) .exact := by
      have hbits : (2 : Int) ^ Format.binary64.exponentBits = 2048 := rfl
      rw [UnpackedFloat.ofScientific, dif_neg hn, if_neg (by decide), if_neg (by omega),
        if_pos (le_refl _), UnpackedFloat.mul, show Format.binary64.mantissaBits = 53 from rfl,
        Int.toNat_zero, Nat.pow_zero, Nat.mul_one, Nat.shiftLeft_eq]
      rfl
    rw [hround]
    obtain ⟨m', e', hm', heq', hlog', hlo', hhi'⟩ := fullMantissa_roundWithAccuracy
      (m := n * 2 ^ 53) (e := -53) (by omega) (by omega)
    exact hfull ⟨m', e', hm', heq', hlog', by omega, by omega⟩

end Float
