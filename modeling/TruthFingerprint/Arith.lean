import Mathlib
import TruthFingerprint.Lib.NearestInt

/-!
# Arithmetic of the two implementations

The evaluations are written over any type `F` of sensor values that has the operations their
language uses: `GoArith` for the consensus application and `PyArith` for the consensus engine.
Both have an instance at `Float`, the binary64 numbers that the programs compute with, and one at
`ℚ`, where every operation but the rounding is exact.

`math.Round` sends a tie away from zero. Python's `round` and the format verb `%.3f` of both
languages round the exact value of their argument, and send a tie to the even digit.
-/

namespace TruthFingerprint

/-- What both languages do with a float. -/
class FloatArith (F : Type) extends Add F, Sub F, Mul F, Div F, OfScientific F where
  ofNat : Nat → F
  abs : F → F
  le : F → F → Bool
  lt : F → F → Bool
  eq : F → F → Bool

class GoArith (F : Type) extends FloatArith F where
  /-- `math.Round` -/
  mathRound : F → F
  /-- `fmt.Sprintf("%.3f", x)` -/
  sprintf3 : F → String

class PyArith (F : Type) extends FloatArith F where
  /-- `sum` of a list that is not empty -/
  sum : List F → F
  /-- `round(x, 3)` -/
  round3 : F → F
  /-- `f"{x:.3f}"` -/
  format3 : F → String

/-! ## Binary64 -/

namespace Binary64

open Float.Model

/-- The quotient of two naturals to the nearest integer, ties up. -/
def halfUpDiv (a b : Nat) : Nat := (2 * a + b) / (2 * b)

/-- The quotient of two naturals to the nearest integer, ties to the even one. -/
def halfEvenDiv (a b : Nat) : Nat :=
  if 2 * (a % b) < b then a / b
  else if b < 2 * (a % b) then a / b + 1
  else if a / b % 2 = 0 then a / b else a / b + 1

/-- `m * 2 ^ e * k` to the nearest integer. -/
def scaled (div : Nat → Nat → Nat) (m : Nat) (e : Int) (k : Nat) : Nat :=
  div (m * 2 ^ e.toNat * k) (2 ^ (-e).toNat)

def withSign : UnpackedFloat.Sign → Float → Float
  | .positive, x => x
  | .negative, x => -x

def mathRound (x : Float) : Float :=
  match x.toModel.unpack with
  | .finite s m e _ => withSign s (Float.ofNat (scaled halfUpDiv m e 1))
  | _ => x

def round3 (x : Float) : Float :=
  match x.toModel.unpack with
  | .finite s m e _ => withSign s (OfScientific.ofScientific (scaled halfEvenDiv m e 1000) true 3)
  | _ => x

end Binary64

/-- The digits of a number of thousandths. -/
def thousandths (k : Nat) : String :=
  toString (k / 1000) ++ "." ++ toString (k / 100 % 10) ++ toString (k / 10 % 10) ++
    toString (k % 10)

namespace Binary64

open Float.Model

def signText : UnpackedFloat.Sign → String
  | .positive => ""
  | .negative => "-"

/-- Three decimals of `x`, given the texts that the language has for a NaN and for infinity. -/
def fixed3 (nan posInf negInf : String) (x : Float) : String :=
  match x.toModel.unpack with
  | .notANumber => nan
  | .infinity .positive => posInf
  | .infinity .negative => negInf
  | .zero s => signText s ++ thousandths 0
  | .finite s m e _ => signText s ++ thousandths (scaled halfEvenDiv m e 1000)

/-- The running sum of `sum` and the rounding error it has collected. -/
structure CompensatedSum where
  hi : Float
  lo : Float

def CompensatedSum.add (t : CompensatedSum) (x : Float) : CompensatedSum :=
  let hi := t.hi + x
  if t.hi.abs ≥ x.abs then { hi, lo := t.lo + ((t.hi - hi) + x) }
  else { hi, lo := t.lo + ((x - hi) + t.hi) }

def CompensatedSum.toFloat (t : CompensatedSum) : Float :=
  if t.lo != 0 && t.lo.isFinite then t.hi + t.lo else t.hi

/-- `sum` adds floats with Neumaier's compensation, from an integer zero. -/
def sum : List Float → Float
  | [] => 0
  | x :: xs => (xs.foldl CompensatedSum.add { hi := 0 + x, lo := 0 }).toFloat

end Binary64

instance : FloatArith Float where
  ofNat := Float.ofNat
  abs := Float.abs
  le x y := decide (x ≤ y)
  lt x y := decide (x < y)
  eq x y := x == y

instance : GoArith Float where
  mathRound := Binary64.mathRound
  sprintf3 := Binary64.fixed3 "NaN" "+Inf" "-Inf"

instance : PyArith Float where
  sum := Binary64.sum
  round3 := Binary64.round3
  format3 := Binary64.fixed3 "nan" "inf" "-inf"

/-! ## Exact rationals -/

instance : FloatArith ℚ where
  ofNat n := n
  abs x := |x|
  le x y := decide (x ≤ y)
  lt x y := decide (x < y)
  eq x y := decide (x = y)

/-- Three decimals of a rational. -/
def fixed3 (x : ℚ) : String :=
  (if x < 0 then "-" else "") ++ thousandths (NearestInt.halfEven (|x| * 1000)).natAbs

instance : GoArith ℚ where
  mathRound x := NearestInt.halfAway x
  sprintf3 := fixed3

instance : PyArith ℚ where
  sum := List.sum
  round3 x := NearestInt.halfEven (x * 1000) / 1000
  format3 := fixed3

@[simp] theorem FloatArith.ofNat_rat (n : Nat) : (FloatArith.ofNat n : ℚ) = n := rfl

@[simp] theorem FloatArith.abs_rat (x : ℚ) : FloatArith.abs x = |x| := rfl

@[simp] theorem FloatArith.le_rat (x y : ℚ) : FloatArith.le x y = decide (x ≤ y) := rfl

@[simp] theorem GoArith.mathRound_rat (x : ℚ) :
    GoArith.mathRound x = (NearestInt.halfAway x : ℚ) := rfl

@[simp] theorem PyArith.round3_rat (x : ℚ) :
    PyArith.round3 x = (NearestInt.halfEven (x * 1000) : ℚ) / 1000 := rfl

@[simp] theorem PyArith.sum_rat (xs : List ℚ) : PyArith.sum xs = xs.sum := rfl

end TruthFingerprint
