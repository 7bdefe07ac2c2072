import Mathlib
import TruthFingerprint.Lib.NearestInt

/-!
# Decimal arithmetic of bounded precision

The value of an operation is the exact one, rounded half-even to the digits of the precision and
to the smallest exponent, unless it overflows. An operation whose exact value fits returns it, and
so does a sum whose partial sums fit (`DecimalContext.sum_eq_of_exactSums`).
-/

/-- The precision, and the exponents of the smallest normal and of the largest number. -/
structure DecimalContext where
  prec : ℕ
  emin : ℤ
  emax : ℤ

inductive DecimalSignal
  | overflow
  | divisionByZero
  deriving DecidableEq

namespace DecimalContext

variable (ctx : DecimalContext)

/-- The exponent of the first digit. -/
def adjusted (x : ℚ) : ℤ := Int.log 10 |x|

/-- The exponent of the last digit that is kept. -/
def lastExponent (x : ℚ) : ℤ := max (adjusted x) ctx.emin - (ctx.prec - 1)

def round (x : ℚ) : ℚ :=
  NearestInt.halfEven (x / 10 ^ ctx.lastExponent x) * 10 ^ ctx.lastExponent x

/-- The result of an operation with the exact value `x`. -/
def fix (x : ℚ) : Except DecimalSignal ℚ :=
  if adjusted (ctx.round x) ≤ ctx.emax then .ok (ctx.round x) else .error .overflow

def add (x y : ℚ) : Except DecimalSignal ℚ := ctx.fix (x + y)

def sub (x y : ℚ) : Except DecimalSignal ℚ := ctx.fix (x - y)

def div (x y : ℚ) : Except DecimalSignal ℚ :=
  if y = 0 then .error .divisionByZero else ctx.fix (x / y)

def abs (x : ℚ) : Except DecimalSignal ℚ := ctx.fix |x|

/-- The sum from the left. -/
def sum (xs : List ℚ) : Except DecimalSignal ℚ := xs.foldlM ctx.add 0

def mean (xs : List ℚ) : Except DecimalSignal ℚ := do
  ctx.div (← ctx.sum xs) xs.length

def distance (x y : ℚ) : Except DecimalSignal ℚ := do
  ctx.abs (← ctx.sub x y)

/-- The value has no more digits than the context keeps. -/
def Exact (x : ℚ) : Prop := ctx.fix x = .ok x

instance : DecidablePred ctx.Exact := fun _ => inferInstanceAs (Decidable (_ = _))

/-- Every partial sum from the left is exact. -/
def ExactSums (xs : List ℚ) : Prop := ∀ ys ∈ xs.inits, ys ≠ [] → ctx.Exact ys.sum

instance : DecidablePred ctx.ExactSums := fun xs => inferInstanceAs (Decidable (∀ ys ∈ xs.inits, _))

variable {ctx} {x y : ℚ}

theorem add_eq_of_exact (h : ctx.Exact (x + y)) : ctx.add x y = .ok (x + y) := h

theorem sub_eq_of_exact (h : ctx.Exact (x - y)) : ctx.sub x y = .ok (x - y) := h

theorem div_eq_of_exact (hy : y ≠ 0) (h : ctx.Exact (x / y)) : ctx.div x y = .ok (x / y) := by
  rw [div, if_neg hy]
  exact h

theorem sum_append (xs ys : List ℚ) :
    ctx.sum (xs ++ ys) = (ctx.sum xs).bind fun s => ys.foldlM ctx.add s := by
  rw [sum, List.foldlM_append]
  rfl

theorem ExactSums.of_prefix {xs ys : List ℚ} (h : ctx.ExactSums ys) (hxs : xs <+: ys) :
    ctx.ExactSums xs := fun zs hzs =>
  h zs ((List.mem_inits _ _).mpr (((List.mem_inits _ _).mp hzs).trans hxs))

theorem sum_eq_of_exactSums {xs : List ℚ} (h : ctx.ExactSums xs) : ctx.sum xs = .ok xs.sum := by
  induction xs using List.reverseRecOn with
  | nil => rfl
  | append_singleton xs x ih =>
    have hsum := h (xs ++ [x]) ((List.mem_inits _ _).mpr List.prefix_rfl) (by simp)
    rw [sum_append, ih (h.of_prefix (List.prefix_append ..))]
    rw [List.sum_append, List.sum_singleton] at hsum ⊢
    change (ctx.add xs.sum x >>= pure) = _
    rw [bind_pure, add_eq_of_exact hsum]

end DecimalContext
