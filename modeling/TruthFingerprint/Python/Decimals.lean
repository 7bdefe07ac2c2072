import Mathlib
import TruthFingerprint.Lib.ScaledDecimal
import TruthFingerprint.Python.Coercions

/-!
# Python's decimals

What `Decimal` makes of a text. The digits of a text are unbounded, and kept exactly: a number whose
exponent leaves the range of the implementation is no decimal.
-/

namespace TruthFingerprint.Python

open JsonText (isDigit)

/-- `decimal.MAX_EMAX`, which is `decimal.MAX_PREC` too -/
def maxEmax : ℕ := 999999999999999999

/-- `numeric_as_ascii`: the text without the spaces around it and without underscores, and with
the digits of other scripts replaced -/
def numericAsAscii (t : Text) : Option Text :=
  ((strip t).filter fun c => c ≠ '_'.codePoint).mapM fun c =>
    if 0 < c.val ∧ c.val ≤ 0x7f then some c
    else if isSpace c then some ' '.codePoint
    else (decimalValue c).map DecimalText.digitChar

def isExponentIndicator (c : CodePoint) : Bool := c = 'e'.codePoint || c = 'E'.codePoint

/-- The digits of the exponent, after the indicator -/
def exponentOfText (t : Text) : Option ℤ :=
  let (negative, digits) := takeSign t
  if digits ≠ [] ∧ digits.all isDigit then
    some (if negative then -DecimalText.natValue digits else DecimalText.natValue digits)
  else none

/-- The digits before the point and after it -/
def decimalPart (t : Text) : Option (Text × Text) :=
  match t.dropWhile isDigit with
  | [] => if t ≠ [] then some (t, []) else none
  | c :: fraction =>
    let whole := t.takeWhile isDigit
    if c = '.'.codePoint ∧ fraction.all isDigit ∧ whole ++ fraction ≠ [] then some (whole, fraction)
    else none

/-- The number is represented without being rounded or clamped. -/
def Representable (c : ℕ) (exponent : ℤ) : Prop :=
  -(2 * maxEmax - 1) ≤ exponent ∧ exponent + DecimalContext.digitCount c - 1 ≤ maxEmax ∧
    DecimalContext.digitCount c ≤ maxEmax

instance (c : ℕ) (exponent : ℤ) : Decidable (Representable c exponent) :=
  inferInstanceAs (Decidable (_ ∧ _))

/-- `numeric-string` of the documentation, when it stands for a number -/
def decimalOfAscii (t : Text) : Option ScaledDecimal := do
  let (negative, rest) := takeSign t
  let (whole, fraction) ← decimalPart (rest.takeWhile fun c => !isExponentIndicator c)
  let exponent ← match rest.dropWhile fun c => !isExponentIndicator c with
    | [] => some 0
    | _ :: rest => exponentOfText rest
  let coefficient := DecimalText.natValue (whole ++ fraction)
  if Representable coefficient (exponent - fraction.length) then
    some ⟨if negative then -coefficient else coefficient, exponent - fraction.length⟩
  else none

/-- `Decimal` of a string, when it is finite -/
def decimalOfText (t : Text) : Option ScaledDecimal := do
  decimalOfAscii (← numericAsAscii t)

example : decimalOfText (text " -1_2.50e1\n") = some ⟨-1250, -1⟩ := by decide +kernel

example : decimalOfText (text "1e") = none := by decide +kernel

end TruthFingerprint.Python
