import Mathlib
import TruthFingerprint.Python.Json

/-!
# Python's coercions

What `int` and `float` make of a value, where the operations on floats are a parameter, and the
spaces and decimal digits of texts.
-/

namespace TruthFingerprint.Python

/-! ## Texts -/

/-- `str.isspace` of a character -/
def isSpace (c : CodePoint) : Bool :=
  (0x09 ≤ c.val && c.val ≤ 0x0d) || (0x1c ≤ c.val && c.val ≤ 0x20) || c.val = 0x85 ||
    c.val = 0xa0 || c.val = 0x1680 || (0x2000 ≤ c.val && c.val ≤ 0x200a) || c.val = 0x2028 ||
    c.val = 0x2029 || c.val = 0x202f || c.val = 0x205f || c.val = 0x3000

/-- `str.strip()` -/
def strip (t : Text) : Text := ((t.dropWhile isSpace).reverse.dropWhile isSpace).reverse

/-- `str.split()` -/
def split (t : Text) : List Text := (t.splitOnP isSpace).filter fun token => token ≠ []

/-- The zeros of the scripts that have decimal digits. The nine other digits follow each. -/
def decimalZeros : List Nat :=
  [0x30, 0x660, 0x6f0, 0x7c0, 0x966, 0x9e6, 0xa66, 0xae6, 0xb66, 0xbe6, 0xc66, 0xce6, 0xd66, 0xde6,
    0xe50, 0xed0, 0xf20, 0x1040, 0x1090, 0x17e0, 0x1810, 0x1946, 0x19d0, 0x1a80, 0x1a90, 0x1b50,
    0x1bb0, 0x1c40, 0x1c50, 0xa620, 0xa8d0, 0xa900, 0xa9d0, 0xa9f0, 0xaa50, 0xabf0, 0xff10, 0x104a0,
    0x10d30, 0x10d40, 0x11066, 0x110f0, 0x11136, 0x111d0, 0x112f0, 0x11450, 0x114d0, 0x11650,
    0x116c0, 0x116d0, 0x116da, 0x11730, 0x118e0, 0x11950, 0x11bf0, 0x11c50, 0x11d50, 0x11da0,
    0x11f50, 0x16130, 0x16a60, 0x16ac0, 0x16b50, 0x16d70, 0x1ccf0, 0x1d7ce, 0x1d7d8, 0x1d7e2,
    0x1d7ec, 0x1d7f6, 0x1e140, 0x1e2f0, 0x1e4f0, 0x1e5f1, 0x1e950, 0x1fbf0]

/-- The value of a decimal digit -/
def decimalValue (c : CodePoint) : Option Nat :=
  (decimalZeros.find? fun first => first ≤ c.val && c.val < first + 10).map fun first => c.val - first

def isDecimal (c : CodePoint) : Bool := (decimalValue c).isSome

/-- A sign, if there is one, and the text after it -/
def takeSign : Text → Bool × Text
  | [] => (false, [])
  | c :: rest =>
    if c = '-'.codePoint then (true, rest) else if c = '+'.codePoint then (false, rest)
    else (false, c :: rest)

/-- The digits of an integer literal, in which single underscores may stand between digits -/
def literalDigits (t : Text) : Option (List Nat) :=
  let parts := t.splitOnP (· = '_'.codePoint)
  if parts.all fun part => part ≠ [] then parts.flatten.mapM decimalValue else none

/-- `int` of a string -/
def intOfText (t : Text) : Option Int := do
  let (negative, rest) := takeSign (strip t)
  let digits ← literalDigits rest
  guard (digits.length ≤ maxStrDigits)
  let magnitude : Int := Nat.ofDigits 10 digits.reverse
  some (if negative then -magnitude else magnitude)

example : intOfText (text " -1_024\n") = some (-1024) := by decide

/-! ## Numbers -/

/-- Of floats the loaders use what `int` makes of one, what `float` makes of an integer or a string,
whether one lies between zero and one, and a count times one, rounded. The text that `str` makes of a
list or a dictionary is a parameter too. -/
class Coercions (F : Type) extends FloatOps F where
  containerText : Doc (Number F) → Text
  truncate : F → Option Int
  ofInt : Int → Option F
  ofText : Text → Option F
  isFraction : F → Bool
  roundTimes : Nat → F → Int

/-- Rationals, for examples -/
instance : Coercions ℚ where
  containerText := fun _ => text "[]"
  ofLiteral := fun literal => if literal = text "0.5" then 1 / 2 else 0
  repr := fun _ => text "0.5"
  isFinite := fun _ => true
  eqInt := fun x i => x = i
  truncate := fun x => some x.floor
  ofInt := fun i => some i
  ofText := fun _ => none
  isFraction := fun x => 0 < x && x < 1
  roundTimes := fun n x => round (n * x)

variable {F : Type} [Coercions F]

/-- `int` -/
def int : Value F → Option Int
  | .bool b => some (if b then 1 else 0)
  | .num (.int i) => some i
  | .num (.float x) => Coercions.truncate x
  | .str s => intOfText s
  | .null | .arr _ | .obj _ => none

/-- `float` -/
def float : Value F → Option F
  | .bool b => Coercions.ofInt (if b then 1 else 0)
  | .num (.int i) => Coercions.ofInt i
  | .num (.float x) => some x
  | .str s => Coercions.ofText s
  | .null | .arr _ | .obj _ => none

/-- `str` -/
def str : Value F → Text
  | .null => text "None"
  | .bool b => if b then text "True" else text "False"
  | .num n => n.literal
  | .str s => s
  | value => Coercions.containerText value

omit [Coercions F] in
/-- The members of a dictionary -/
def mapping : Value F → Option (Members F)
  | .obj members => some members
  | _ => none

end TruthFingerprint.Python
