import Mathlib
import TruthFingerprint.Lib.Decimal
import TruthFingerprint.Lib.DecimalText
import TruthFingerprint.Lib.JsonEscapes

/-!
# Python's values and its `json` module

The values that JSON carries are documents whose numbers are integers or floats. Floats are a
parameter: of them the contracts use the text that `repr` prints, what `float` makes of a literal,
whether one is finite and whether one equals an integer.

`dumps` is `json.dumps` with `ensure_ascii`, sorted keys, compact separators and without `nan`.
-/

namespace TruthFingerprint.Python

/-- What a call raises: the exception that it declares, or one of the interpreter's. -/
inductive Raised (ε : Type) where
  | declared (e : ε)
  | typeError
  | valueError
  | decimal (signal : DecimalSignal)
  deriving DecidableEq

/-- The operations on floats. -/
class FloatOps (F : Type) where
  /-- `float` of a literal -/
  ofLiteral : Text → F
  repr : F → Text
  isFinite : F → Bool
  eqInt : F → Int → Bool

/-- The float zero alone, for values without floats. -/
instance : FloatOps Unit := ⟨fun _ => (), fun _ => text "0.0", fun _ => true, fun _ i => i = 0⟩

inductive Number (F : Type) where
  | int (i : Int)
  | float (x : F)

abbrev Value (F : Type) := Doc (Number F)

abbrev Members (F : Type) := List (Text × Value F)

variable {F ε : Type} [FloatOps F]

/-! ## Numbers -/

/-- The digits that an integer may have in a text, `sys.int_info.default_max_str_digits`. -/
def maxStrDigits : Nat := 4300

def intText (i : Int) : Text :=
  if i < 0 then '-'.codePoint :: DecimalText.natText i.natAbs else DecimalText.natText i.natAbs

theorem isDigit_of_mem_natText {n : Nat} {c : CodePoint} (h : c ∈ DecimalText.natText n) :
    JsonText.isDigit c := by
  have hdigits := DecimalText.isNatText_natText n
  cases hn : DecimalText.natText n with
  | nil => simp [hn] at h
  | cons d rest =>
    simp only [hn, DecimalText.isNatText, Bool.and_eq_true, List.all_eq_true] at hdigits
    exact hdigits.1 c (hn ▸ h)

theorem mem_intText {i : Int} {c : CodePoint} (h : c ∈ intText i) :
    c = '-'.codePoint ∨ JsonText.isDigit c := by
  rw [intText] at h
  split_ifs at h
  · exact (List.mem_cons.mp h).imp_right isDigit_of_mem_natText
  · exact .inr (isDigit_of_mem_natText h)

theorem intText_injective : Function.Injective intText := by
  have hnat : ∀ m n : Nat, DecimalText.natText m = DecimalText.natText n → m = n := by
    intro m n h
    rw [← DecimalText.natValue_natText m, h, DecimalText.natValue_natText]
  have hsign : ∀ (m : Nat) (t : Text), DecimalText.natText m ≠ '-'.codePoint :: t := by
    intro m t h
    have hdigit : JsonText.isDigit '-'.codePoint :=
      isDigit_of_mem_natText (n := m) (h ▸ List.mem_cons_self)
    exact absurd hdigit (by decide)
  intro i j h
  rw [intText, intText] at h
  split_ifs at h with hi hj hj
  · have := hnat _ _ (List.cons.inj h).2
    omega
  · exact absurd h.symm (hsign _ _)
  · exact absurd h (hsign _ _)
  · have := hnat _ _ h
    omega

def Number.printable : Number F → Bool
  | .int i => i.natAbs < 10 ^ maxStrDigits
  | .float x => FloatOps.isFinite x

def Number.literal : Number F → Text
  | .int i => intText i
  | .float x => FloatOps.repr x

/-- A literal without a fraction and an exponent is an integer, if it is not too long. -/
def Number.ofLiteral (literal : Text) : Option (Number F) :=
  if literal.all fun c => JsonText.isDigit c || c = '-'.codePoint then
    let digits := literal.filter JsonText.isDigit
    if digits.length ≤ maxStrDigits then
      let magnitude : Int := DecimalText.natValue digits
      some (.int (if literal.head? = some '-'.codePoint then -magnitude else magnitude))
    else none
  else some (.float (FloatOps.ofLiteral literal))

/-! ## Texts -/

def isPrintableAscii (c : CodePoint) : Bool := 0x20 ≤ c.val && c.val ≤ 0x7e

/-- `ensure_ascii` -/
def escapeAscii : CodePoint → Text := JsonText.escapeWith isPrintableAscii

def Printable (v : Value F) : Prop := v.All (·.printable) fun _ => True

instance : DecidablePred (Printable (F := F)) :=
  fun v => inferInstanceAs (Decidable (v.All (·.printable) fun _ => True))

/-- The text of a value whose numbers are printable. -/
def canonicalText (v : Value F) : Text :=
  JsonText.render escapeAscii (v.sortKeys.map Number.literal id)

def dumps (v : Value F) : Except (Raised ε) Text :=
  if Printable v then .ok (canonicalText v) else .error .valueError

/-- `json.loads` of a text, with a hook that raises `duplicate` when an object repeats a name and
one that rejects the constants. -/
def loads (duplicate : ε) (t : Text) : Except (Raised ε) (Value F) :=
  match JsonText.parse t with
  | none => .error .valueError
  | some d =>
    if ¬d.UniqueNames then .error (.declared duplicate)
    else if d.All (fun literal => (Number.ofLiteral (F := F) literal).isSome) fun _ => True then
      .ok (d.map (fun literal => (Number.ofLiteral literal).getD (.int 0)) id)
    else .error .valueError

theorem dumps_eq_ok {v : Value F} {t : Text} :
    dumps (ε := ε) v = .ok t ↔ Printable v ∧ canonicalText v = t := by
  rw [dumps]
  split_ifs with h <;> simp [h]

/-- Values that differ in the order of members only have one text. -/
theorem canonicalText_congr {v w : Value F} (h : v.sortKeys = w.sortKeys) :
    canonicalText v = canonicalText w := by
  rw [canonicalText, canonicalText, h]

end TruthFingerprint.Python
