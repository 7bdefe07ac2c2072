import Mathlib

/-!
# Code points and their encodings

A text is a list of code points, surrogates included: the strings of Python are all of these, the
strings that Go decodes are those without a surrogate. `utf8` writes a text as bytes, a surrogate
as if it were a character.
-/

abbrev CodePoint := Fin 0x110000

abbrev Text := List CodePoint

abbrev Bytes := List UInt8

instance CodePoint.neZero : NeZero 0x110000 := ⟨by decide⟩

instance CodePoint.lawfulBEq : LawfulBEq CodePoint := inferInstance

instance Text.lawfulBEq : LawfulBEq Text := inferInstance

theorem CodePoint.lower_lt (c : CodePoint) (h : 0x41 ≤ c.val ∧ c.val ≤ 0x5a) :
    c.val + 0x20 < 0x110000 := by
  omega

def Char.codePoint (c : Char) : CodePoint :=
  ⟨c.toNat, by
    rcases c.valid with h | ⟨-, h⟩
    · exact lt_trans h (by decide)
    · exact h⟩

def text (s : String) : Text := s.toList.map Char.codePoint

/-- The lower-case digit of a number below 16. -/
def hexDigit (n : Nat) : CodePoint :=
  if n < 10 then Fin.ofNat _ (0x30 + n) else Fin.ofNat _ (0x57 + n % 16)

def isHexDigit (c : CodePoint) : Bool :=
  (0x30 ≤ c.val && c.val ≤ 0x39) || (0x61 ≤ c.val && c.val ≤ 0x66)

theorem isHexDigit_hexDigit (h : n < 16) : isHexDigit (hexDigit n) := by
  interval_cases n <;> decide

namespace CodePoint

def isHighSurrogate (c : CodePoint) : Bool := 0xd800 ≤ c.val && c.val < 0xdc00

def isLowSurrogate (c : CodePoint) : Bool := 0xdc00 ≤ c.val && c.val < 0xe000

def isSurrogate (c : CodePoint) : Bool := c.isHighSurrogate || c.isLowSurrogate

def isAscii (c : CodePoint) : Bool := c.val < 0x80

/-- The bytes of a code point. -/
def utf8 (c : CodePoint) : Bytes :=
  let n := c.val
  if n < 0x80 then [.ofNat n]
  else if n < 0x800 then [.ofNat (0xc0 + n / 0x40), .ofNat (0x80 + n % 0x40)]
  else if n < 0x10000 then
    [.ofNat (0xe0 + n / 0x1000), .ofNat (0x80 + n / 0x40 % 0x40), .ofNat (0x80 + n % 0x40)]
  else
    [.ofNat (0xf0 + n / 0x40000), .ofNat (0x80 + n / 0x1000 % 0x40),
      .ofNat (0x80 + n / 0x40 % 0x40), .ofNat (0x80 + n % 0x40)]

end CodePoint

namespace Text

def utf8 (t : Text) : Bytes := t.flatMap CodePoint.utf8

def IsAscii (t : Text) : Prop := ∀ c ∈ t, c.isAscii

instance : DecidablePred IsAscii := fun t => List.decidableBAll _ t

@[simp] theorem utf8_cons (c : CodePoint) (t : Text) :
    Text.utf8 (c :: t) = c.utf8 ++ Text.utf8 t := rfl

end Text
