import Mathlib
import TruthFingerprint.Python.Coercions

/-!
# Python's equality

`==` of values: numbers are compared as numbers, among them the Booleans, and mappings without
regard to order. Of floats it uses when two are equal.
-/

namespace TruthFingerprint.Python

/-- `==` of floats -/
class FloatEq (F : Type) where
  eqFloat : F → F → Bool

/-- Rationals, for examples -/
instance : FloatEq ℚ := ⟨fun x y => x = y⟩

variable {F : Type} [FloatOps F] [FloatEq F]

def Number.eq : Number F → Number F → Bool
  | .int i, .int j => i = j
  | .float x, .int i | .int i, .float x => FloatOps.eqInt x i
  | .float x, .float y => FloatEq.eqFloat x y

/-- The integer that a Boolean is -/
def boolInt (b : Bool) : Int := if b then 1 else 0

/-- What a value is as a number -/
def asNumber : Value F → Option (Number F)
  | .bool b => some (.int (boolInt b))
  | .num n => some n
  | .null | .str _ | .arr _ | .obj _ => none

def eqNumber (n : Number F) (value : Value F) : Bool := (asNumber value).any n.eq

mutual
/-- `==` -/
def eq : Value F → Value F → Bool
  | .null, .null => true
  | .bool b, value => eqNumber (.int (boolInt b)) value
  | .num n, value => eqNumber n value
  | .str s, .str t => s = t
  | .arr items, .arr items' => eqItems items items'
  | .obj members, .obj members' => members.length = members'.length && eqMembers members members'
  | _, _ => false
termination_by structural value => value

def eqItems : List (Value F) → List (Value F) → Bool
  | [], items => items.isEmpty
  | _ :: _, [] => false
  | item :: items, item' :: items' => eq item item' && eqItems items items'
termination_by structural items => items

def eqMembers : Members F → Members F → Bool
  | [], _ => true
  | member :: members, members' => eqMember member members' && eqMembers members members'
termination_by structural members => members

def eqMember : Text × Value F → Members F → Bool
  | (name, value), members => (members.lookup name).any fun value' => eq value value'
termination_by structural member => member
end

omit [FloatOps F] [FloatEq F] in
/-- `value.get(key)` along the keys, where `None` stands for what is missing or no mapping -/
def nested (value : Value F) : List Text → Value F
  | [] => value
  | key :: keys => match value with
    | .obj members => nested (Doc.get members key) keys
    | _ => .null

example : eq (.arr [.bool true] : Value ℚ) (.arr [.num (.float 1)]) = true := by decide

end TruthFingerprint.Python
