import Mathlib

/-!
# Exceptions and date times

The exceptions that the consensus engine raises, and what it uses of `datetime`: comparison, which
an aware value refuses against a naive one, and `isoformat`.
-/

namespace TruthFingerprint.Consensus

inductive PyError where
  /-- The key that was looked up, one text for each of its components. -/
  | keyError (key : List String)
  | typeError (message : String)
  | valueError (message : String)
  | zeroDivisionError
deriving DecidableEq, Repr

/-- `datetime.datetime`, with the seconds of its UTC offset when it is aware. -/
structure DateTime where
  year : Nat
  month : Nat
  day : Nat
  hour : Nat
  minute : Nat
  second : Nat
  microsecond : Nat
  utcOffset : Option Int
deriving DecidableEq, Repr

namespace DateTime

def isLeap (year : Nat) : Bool := year % 4 = 0 && (year % 100 ≠ 0 || year % 400 = 0)

/-- Days of a year before a month. -/
def daysBeforeMonth (year month : Nat) : Nat :=
  [0, 31, 59, 90, 120, 151, 181, 212, 243, 273, 304, 334].getD (month - 1) 0 +
    (if 2 < month ∧ isLeap year then 1 else 0)

/-- `toordinal` -/
def toOrdinal (t : DateTime) : Nat :=
  let y := t.year - 1
  y * 365 + y / 4 - y / 100 + y / 400 + daysBeforeMonth t.year t.month + t.day

/-- Microseconds of the local time. -/
def localMicroseconds (t : DateTime) : Int :=
  (((t.toOrdinal * 24 + t.hour) * 60 + t.minute) * 60 + t.second) * 1000000 + t.microsecond

/-- Microseconds of an aware time in UTC. -/
def utcMicroseconds (t : DateTime) (offset : Int) : Int := t.localMicroseconds - offset * 1000000

/-- `==`: a naive time never equals an aware one. -/
def eq (t t' : DateTime) : Bool :=
  match t.utcOffset, t'.utcOffset with
  | none, none => t.localMicroseconds = t'.localMicroseconds
  | some offset, some offset' => t.utcMicroseconds offset = t'.utcMicroseconds offset'
  | _, _ => false

/-- `<` -/
def lt (t t' : DateTime) : Except PyError Bool :=
  match t.utcOffset, t'.utcOffset with
  | none, none => .ok (t.localMicroseconds < t'.localMicroseconds)
  | some offset, some offset' => .ok (t.utcMicroseconds offset < t'.utcMicroseconds offset')
  | _, _ => .error (.typeError "can't compare offset-naive and offset-aware datetimes")

@[simp] theorem eq_self (t : DateTime) : t.eq t = true := by
  rw [eq]
  cases t.utcOffset <;> simp

/-- `n` with at least `width` digits. -/
def padded (width n : Nat) : String :=
  let digits := toString n
  "".pushn '0' (width - digits.length) ++ digits

def offsetText (offset : Int) : String :=
  let seconds := offset.natAbs
  (if offset < 0 then "-" else "+") ++ padded 2 (seconds / 3600) ++ ":" ++
    padded 2 (seconds / 60 % 60) ++
    (if seconds % 60 = 0 then "" else ":" ++ padded 2 (seconds % 60))

def isoformat (t : DateTime) : String :=
  padded 4 t.year ++ "-" ++ padded 2 t.month ++ "-" ++ padded 2 t.day ++ "T" ++
    padded 2 t.hour ++ ":" ++ padded 2 t.minute ++ ":" ++ padded 2 t.second ++
    (if t.microsecond = 0 then "" else "." ++ padded 6 t.microsecond) ++
    (t.utcOffset.map offsetText).getD ""

end DateTime

end TruthFingerprint.Consensus
