import Mathlib
import TruthFingerprint.Python.Coercions

/-!
# Times as texts

A time is written as a date, an hour, a minute and a second of a fixed number of digits, and may
have a fraction of any length. The instant that it denotes is the one of its numbers. Texts of
times are compared at the first character in which they differ. That is the order of the instants
exactly when this character tells them apart in the same way (`ordersAlike_iff`), which digits of
one script do, but the end of a fraction does not.
-/

namespace TruthFingerprint.Python

/-- The parts of a time -/
structure Reading where
  year : Text
  month : Text
  day : Text
  hour : Text
  minute : Text
  second : Text
  fraction : Text

/-- `\d{n}` and the separator after it -/
def takeGroup (n : ℕ) (separator : CodePoint) (t : Text) : Option (Text × Text) :=
  if (t.take n).length = n ∧ (t.take n).all isDecimal ∧ (t.drop n).head? = some separator then
    some (t.take n, t.drop (n + 1))
  else none

/-- `\d{2}(?:\.\d+)?Z\Z` -/
def takeSecond (t : Text) : Option (Text × Text) :=
  if (t.take 2).length = 2 ∧ (t.take 2).all isDecimal then
    match t.drop 2 with
    | [] => none
    | c :: rest =>
      if c = 'Z'.codePoint ∧ rest = [] then some (t.take 2, [])
      else
        let fraction := rest.takeWhile isDecimal
        if c = '.'.codePoint ∧ fraction ≠ [] ∧ rest.dropWhile isDecimal = ['Z'.codePoint] then
          some (t.take 2, fraction)
        else none
  else none

/-- The full match of `\d{4}-\d{2}-\d{2}T\d{2}:\d{2}:\d{2}(?:\.\d+)?Z\Z` -/
def readTimestamp (t : Text) : Option Reading := do
  let (year, t) ← takeGroup 4 '-'.codePoint t
  let (month, t) ← takeGroup 2 '-'.codePoint t
  let (day, t) ← takeGroup 2 'T'.codePoint t
  let (hour, t) ← takeGroup 2 ':'.codePoint t
  let (minute, t) ← takeGroup 2 ':'.codePoint t
  let (second, fraction) ← takeSecond t
  some ⟨year, month, day, hour, minute, second, fraction⟩

/-! ## Instants -/

def digitOf (c : CodePoint) : ℕ := (decimalValue c).getD 0

/-- The number that digits write -/
def digitsNumber : Text → ℕ
  | [] => 0
  | c :: t => digitOf c * 10 ^ t.length + digitsNumber t

/-- The fraction that digits write -/
def digitsFraction : Text → ℚ
  | [] => 0
  | c :: t => (digitOf c + digitsFraction t) / 10

/-- The instant of a time: year, month, day, hour, minute and second in this order, then the
fraction of the second -/
def Reading.instant (r : Reading) : List ℕ ×ₗ ℚ :=
  toLex ([digitsNumber r.year, digitsNumber r.month, digitsNumber r.day, digitsNumber r.hour,
    digitsNumber r.minute, digitsNumber r.second], digitsFraction r.fraction)

/-! ## The first character that differs -/

/-- No digit but zeros -/
def zeros (t : Text) : Bool := t.all fun c => digitOf c = 0

/-- Whether the first text writes less than the second one by the values of its digits. A fraction
that goes on writes more when it has a digit that is not zero. -/
def writesLess : Text → Text → Bool
  | a :: s, b :: t =>
    match decimalValue a, decimalValue b with
    | some x, some y => if x = y then writesLess s t else x < y
    | some _, none => false
    | none, some _ => !zeros (b :: t)
    | none, none => if a = b then writesLess s t else b = '.'.codePoint && !zeros t
  | _, _ => false

/-- Whether the first character that differs tells `start` and `finish` apart as what they write:
different digits by their values, equal digits of two scripts as the digits that follow them. A
fraction that starts or goes on in `start` alone may hold nothing but zeros when its digit is below
`Z`, and something else when it is above; one that goes on in `finish` alone has a digit above
`Z`. -/
def ordersAlike : Text → Text → Bool
  | a :: start, b :: finish =>
    if a = b then ordersAlike start finish
    else
      match decimalValue a, decimalValue b with
      | some x, some y =>
        if x = y then decide (b < a) == writesLess finish start else decide (b < a) == decide (y < x)
      | some _, none => decide ('Z'.codePoint < a) != zeros (a :: start)
      | none, some _ => 'Z'.codePoint < b
      | none, none => a = '.'.codePoint && zeros start
  | _, _ => true

/-! ## What was read -/

def IsDigits (t : Text) : Prop := ∀ c ∈ t, isDecimal c

/-- The rest of a time after its second -/
def fractionTail (fraction : Text) : Text :=
  if fraction = [] then ['Z'.codePoint] else '.'.codePoint :: (fraction ++ ['Z'.codePoint])

theorem takeGroup_eq_some {n : ℕ} {separator : CodePoint} {t group rest : Text}
    (h : takeGroup n separator t = some (group, rest)) :
    t = group ++ separator :: rest ∧ group.length = n ∧ IsDigits group := by
  rw [takeGroup] at h
  split_ifs at h with hmatch
  · obtain ⟨hlength, hdigits, hhead⟩ := hmatch
    obtain ⟨rfl, rfl⟩ := Prod.mk.inj (Option.some.inj h)
    refine ⟨?_, hlength, List.all_eq_true.mp hdigits⟩
    rw [← List.drop_drop]
    cases hdrop : t.drop n with
    | nil => simp [hdrop] at hhead
    | cons c rest =>
      obtain rfl : c = separator := by simpa [hdrop] using hhead
      rw [List.drop_one, List.tail_cons, ← hdrop, List.take_append_drop]

theorem takeSecond_eq_some {t second fraction : Text}
    (h : takeSecond t = some (second, fraction)) :
    t = second ++ fractionTail fraction ∧ second.length = 2 ∧ IsDigits second ∧
      IsDigits fraction := by
  rw [takeSecond] at h
  split_ifs at h with hmatch
  · obtain ⟨hlength, hdigits⟩ := hmatch
    cases hdrop : t.drop 2 with
    | nil => simp [hdrop] at h
    | cons c rest =>
      simp only [hdrop] at h
      have ht : t = t.take 2 ++ c :: rest := by rw [← hdrop, List.take_append_drop]
      split_ifs at h with hend hfraction
      · obtain ⟨rfl, rfl⟩ := hend
        obtain ⟨rfl, rfl⟩ := Prod.mk.inj (Option.some.inj h)
        exact ⟨ht, hlength, List.all_eq_true.mp hdigits, nofun⟩
      · obtain ⟨rfl, hne, hrest⟩ := hfraction
        obtain ⟨rfl, rfl⟩ := Prod.mk.inj (Option.some.inj h)
        refine ⟨?_, hlength, List.all_eq_true.mp hdigits, fun c hc => List.mem_takeWhile_imp hc⟩
        rw [fractionTail, if_neg hne, ← hrest, List.takeWhile_append_dropWhile]
        exact ht

/-- A time is its parts with the separators between them. -/
theorem readTimestamp_eq_some {t : Text} {r : Reading} (h : readTimestamp t = some r) :
    t = r.year ++ '-'.codePoint :: (r.month ++ '-'.codePoint :: (r.day ++ 'T'.codePoint ::
      (r.hour ++ ':'.codePoint :: (r.minute ++ ':'.codePoint ::
        (r.second ++ fractionTail r.fraction))))) ∧
      (r.year.length = 4 ∧ r.month.length = 2 ∧ r.day.length = 2 ∧ r.hour.length = 2 ∧
        r.minute.length = 2 ∧ r.second.length = 2) ∧
      IsDigits r.year ∧ IsDigits r.month ∧ IsDigits r.day ∧ IsDigits r.hour ∧ IsDigits r.minute ∧
        IsDigits r.second ∧ IsDigits r.fraction := by
  simp only [readTimestamp, Option.bind_eq_bind, Option.bind_eq_some_iff, Prod.exists,
    Option.some.injEq] at h
  obtain ⟨year, t₁, hyear, month, t₂, hmonth, day, t₃, hday, hour, t₄, hhour, minute, t₅, hminute,
    second, fraction, hsecond, rfl⟩ := h
  obtain ⟨rfl, hyearLength, hyearDigits⟩ := takeGroup_eq_some hyear
  obtain ⟨rfl, hmonthLength, hmonthDigits⟩ := takeGroup_eq_some hmonth
  obtain ⟨rfl, hdayLength, hdayDigits⟩ := takeGroup_eq_some hday
  obtain ⟨rfl, hhourLength, hhourDigits⟩ := takeGroup_eq_some hhour
  obtain ⟨rfl, hminuteLength, hminuteDigits⟩ := takeGroup_eq_some hminute
  obtain ⟨rfl, hsecondLength, hsecondDigits, hfractionDigits⟩ := takeSecond_eq_some hsecond
  exact ⟨rfl, ⟨hyearLength, hmonthLength, hdayLength, hhourLength, hminuteLength, hsecondLength⟩,
    hyearDigits, hmonthDigits, hdayDigits, hhourDigits, hminuteDigits, hsecondDigits, hfractionDigits⟩

/-! ## The order of the digits -/

section Digits

variable {a b : CodePoint} {s t s' t' : Text}

theorem decimalValue_lt {d : ℕ} (h : decimalValue a = some d) : d < 10 := by
  rw [decimalValue, Option.map_eq_some_iff] at h
  obtain ⟨first, hfirst, rfl⟩ := h
  have hin := List.find?_some hfirst
  simp only [Bool.and_eq_true, decide_eq_true_eq] at hin
  omega

theorem decimalValue_of_isDecimal (h : isDecimal a) : decimalValue a = some (digitOf a) := by
  obtain ⟨d, hd⟩ := Option.isSome_iff_exists.mp h
  rw [digitOf, hd, Option.getD_some]

theorem decimalValue_of_not_isDecimal (h : ¬isDecimal a) : decimalValue a = none := by
  rwa [isDecimal, Option.not_isSome_iff_eq_none] at h

theorem digitOf_lt (h : isDecimal a) : digitOf a < 10 :=
  decimalValue_lt (decimalValue_of_isDecimal h)

theorem digitsNumber_lt (h : IsDigits t) : digitsNumber t < 10 ^ t.length := by
  induction t with
  | nil => exact Nat.one_pos
  | cons c t ih =>
    obtain ⟨hc, ht⟩ := List.forall_mem_cons.mp h
    have hdigit : digitOf c + 1 ≤ 10 := digitOf_lt hc
    calc digitsNumber (c :: t) < (digitOf c + 1) * 10 ^ t.length := by
          rw [digitsNumber, Nat.succ_mul]
          exact Nat.add_lt_add_left (ih ht) _
      _ ≤ 10 * 10 ^ t.length := Nat.mul_le_mul_right _ hdigit
      _ = 10 ^ (c :: t).length := by rw [List.length_cons, pow_succ, mul_comm]

theorem digitsNumber_cons_lt (hlength : s.length = t.length) (hs : IsDigits s)
    (h : digitOf a < digitOf b) : digitsNumber (a :: s) < digitsNumber (b :: t) :=
  calc digitsNumber (a :: s) < (digitOf a + 1) * 10 ^ s.length := by
        rw [digitsNumber, Nat.succ_mul]
        exact Nat.add_lt_add_left (digitsNumber_lt hs) _
    _ ≤ digitOf b * 10 ^ t.length := by
        rw [hlength]
        exact Nat.mul_le_mul_right _ h
    _ ≤ digitsNumber (b :: t) := Nat.le_add_right _ _

theorem digitsFraction_nonneg (t : Text) : 0 ≤ digitsFraction t := by
  induction t with
  | nil => exact le_rfl
  | cons c t ih =>
    rw [digitsFraction]
    positivity

theorem digitsFraction_lt_one (h : IsDigits t) : digitsFraction t < 1 := by
  induction t with
  | nil => exact one_pos
  | cons c t ih =>
    obtain ⟨hc, ht⟩ := List.forall_mem_cons.mp h
    have hdigit : (digitOf c : ℚ) ≤ 9 := by exact_mod_cast Nat.lt_succ_iff.mp (digitOf_lt hc)
    rw [digitsFraction, div_lt_one (by norm_num)]
    linarith [ih ht]

theorem digitsFraction_pos_iff : 0 < digitsFraction t ↔ zeros t = false := by
  induction t with
  | nil => simp [digitsFraction, zeros]
  | cons c t ih =>
    have hzeros : zeros (c :: t) = false ↔ digitOf c ≠ 0 ∨ zeros t = false := by
      simp only [zeros, List.all_cons, Bool.and_eq_false_iff, decide_eq_false_iff_not, ne_eq]
    rw [hzeros, ← ih, digitsFraction, div_pos_iff_of_pos_right (by norm_num)]
    have hrest := digitsFraction_nonneg t
    constructor
    · intro hpos
      rcases Nat.eq_zero_or_pos (digitOf c) with hzero | hdigit
      · rw [hzero, Nat.cast_zero, zero_add] at hpos
        exact .inr hpos
      · exact .inl hdigit.ne'
    · rintro (hdigit | hpos)
      · have : (0 : ℚ) < digitOf c := by exact_mod_cast Nat.pos_of_ne_zero hdigit
        linarith
      · positivity

end Digits

/-! ## Groups of digits -/

/-- What is to show of two texts: whether the first difference tells them apart as what they
write. -/
def Decides (start finish : Text) : Prop :=
  ordersAlike start finish ↔ (finish < start ↔ writesLess finish start)

section Groups

variable {s t start finish : Text}

theorem writesLess_cons_self (c : CodePoint) (s t : Text) :
    writesLess (c :: s) (c :: t) = writesLess s t := by
  rw [writesLess]
  cases decimalValue c with
  | none => exact if_pos rfl
  | some d => exact if_pos rfl

/-- Groups of digits of one length are compared before what follows them. -/
theorem writesLess_append (hlength : s.length = t.length) (hs : IsDigits s) (ht : IsDigits t) :
    writesLess (s ++ start) (t ++ finish) ↔ digitsNumber s < digitsNumber t ∨
      digitsNumber s = digitsNumber t ∧ writesLess start finish := by
  induction s generalizing t with
  | nil =>
    obtain rfl := List.length_eq_zero_iff.mp hlength.symm
    simp
  | cons a s ih =>
    obtain _ | ⟨b, t⟩ := t
    · cases hlength
    obtain ⟨ha, hs⟩ := List.forall_mem_cons.mp hs
    obtain ⟨hb, ht⟩ := List.forall_mem_cons.mp ht
    have hlength : s.length = t.length := Nat.succ.inj hlength
    simp only [List.cons_append, writesLess, decimalValue_of_isDecimal ha,
      decimalValue_of_isDecimal hb]
    rcases lt_trichotomy (digitOf a) (digitOf b) with hlt | heq | hlt
    · simp [hlt.ne, hlt, digitsNumber_cons_lt hlength hs hlt]
    · rw [if_pos heq, ih hlength hs ht, digitsNumber, digitsNumber, heq, hlength,
        add_lt_add_iff_left, add_right_inj]
    · have hnumber := digitsNumber_cons_lt hlength.symm ht hlt
      simp [hlt.ne', not_lt.mpr hlt.le, hnumber.ne', not_lt.mpr hnumber.le]

theorem decides_cons {c : CodePoint} (h : Decides start finish) :
    Decides (c :: start) (c :: finish) := by
  rw [Decides, ordersAlike, if_pos rfl, writesLess_cons_self, List.cons_lt_cons_self]
  exact h

/-- Different digits decide. -/
theorem decides_digits {a b : CodePoint} (ha : isDecimal a) (hb : isDecimal b) (hne : a ≠ b) :
    Decides (a :: start) (b :: finish) := by
  rw [Decides, ordersAlike, if_neg hne, writesLess, decimalValue_of_isDecimal ha,
    decimalValue_of_isDecimal hb, List.cons_lt_cons_iff]
  have htext : (b < a ∨ b = a ∧ finish < start) ↔ b < a := by
    rw [or_iff_left fun h => hne h.1.symm]
  rw [htext]
  simp only [eq_comm (a := digitOf b)]
  split_ifs with hvalue
  · rw [beq_iff_eq, Bool.eq_iff_iff, decide_eq_true_iff]
  · rw [beq_iff_eq, decide_eq_decide, decide_eq_true_iff]

theorem decides_append (hlength : s.length = t.length) (hs : IsDigits s) (ht : IsDigits t)
    (h : Decides start finish) : Decides (s ++ start) (t ++ finish) := by
  induction s generalizing t with
  | nil =>
    obtain rfl := List.length_eq_zero_iff.mp hlength.symm
    exact h
  | cons a s ih =>
    obtain _ | ⟨b, t⟩ := t
    · cases hlength
    obtain ⟨ha, hrest⟩ := List.forall_mem_cons.mp hs
    obtain ⟨hb, hrest'⟩ := List.forall_mem_cons.mp ht
    rcases eq_or_ne a b with rfl | hne
    · exact decides_cons (ih (Nat.succ.inj hlength) hrest hrest')
    · exact decides_digits ha hb hne

end Groups

/-! ## Fractions -/

section Fractions

variable {s t : Text}

theorem not_isDecimal_end : ¬isDecimal 'Z'.codePoint := by decide

theorem digitOf_end : digitOf 'Z'.codePoint = 0 := by decide

theorem zeros_append_end (t : Text) : zeros (t ++ ['Z'.codePoint]) = zeros t := by
  rw [zeros, List.all_append, List.all_cons, digitOf_end]
  simp [zeros]

/-- Fractions are compared digit by digit. -/
theorem writesLess_fraction (hs : IsDigits s) (ht : IsDigits t) :
    writesLess (s ++ ['Z'.codePoint]) (t ++ ['Z'.codePoint]) ↔
      digitsFraction s < digitsFraction t := by
  have hend := decimalValue_of_not_isDecimal not_isDecimal_end
  induction s generalizing t with
  | nil =>
    obtain _ | ⟨b, t⟩ := t
    · simp [writesLess, hend]
    obtain ⟨hb, -⟩ := List.forall_mem_cons.mp ht
    rw [digitsFraction.eq_1, digitsFraction_pos_iff, ← zeros_append_end]
    simp [writesLess, hend, decimalValue_of_isDecimal hb]
  | cons a s ih =>
    obtain ⟨ha, hs⟩ := List.forall_mem_cons.mp hs
    have hsmall := digitsFraction_lt_one hs
    obtain _ | ⟨b, t⟩ := t
    · have hnonneg := digitsFraction_nonneg (a :: s)
      simp [writesLess, hend, decimalValue_of_isDecimal ha, digitsFraction.eq_1, hnonneg]
    obtain ⟨hb, ht⟩ := List.forall_mem_cons.mp ht
    have hsmall' := digitsFraction_lt_one ht
    have hnonneg := digitsFraction_nonneg s
    have hnonneg' := digitsFraction_nonneg t
    simp only [List.cons_append, writesLess, decimalValue_of_isDecimal ha,
      decimalValue_of_isDecimal hb]
    rw [digitsFraction, digitsFraction, div_lt_div_iff_of_pos_right (by norm_num)]
    rcases lt_trichotomy (digitOf a) (digitOf b) with hlt | heq | hlt
    · have hstep : (digitOf a : ℚ) + 1 ≤ digitOf b := by exact_mod_cast hlt
      rw [if_neg hlt.ne, decide_eq_true_iff]
      exact iff_of_true hlt (by linarith)
    · rw [if_pos heq, heq, add_lt_add_iff_left]
      exact ih hs ht
    · have hstep : (digitOf b : ℚ) + 1 ≤ digitOf a := by exact_mod_cast hlt
      rw [if_neg hlt.ne', decide_eq_true_iff]
      exact iff_of_false (not_lt.mpr hlt.le) (by linarith)

theorem decides_fraction (hs : IsDigits s) (ht : IsDigits t) :
    Decides (s ++ ['Z'.codePoint]) (t ++ ['Z'.codePoint]) := by
  have hend := decimalValue_of_not_isDecimal not_isDecimal_end
  have hne : ∀ c, isDecimal c → c ≠ 'Z'.codePoint := fun c hc heq => not_isDecimal_end (heq ▸ hc)
  induction s generalizing t with
  | nil =>
    obtain _ | ⟨b, t⟩ := t
    · exact decides_cons (by simp [Decides, ordersAlike, writesLess])
    obtain ⟨hb, -⟩ := List.forall_mem_cons.mp ht
    have hnot : ¬b < 'Z'.codePoint ↔ 'Z'.codePoint < b :=
      not_lt.trans ⟨fun h => lt_of_le_of_ne h (hne b hb).symm, le_of_lt⟩
    simp [Decides, ordersAlike, writesLess, hend, decimalValue_of_isDecimal hb, (hne b hb).symm,
      List.cons_lt_cons_iff, hne b hb, ← hnot]
  | cons a s ih =>
    obtain ⟨ha, hrest⟩ := List.forall_mem_cons.mp hs
    obtain _ | ⟨b, t⟩ := t
    · simp only [Decides, List.nil_append, List.cons_append, ordersAlike, if_neg (hne a ha),
        decimalValue_of_isDecimal ha, hend, writesLess, List.cons_lt_cons_iff]
      rw [or_iff_left fun h => hne a ha h.1.symm]
      cases zeros (a :: (s ++ ['Z'.codePoint])) <;> simp
    obtain ⟨hb, hrest'⟩ := List.forall_mem_cons.mp ht
    rcases eq_or_ne a b with rfl | hab
    · exact decides_cons (ih hrest hrest')
    · exact decides_digits ha hb hab

theorem writesLess_fractionTail (hs : IsDigits s) (ht : IsDigits t) :
    writesLess (fractionTail s) (fractionTail t) ↔ digitsFraction s < digitsFraction t := by
  have hend := decimalValue_of_not_isDecimal not_isDecimal_end
  have hpoint : decimalValue '.'.codePoint = none := by decide
  have hne : '.'.codePoint ≠ 'Z'.codePoint := by decide
  rw [fractionTail, fractionTail]
  split_ifs with hnil hnil' hnil'
  · simp [writesLess, hend, hnil, hnil']
  · rw [hnil, digitsFraction.eq_1, digitsFraction_pos_iff, ← zeros_append_end]
    simp [writesLess, hend, hpoint, hne.symm]
  · have hnonneg := digitsFraction_nonneg s
    simp [writesLess, hend, hpoint, hne, hne.symm, hnil', digitsFraction.eq_1, hnonneg]
  · rw [writesLess, hpoint]
    exact writesLess_fraction hs ht

theorem decides_fractionTail (hs : IsDigits s) (ht : IsDigits t) :
    Decides (fractionTail s) (fractionTail t) := by
  have hend := decimalValue_of_not_isDecimal not_isDecimal_end
  have hpoint : decimalValue '.'.codePoint = none := by decide
  have hne : '.'.codePoint ≠ 'Z'.codePoint := by decide
  have hlt : '.'.codePoint < 'Z'.codePoint := by decide
  rw [fractionTail, fractionTail]
  split_ifs
  · exact decides_cons (by simp [Decides, ordersAlike, writesLess])
  · -- only the finish has a fraction
    simp [Decides, ordersAlike, writesLess, hend, hpoint, hne, hne.symm, hlt,
      List.cons_lt_cons_iff]
  · -- only the start has one
    simp [Decides, ordersAlike, writesLess, hend, hpoint, hne, hne.symm, not_lt.mpr hlt.le,
      List.cons_lt_cons_iff]
  · exact decides_cons (decides_fraction hs ht)

end Fractions

/-! ## Two times -/

theorem instant_cons_lt {m n : ℕ} {ms ns : List ℕ} {x y : ℚ} :
    (toLex (m :: ms, x) : List ℕ ×ₗ ℚ) < toLex (n :: ns, y) ↔
      m < n ∨ m = n ∧ (toLex (ms, x) : List ℕ ×ₗ ℚ) < toLex (ns, y) := by
  simp only [Prod.Lex.toLex_lt_toLex, List.cons_lt_cons_iff, List.cons.injEq, and_or_left,
    and_assoc, or_assoc]

theorem instant_nil_lt {x y : ℚ} :
    (toLex ([], x) : List ℕ ×ₗ ℚ) < toLex ([], y) ↔ x < y := by
  simp [Prod.Lex.toLex_lt_toLex]

/-- The first character that differs tells two times apart as their instants exactly when it orders
them alike. -/
theorem ordersAlike_iff {start finish : Text} {r r' : Reading}
    (hstart : readTimestamp start = some r) (hfinish : readTimestamp finish = some r') :
    ordersAlike start finish ↔ (finish < start ↔ r'.instant < r.instant) := by
  obtain ⟨rfl, ⟨hyear, hmonth, hday, hhour, hminute, hsecond⟩, dyear, dmonth, dday, dhour, dminute,
    dsecond, dfraction⟩ := readTimestamp_eq_some hstart
  obtain ⟨rfl, ⟨hyear', hmonth', hday', hhour', hminute', hsecond'⟩, dyear', dmonth', dday', dhour',
    dminute', dsecond', dfraction'⟩ := readTimestamp_eq_some hfinish
  have hdecides := decides_append (hyear.trans hyear'.symm) dyear dyear' <|
    decides_cons (c := '-'.codePoint) <|
    decides_append (hmonth.trans hmonth'.symm) dmonth dmonth' <|
    decides_cons (c := '-'.codePoint) <| decides_append (hday.trans hday'.symm) dday dday' <|
    decides_cons (c := 'T'.codePoint) <| decides_append (hhour.trans hhour'.symm) dhour dhour' <|
    decides_cons (c := ':'.codePoint) <|
    decides_append (hminute.trans hminute'.symm) dminute dminute' <|
    decides_cons (c := ':'.codePoint) <|
    decides_append (hsecond.trans hsecond'.symm) dsecond dsecond' <|
    decides_fractionTail dfraction dfraction'
  rw [Decides, writesLess_append (hyear'.trans hyear.symm) dyear' dyear, writesLess_cons_self,
    writesLess_append (hmonth'.trans hmonth.symm) dmonth' dmonth, writesLess_cons_self,
    writesLess_append (hday'.trans hday.symm) dday' dday, writesLess_cons_self,
    writesLess_append (hhour'.trans hhour.symm) dhour' dhour, writesLess_cons_self,
    writesLess_append (hminute'.trans hminute.symm) dminute' dminute, writesLess_cons_self,
    writesLess_append (hsecond'.trans hsecond.symm) dsecond' dsecond,
    writesLess_fractionTail dfraction' dfraction] at hdecides
  simp only [Reading.instant, instant_cons_lt, instant_nil_lt]
  exact hdecides

end TruthFingerprint.Python
