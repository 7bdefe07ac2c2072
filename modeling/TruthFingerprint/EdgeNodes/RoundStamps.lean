import Mathlib
import TruthFingerprint.Consensus.DateTime
import TruthFingerprint.Lib.FixedWidth

/-!
# The rounds of acquisition instants

A round is named by the instant of the last local acquisition, with its date, its time and its
microseconds in a fixed number of digits each. The `isoformat` of the instant leaves out the
microseconds when there are none. Both texts are ordered as the instants are, from the year 1000 on
(`roundText_lt_iff`, `isoText_lt_iff`, `microseconds_lt_iff`).
-/

namespace TruthFingerprint.EdgeNodes

open Consensus (DateTime)
open Consensus.DateTime (padded daysBeforeMonth)
open FixedWidth (digits append_lt_append_iff append_left_lt_iff digits_append_lt_iff
  digits_lt_digits_iff)

def daysOfMonth (year month : ℕ) : ℕ :=
  if month = 12 then 31 else daysBeforeMonth year (month + 1) - daysBeforeMonth year month

/-- A date and time of UTC, with a year of four digits -/
structure AcquisitionInstant where
  time : DateTime
  utc : time.utcOffset = some 0
  year : 1000 ≤ time.year ∧ time.year ≤ 9999
  month : 1 ≤ time.month ∧ time.month ≤ 12
  day : 1 ≤ time.day ∧ time.day ≤ daysOfMonth time.year time.month
  hour : time.hour < 24
  minute : time.minute < 60
  second : time.second < 60
  microsecond : time.microsecond < 1000000

namespace AcquisitionInstant

/-- `strftime("%Y%m%d%H%M%S%f")` -/
def stamp (t : AcquisitionInstant) : String :=
  padded 4 t.time.year ++ padded 2 t.time.month ++ padded 2 t.time.day ++ padded 2 t.time.hour ++
    padded 2 t.time.minute ++ padded 2 t.time.second ++ padded 6 t.time.microsecond

/-- The identifier of `consensus_round_identity` -/
def roundId (t : AcquisitionInstant) : String := "round-" ++ t.stamp

/-- The microseconds since the beginning of the calendar -/
def microseconds (t : AcquisitionInstant) : ℤ := t.time.utcMicroseconds 0

/-- The first of the fields that differ is smaller. -/
def Before (t t' : AcquisitionInstant) : Prop :=
  t.time.year < t'.time.year ∨ t.time.year = t'.time.year ∧
    (t.time.month < t'.time.month ∨ t.time.month = t'.time.month ∧
      (t.time.day < t'.time.day ∨ t.time.day = t'.time.day ∧
        (t.time.hour < t'.time.hour ∨ t.time.hour = t'.time.hour ∧
          (t.time.minute < t'.time.minute ∨ t.time.minute = t'.time.minute ∧
            (t.time.second < t'.time.second ∨ t.time.second = t'.time.second ∧
              t.time.microsecond < t'.time.microsecond)))))

/-! ## Texts -/

theorem text_append (s t : String) : text (s ++ t) = text s ++ text t := by
  rw [text, String.toList_append, List.map_append]
  rfl

theorem text_pushn (c : Char) (n : ℕ) : text ("".pushn c n) = List.replicate n c.codePoint := by
  induction n with
  | zero => rfl
  | succ n ih =>
    change text (("".pushn c n).push c) = _
    rw [text, String.toList_push, List.map_append, List.replicate_succ', ← ih]
    rfl

theorem codePoint_digitChar {d : ℕ} (h : d < 10) :
    (Nat.digitChar d).codePoint = DecimalText.digitChar d := by
  interval_cases d <;> rfl

/-- The digits of a number are those of its width without the zeros before them. -/
theorem digits_eq {width n : ℕ} (hn : n < 10 ^ (width + 1)) :
    digits (width + 1) n =
      List.replicate (width + 1 - (Nat.toDigits 10 n).length) '0'.codePoint ++
        (Nat.toDigits 10 n).map Char.codePoint := by
  induction width generalizing n with
  | zero =>
    have hlt : n < 10 := by simpa using hn
    rw [Nat.toDigits_of_lt_base hlt, digits, digits, Nat.mod_eq_of_lt hlt]
    simp [codePoint_digitChar hlt]
  | succ width ih =>
    have hdiv : n / 10 < 10 ^ (width + 1) := by
      rw [pow_succ] at hn
      omega
    rw [digits, ih hdiv, ← codePoint_digitChar (Nat.mod_lt n (by omega))]
    by_cases hlt : n < 10
    · rw [Nat.toDigits_of_lt_base hlt, Nat.div_eq_of_lt hlt, Nat.toDigits_zero,
        Nat.mod_eq_of_lt hlt]
      simp [List.replicate_succ']
    · rw [Nat.toDigits_of_base_le (by omega) (not_lt.mp hlt)]
      simp [Nat.add_sub_add_right]

theorem text_padded {width n : ℕ} (hwidth : 0 < width) (hn : n < 10 ^ width) :
    text (padded width n) = digits width n := by
  obtain ⟨width, rfl⟩ := Nat.exists_eq_succ_of_ne_zero hwidth.ne'
  have hlength : (toString n).length = (Nat.toDigits 10 n).length := by
    rw [← String.length_toList, Nat.toString_eq_repr, Nat.toList_repr]
  rw [Nat.succ_eq_add_one, digits_eq hn, padded, text_append, text_pushn, hlength, text,
    Nat.toString_eq_repr, Nat.toList_repr]

variable (t t' : AcquisitionInstant)

theorem day_lt : t.time.day < 100 := by
  obtain ⟨hmonth, hmonth'⟩ := t.month
  refine lt_of_le_of_lt t.day.2 ?_
  rw [daysOfMonth, daysBeforeMonth, daysBeforeMonth]
  generalize t.time.month = month at hmonth hmonth' ⊢
  interval_cases month <;> simp <;> split <;> omega

/-- Every field fits its width. -/
structure Fits (t : AcquisitionInstant) : Prop where
  year : t.time.year < 10 ^ 4
  month : t.time.month < 10 ^ 2
  day : t.time.day < 10 ^ 2
  hour : t.time.hour < 10 ^ 2
  minute : t.time.minute < 10 ^ 2
  second : t.time.second < 10 ^ 2
  microsecond : t.time.microsecond < 10 ^ 6

theorem fits : t.Fits where
  year := Nat.lt_succ_of_le t.year.2
  month := lt_of_le_of_lt t.month.2 (by norm_num)
  day := t.day_lt
  hour := t.hour.trans (by norm_num)
  minute := t.minute.trans (by norm_num)
  second := t.second.trans (by norm_num)
  microsecond := t.microsecond

/-- How texts compare that write the fields in fixed widths with the same separators -/
theorem fields_lt_iff {s₁ s₂ s₃ s₄ s₅ rest rest' : Text}
    (hrest : rest < rest' ↔ t.time.microsecond < t'.time.microsecond) :
    digits 4 t.time.year ++ (s₁ ++ (digits 2 t.time.month ++ (s₂ ++ (digits 2 t.time.day ++ (s₃ ++
      (digits 2 t.time.hour ++ (s₄ ++ (digits 2 t.time.minute ++ (s₅ ++
        (digits 2 t.time.second ++ rest)))))))))) <
    digits 4 t'.time.year ++ (s₁ ++ (digits 2 t'.time.month ++ (s₂ ++ (digits 2 t'.time.day ++
      (s₃ ++ (digits 2 t'.time.hour ++ (s₄ ++ (digits 2 t'.time.minute ++ (s₅ ++
        (digits 2 t'.time.second ++ rest')))))))))) ↔ t.Before t' := by
  rw [digits_append_lt_iff t.fits.year t'.fits.year, append_left_lt_iff,
    digits_append_lt_iff t.fits.month t'.fits.month, append_left_lt_iff,
    digits_append_lt_iff t.fits.day t'.fits.day, append_left_lt_iff,
    digits_append_lt_iff t.fits.hour t'.fits.hour, append_left_lt_iff,
    digits_append_lt_iff t.fits.minute t'.fits.minute, append_left_lt_iff,
    digits_append_lt_iff t.fits.second t'.fits.second, hrest]
  rfl

theorem text_stamp : text t.stamp = digits 4 t.time.year ++ ([] ++ (digits 2 t.time.month ++ ([] ++
    (digits 2 t.time.day ++ ([] ++ (digits 2 t.time.hour ++ ([] ++ (digits 2 t.time.minute ++ ([] ++
      (digits 2 t.time.second ++ digits 6 t.time.microsecond)))))))))) := by
  simp only [stamp, text_append, text_padded four_pos t.fits.year,
    text_padded two_pos t.fits.month, text_padded two_pos t.fits.day,
    text_padded two_pos t.fits.hour, text_padded two_pos t.fits.minute,
    text_padded two_pos t.fits.second, text_padded (by decide : 0 < 6) t.fits.microsecond,
    List.append_assoc, List.nil_append]

/-- The rounds are ordered as their instants. -/
theorem roundText_lt_iff : text t.roundId < text t'.roundId ↔ t.Before t' := by
  rw [roundId, roundId, text_append, text_append, append_left_lt_iff, text_stamp, text_stamp]
  exact fields_lt_iff t t' (digits_lt_digits_iff t.microsecond t'.microsecond)

/-- What `isoformat` writes after the seconds -/
def isoTail : Text :=
  (if t.time.microsecond = 0 then [] else '.'.codePoint :: digits 6 t.time.microsecond) ++
    text "+00:00"

theorem text_isoformat : text t.time.isoformat = digits 4 t.time.year ++ (text "-" ++
    (digits 2 t.time.month ++ (text "-" ++ (digits 2 t.time.day ++ (text "T" ++
      (digits 2 t.time.hour ++ (text ":" ++ (digits 2 t.time.minute ++ (text ":" ++
        (digits 2 t.time.second ++ t.isoTail)))))))))) := by
  have htail : text (if t.time.microsecond = 0 then "" else "." ++ padded 6 t.time.microsecond) ++
      text ((t.time.utcOffset.map DateTime.offsetText).getD "") = t.isoTail := by
    rw [t.utc, isoTail]
    congr 1
    split_ifs
    · rfl
    · rw [text_append, text_padded (by decide : 0 < 6) t.fits.microsecond]
      rfl
  rw [← htail, DateTime.isoformat]
  simp only [text_append, text_padded four_pos t.fits.year,
    text_padded two_pos t.fits.month, text_padded two_pos t.fits.day,
    text_padded two_pos t.fits.hour, text_padded two_pos t.fits.minute,
    text_padded two_pos t.fits.second, List.append_assoc]

/-- A time without a fraction comes before the times of its second with one. -/
theorem isoTail_lt_iff : t.isoTail < t'.isoTail ↔ t.time.microsecond < t'.time.microsecond := by
  have hoffset : text "+00:00" = '+'.codePoint :: text "00:00" := rfl
  rw [isoTail, isoTail]
  by_cases h : t.time.microsecond = 0
  · by_cases h' : t'.time.microsecond = 0
    · simp [h, h']
    · rw [if_pos h, if_neg h', hoffset]
      exact iff_of_true (List.cons_lt_cons_iff.mpr (.inl (by decide))) (by omega)
  · by_cases h' : t'.time.microsecond = 0
    · rw [if_neg h, if_pos h', hoffset, List.nil_append, List.cons_append, List.cons_lt_cons_iff]
      exact iff_of_false (by simp [Char.codePoint]) (by omega)
    · rw [if_neg h, if_neg h', List.cons_append, List.cons_append, List.cons_lt_cons_iff,
        digits_append_lt_iff t.fits.microsecond t'.fits.microsecond]
      simp

/-- The ends of windows are ordered as their instants. -/
theorem isoText_lt_iff : text t.time.isoformat < text t'.time.isoformat ↔ t.Before t' := by
  rw [text_isoformat, text_isoformat]
  exact fields_lt_iff t t' (isoTail_lt_iff t t')

/-! ## Time -/

variable {t t' : AcquisitionInstant}

/-- A day of a month comes before the months after it. -/
theorem dayOfYear_le (year : ℕ) {month month' : ℕ} (hmonth : 1 ≤ month) (hmonth' : month' ≤ 12)
    (h : month < month') :
    daysBeforeMonth year month + daysOfMonth year month ≤ daysBeforeMonth year month' := by
  rw [daysOfMonth, if_neg (by omega), daysBeforeMonth, daysBeforeMonth, daysBeforeMonth]
  interval_cases month' <;> interval_cases month <;> simp <;> split <;> omega

/-- A day lies within its year. -/
theorem dayOfYear_le_year (year : ℕ) {month : ℕ} (hmonth : 1 ≤ month) (hmonth' : month ≤ 12) :
    daysBeforeMonth year month + daysOfMonth year month ≤
      365 + if DateTime.isLeap year then 1 else 0 := by
  rw [daysOfMonth, daysBeforeMonth, daysBeforeMonth]
  interval_cases month <;> simp <;> split <;> simp_all

/-- The days of so many years -/
def daysOfYears (years : ℕ) : ℕ := years * 365 + years / 4 - years / 100 + years / 400

theorem daysOfYears_succ (years : ℕ) : daysOfYears (years + 1) =
    daysOfYears years + 365 + if DateTime.isLeap (years + 1) then 1 else 0 := by
  have hdiv (d : ℕ) : (years + 1) / d = years / d + if (years + 1) % d = 0 then 1 else 0 := by
    simp only [Nat.succ_div, Nat.dvd_iff_mod_eq_zero]
  have hle : years / 100 ≤ years / 4 := Nat.div_le_div_left (by norm_num) (by norm_num)
  have h4 : (years + 1) % 100 = 0 → (years + 1) % 4 = 0 := by omega
  have h100 : (years + 1) % 400 = 0 → (years + 1) % 100 = 0 := by omega
  rw [daysOfYears, daysOfYears, hdiv, hdiv, hdiv, DateTime.isLeap]
  generalize years / 4 = quarters, years / 100 = centuries at *
  by_cases hquarter : (years + 1) % 4 = 0 <;> by_cases hcentury : (years + 1) % 100 = 0 <;>
    by_cases hcycle : (years + 1) % 400 = 0 <;>
    simp [hquarter, hcentury, hcycle] at h4 h100 ⊢ <;> omega

theorem daysOfYears_mono {years years' : ℕ} (h : years ≤ years') :
    daysOfYears years ≤ daysOfYears years' :=
  monotone_nat_of_le_succ (fun n => by rw [daysOfYears_succ]; omega) h

theorem toOrdinal_eq (t : AcquisitionInstant) : t.time.toOrdinal =
    daysOfYears (t.time.year - 1) + daysBeforeMonth t.time.year t.time.month + t.time.day := rfl

theorem toOrdinal_lt (h : t.time.year < t'.time.year ∨ t.time.year = t'.time.year ∧
    (t.time.month < t'.time.month ∨ t.time.month = t'.time.month ∧ t.time.day < t'.time.day)) :
    t.time.toOrdinal < t'.time.toOrdinal := by
  have hday := t.day.2
  have hday' := t'.day.1
  rw [toOrdinal_eq, toOrdinal_eq]
  rcases h with hyear | ⟨hyear, hmonth | ⟨hmonth, hlt⟩⟩
  · obtain ⟨years, hyears⟩ := Nat.exists_eq_succ_of_ne_zero (show t.time.year ≠ 0 by
      have := t.year.1
      omega)
    have hwithin := dayOfYear_le_year t.time.year t.month.1 t.month.2
    have hmono := daysOfYears_mono (show years + 1 ≤ t'.time.year - 1 by omega)
    rw [daysOfYears_succ] at hmono
    rw [hyears] at hwithin hday ⊢
    rw [Nat.succ_eq_add_one, Nat.add_sub_cancel] at *
    omega
  · have hbefore := dayOfYear_le t.time.year t.month.1 t'.month.2 hmonth
    rw [← hyear]
    omega
  · rw [← hyear, ← hmonth]
    omega

/-- The microseconds of a day -/
def ofDay (t : AcquisitionInstant) : ℕ :=
  ((t.time.hour * 60 + t.time.minute) * 60 + t.time.second) * 1000000 + t.time.microsecond

theorem ofDay_lt_day (t : AcquisitionInstant) : t.ofDay < 86400000000 := by
  have hhour := t.hour
  have hminute := t.minute
  have hsecond := t.second
  have hmicrosecond := t.microsecond
  rw [ofDay]
  omega

theorem microseconds_eq (t : AcquisitionInstant) :
    t.microseconds = (t.time.toOrdinal * 86400000000 + t.ofDay : ℕ) := by
  rw [microseconds, DateTime.utcMicroseconds, DateTime.localMicroseconds, ofDay]
  push_cast
  ring

theorem ofDay_lt (h : t.time.hour < t'.time.hour ∨ t.time.hour = t'.time.hour ∧
    (t.time.minute < t'.time.minute ∨ t.time.minute = t'.time.minute ∧
      (t.time.second < t'.time.second ∨ t.time.second = t'.time.second ∧
        t.time.microsecond < t'.time.microsecond))) : t.ofDay < t'.ofDay := by
  have hminute := t.minute
  have hsecond := t.second
  have hmicrosecond := t.microsecond
  rw [ofDay, ofDay]
  omega

theorem microseconds_lt (h : t.Before t') : t.microseconds < t'.microseconds := by
  have hday := t.ofDay_lt_day
  rw [microseconds_eq, microseconds_eq, Nat.cast_lt]
  rcases h with h | ⟨hyear, h | ⟨hmonth, h | ⟨hdate, h⟩⟩⟩
  · have hordinal := toOrdinal_lt (.inl h)
    omega
  · have hordinal := toOrdinal_lt (.inr ⟨hyear, .inl h⟩)
    omega
  · have hordinal := toOrdinal_lt (.inr ⟨hyear, .inr ⟨hmonth, h⟩⟩)
    omega
  · have hordinal : t.time.toOrdinal = t'.time.toOrdinal := by
      rw [toOrdinal_eq, toOrdinal_eq, hyear, hmonth, hdate]
    have htime := ofDay_lt h
    omega

/-- Instants that neither comes before the other are at the same time. -/
theorem microseconds_eq_of_not_before (h : ¬t.Before t') (h' : ¬t'.Before t) :
    t.microseconds = t'.microseconds := by
  rw [Before] at h h'
  have hyear : t.time.year = t'.time.year := by omega
  have hmonth : t.time.month = t'.time.month := by omega
  have hdate : t.time.day = t'.time.day := by omega
  have hhour : t.time.hour = t'.time.hour := by omega
  have hminute : t.time.minute = t'.time.minute := by omega
  have hsecond : t.time.second = t'.time.second := by omega
  have hmicrosecond : t.time.microsecond = t'.time.microsecond := by omega
  rw [microseconds_eq, microseconds_eq, toOrdinal_eq, toOrdinal_eq, ofDay, ofDay, hyear, hmonth,
    hdate, hhour, hminute, hsecond, hmicrosecond]

theorem microseconds_lt_iff : t.microseconds < t'.microseconds ↔ t.Before t' := by
  refine ⟨fun h => ?_, microseconds_lt⟩
  by_contra hnot
  by_cases h' : t'.Before t
  · exact h.asymm (microseconds_lt h')
  · exact h.ne (microseconds_eq_of_not_before hnot h')

end AcquisitionInstant

end TruthFingerprint.EdgeNodes
