import Mathlib
import TruthFingerprint.Lib.DecimalText

/-!
# Numbers of a fixed width

Numbers that are written with the same number of digits are ordered as their texts are
(`digits_lt_digits_iff`), and so are texts that begin with them (`digits_append_lt_iff`).
-/

namespace FixedWidth

section Append

variable {α : Type*} [LinearOrder α] {s t s' t' : List α}

/-- Texts that begin with parts of one length are compared at these first. -/
theorem append_lt_append_iff (h : s.length = t.length) :
    s ++ s' < t ++ t' ↔ s < t ∨ s = t ∧ s' < t' := by
  induction s generalizing t with
  | nil =>
    obtain rfl : t = [] := List.length_eq_zero_iff.mp h.symm
    simp
  | cons a s ih =>
    cases t with
    | nil => cases h
    | cons b t =>
      rw [List.cons_append, List.cons_append, List.cons_lt_cons_iff, List.cons_lt_cons_iff,
        ih (Nat.succ.inj h), List.cons.injEq]
      tauto

/-- A common beginning does not matter. -/
theorem append_left_lt_iff : s ++ s' < s ++ t' ↔ s' < t' := by
  rw [append_lt_append_iff rfl]
  simp

end Append

open DecimalText (digitChar)

/-- The digits of a number in some width -/
def digits : ℕ → ℕ → Text
  | 0, _ => []
  | width + 1, n => digits width (n / 10) ++ [digitChar (n % 10)]

variable {width m n : ℕ} {s t : Text}

@[simp] theorem length_digits (width n : ℕ) : (digits width n).length = width := by
  induction width generalizing n with
  | zero => rfl
  | succ width ih => rw [digits, List.length_append, ih, List.length_singleton]

theorem digitChar_lt_iff (hm : m < 10) (hn : n < 10) : digitChar m < digitChar n ↔ m < n := by
  rw [Fin.lt_def, DecimalText.val_digitChar hm, DecimalText.val_digitChar hn]
  omega

theorem digits_lt_digits (hm : m < 10 ^ width) (hn : n < 10 ^ width) (h : m < n) :
    digits width m < digits width n := by
  induction width generalizing m n with
  | zero => omega
  | succ width ih =>
    rw [pow_succ] at hm hn
    rw [digits, digits, append_lt_append_iff (by simp)]
    rcases (Nat.div_le_div_right h.le : m / 10 ≤ n / 10).lt_or_eq with hlt | heq
    · exact .inl (ih (by omega) (by omega) hlt)
    · refine .inr ⟨by rw [heq], List.cons_lt_cons_iff.mpr (.inl ?_)⟩
      rw [digitChar_lt_iff (by omega) (by omega)]
      omega

theorem digits_lt_digits_iff (hm : m < 10 ^ width) (hn : n < 10 ^ width) :
    digits width m < digits width n ↔ m < n := by
  refine ⟨fun h => ?_, digits_lt_digits hm hn⟩
  rcases lt_trichotomy m n with hlt | rfl | hgt
  · exact hlt
  · exact absurd h (lt_irrefl _)
  · exact absurd h (digits_lt_digits hn hm hgt).not_gt

theorem digits_inj (hm : m < 10 ^ width) (hn : n < 10 ^ width) :
    digits width m = digits width n ↔ m = n := by
  refine ⟨fun h => ?_, congrArg _⟩
  rcases lt_trichotomy m n with hlt | heq | hgt
  · exact absurd h (digits_lt_digits hm hn hlt).ne
  · exact heq
  · exact absurd h (digits_lt_digits hn hm hgt).ne'

/-- Texts that begin with numbers of one width are compared at the numbers first. -/
theorem digits_append_lt_iff (hm : m < 10 ^ width) (hn : n < 10 ^ width) :
    digits width m ++ s < digits width n ++ t ↔ m < n ∨ m = n ∧ s < t := by
  rw [append_lt_append_iff (by simp), digits_lt_digits_iff hm hn, digits_inj hm hn]

end FixedWidth
