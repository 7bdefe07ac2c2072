import Mathlib

/-!
# The least number that is enough

A bracket is doubled until its end is enough or the cap is reached, and then halved. Where a number
is enough when a smaller one is, the result is the least one (`leastFrom_eq_some`), and there is
none if the cap is not enough.
-/

namespace LeastSearch

variable (enough : ℕ → Bool)

/-- The end of the bracket, doubled up to the cap -/
def grow (cap upper : ℕ) (hpos : 0 < upper) : Option ℕ :=
  if enough upper then some upper
  else if hcap : cap ≤ upper then none
  else grow cap (min (upper * 2) cap) (by omega)
termination_by cap - upper

def bisect (lower upper : ℕ) : ℕ :=
  if lower < upper then
    if enough ((lower + upper) / 2) then bisect lower ((lower + upper) / 2)
    else bisect ((lower + upper) / 2 + 1) upper
  else lower
termination_by upper - lower

def leastFrom (cap start : ℕ) (hpos : 0 < start) : Option ℕ :=
  (grow enough cap start hpos).map (bisect enough start)

variable {enough : ℕ → Bool} {start cap lower upper n : ℕ}

/-- From a number on, what is above something that is enough is enough. -/
def UpwardFrom (start : ℕ) (enough : ℕ → Bool) : Prop :=
  ∀ m n, start ≤ m → m ≤ n → enough m → enough n

theorem grow_eq_some {hpos : 0 < upper} (hle : upper ≤ cap)
    (h : grow enough cap upper hpos = some n) : enough n ∧ upper ≤ n ∧ n ≤ cap := by
  fun_induction grow enough cap upper hpos with
  | case1 upper hpos henough =>
    cases h
    exact ⟨henough, le_rfl, hle⟩
  | case2 => cases h
  | case3 upper hpos henough hcap ih =>
    obtain ⟨hn, hfrom, hto⟩ := ih (min_le_right _ _) h
    exact ⟨hn, by omega, hto⟩

/-- There is no bracket when the cap is not enough. -/
theorem grow_eq_none_iff {hpos : 0 < upper} (hle : upper ≤ cap) (hupward : UpwardFrom upper enough) :
    grow enough cap upper hpos = none ↔ ¬enough cap := by
  fun_induction grow enough cap upper hpos with
  | case1 upper hpos henough => simpa using hupward upper cap le_rfl hle henough
  | case2 upper hpos henough hcap =>
    obtain rfl : upper = cap := le_antisymm hle hcap
    simpa using henough
  | case3 upper hpos henough hcap ih =>
    exact ih (min_le_right _ _) fun m n hm hmn => hupward m n (by omega) hmn

/-- The loop keeps the least number between its ends. -/
theorem bisect_spec (hle : lower ≤ upper) (henough : enough upper)
    (hupward : UpwardFrom lower enough) :
    lower ≤ bisect enough lower upper ∧ enough (bisect enough lower upper) ∧
      ∀ m, lower ≤ m → m < bisect enough lower upper → ¬enough m := by
  fun_induction bisect enough lower upper with
  | case1 lower upper hlt hmid ih => exact ih (by omega) hmid hupward
  | case2 lower upper hlt hmid ih =>
    obtain ⟨hfrom, hn, hleast⟩ := ih (by omega) henough fun m n hm => hupward m n (by omega)
    refine ⟨by omega, hn, fun m hm hlt' => ?_⟩
    by_cases hbelow : m ≤ (lower + upper) / 2
    · exact fun hm' => hmid (hupward m _ hm hbelow hm')
    · exact hleast m (by omega) hlt'
  | case3 lower upper hlt =>
    obtain rfl : lower = upper := by omega
    exact ⟨le_rfl, henough, fun m hm hlt' => absurd hlt' (not_lt.mpr hm)⟩

theorem leastFrom_eq_none_iff {hpos : 0 < start} (hle : start ≤ cap)
    (hupward : UpwardFrom start enough) :
    leastFrom enough cap start hpos = none ↔ ¬enough cap := by
  rw [leastFrom, Option.map_eq_none_iff, grow_eq_none_iff hle hupward]

/-- What is found is the least number from the start on that is enough. -/
theorem leastFrom_eq_some {hpos : 0 < start} (hle : start ≤ cap)
    (hupward : UpwardFrom start enough) (h : leastFrom enough cap start hpos = some n) :
    start ≤ n ∧ enough n ∧ ∀ m, start ≤ m → m < n → ¬enough m := by
  obtain ⟨upper, hgrow, rfl⟩ := Option.map_eq_some_iff.mp h
  obtain ⟨henough, hfrom, -⟩ := grow_eq_some hle hgrow
  exact bisect_spec hfrom henough hupward

end LeastSearch
