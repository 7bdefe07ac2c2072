import Mathlib
import TruthFingerprint.Lib.RankSums

/-!
# Curves over cuts

A cut splits scores into those below it and the others. Cuts between all different scores, with one
below and one above them, split the scores in every way there is (`exists_cut`). The shares of two
lists of scores at descending cuts are a curve from (0, 0) to (1, 1), and with a cut between all
different scores the area under it is the share of the pairs that are ordered right
(`area_eq_mannWhitney`).
-/

namespace RocCurves

open RankSums

variable {K : Type*} [Field K] [LinearOrder K] [IsStrictOrderedRing K]

local instance atLeastTwo_halves : Nat.AtLeastTwo 2 := ⟨le_rfl⟩

/-! ## Cuts -/

/-- The cuts after a value: the means of neighbours, and one above the last value -/
def cutsAfter (above : K → K) : K → List K → List K
  | a, [] => [above a]
  | a, b :: values => (a + b) / 2 :: cutsAfter above b values

/-- Between two cuts lies one value at most. -/
def Narrow (scores : List K) (low high : K) : Prop :=
  low < high ∧ ∀ x ∈ scores, ∀ y ∈ scores, low ≤ x → x < high → low ≤ y → y < high → x = y

section Cuts

variable {above : K → K} {scores values : List K} {a low : K}

omit [LinearOrder K] [IsStrictOrderedRing K] in
theorem cutsAfter_ne_nil (above : K → K) (a : K) (values : List K) :
    cutsAfter above a values ≠ [] := by
  cases values <;> simp [cutsAfter]

/-- The cuts after a value are narrow, when the scores from the cut before it on are it and the
values after it. -/
theorem isChain_cutsAfter (habove : ∀ x, x < above x) (hsorted : (a :: values).Pairwise (· < ·))
    (hscores : ∀ x ∈ scores, x ≤ a ∨ x ∈ values) (hlow : low ≤ a)
    (hfrom : ∀ x ∈ scores, low ≤ x → a ≤ x) :
    (low :: cutsAfter above a values).IsChain (Narrow scores) := by
  induction values generalizing a low with
  | nil =>
    have hone : ∀ x ∈ scores, low ≤ x → x = a := by
      intro x hx hle
      exact le_antisymm ((hscores x hx).resolve_right List.not_mem_nil) (hfrom x hx hle)
    refine .cons_cons ⟨hlow.trans_lt (habove a), ?_⟩ (.singleton _)
    intro x hx y hy hlx _ hly _
    rw [hone x hx hlx, hone y hy hly]
  | cons b values ih =>
    obtain ⟨hab, hrest⟩ := List.pairwise_cons.mp hsorted
    have hab : a < b := hab b List.mem_cons_self
    have hmid : a < (a + b) / 2 := left_lt_add_div_two.mpr hab
    have hmid' : (a + b) / 2 < b := add_div_two_lt_right.mpr hab
    have hafter : ∀ x ∈ b :: values, b ≤ x := by
      intro x hx
      rcases List.mem_cons.mp hx with rfl | hx
      · exact le_rfl
      · exact ((List.pairwise_cons.mp hrest).1 x hx).le
    have hone : ∀ x ∈ scores, low ≤ x → x < (a + b) / 2 → x = a := by
      intro x hx hle hlt
      rcases hscores x hx with hxa | hxb
      · exact le_antisymm hxa (hfrom x hx hle)
      · exact absurd (hafter x hxb) (not_le.mpr (hlt.trans hmid'))
    refine .cons_cons ⟨hlow.trans_lt hmid, ?_⟩ (ih hrest ?_ hmid'.le ?_)
    · intro x hx y hy hlx hxm hly hym
      rw [hone x hx hlx hxm, hone y hy hly hym]
    · intro x hx
      rcases hscores x hx with hxa | hxb
      · exact .inl (hxa.trans hab.le)
      · exact (List.mem_cons.mp hxb).imp le_of_eq id
    · intro x hx hle
      rcases hscores x hx with hxa | hxb
      · exact absurd hle (not_le.mpr (hxa.trans_lt hmid))
      · exact hafter x hxb

omit [IsStrictOrderedRing K] in
/-- The last cut is above the values. -/
theorem lt_getLast_cutsAfter (habove : ∀ x, x < above x) (hsorted : (a :: values).Pairwise (· < ·)) :
    ∀ x ∈ a :: values, x < (cutsAfter above a values).getLast (cutsAfter_ne_nil above a values) := by
  induction values generalizing a with
  | nil => simpa [cutsAfter] using habove a
  | cons b values ih =>
    obtain ⟨hab, hrest⟩ := List.pairwise_cons.mp hsorted
    have hlast := ih hrest
    intro x hx
    simp only [cutsAfter]
    rw [List.getLast_cons (cutsAfter_ne_nil above b values)]
    rcases List.mem_cons.mp hx with rfl | hx
    · exact (hab b List.mem_cons_self).trans (hlast b List.mem_cons_self)
    · exact hlast x hx

end Cuts

/-! ## Every split has a cut -/

section Splits

variable {scores cuts : List K} {low t : K}

omit [Field K] [IsStrictOrderedRing K] in
/-- After a cut that leaves some score below the threshold with the others, a cut splits as the
threshold does. -/
theorem exists_cut_after (hchain : (low :: cuts).IsChain (Narrow scores))
    (hlast : ∀ x ∈ scores, x < (low :: cuts).getLast (List.cons_ne_nil _ _))
    (hlow : ∃ y ∈ scores, low ≤ y ∧ y < t) : ∃ c ∈ cuts, ∀ x ∈ scores, t ≤ x ↔ c ≤ x := by
  induction cuts generalizing low with
  | nil =>
    obtain ⟨y, hy, hle, -⟩ := hlow
    exact absurd (hlast y hy) (not_lt.mpr hle)
  | cons c cuts ih =>
    obtain ⟨⟨-, hnarrow⟩, hrest⟩ := List.isChain_cons_cons.mp hchain
    obtain ⟨y, hy, hle, hyt⟩ := hlow
    by_cases hc : ∀ x ∈ scores, c ≤ x → t ≤ x
    · -- the first cut above every score that is below the threshold
      refine ⟨c, List.mem_cons_self, fun x hx => ⟨fun htx => ?_, hc x hx⟩⟩
      by_contra hxc
      have hyc : y < c := lt_of_not_ge fun hcy => absurd (hc y hy hcy) (not_le.mpr hyt)
      have heq := hnarrow x hx y hy (hle.trans (hyt.le.trans htx)) (not_le.mp hxc) hle hyc
      exact absurd htx (not_le.mpr (heq ▸ hyt))
    · push Not at hc
      have hlast' : ∀ x ∈ scores, x < (c :: cuts).getLast (List.cons_ne_nil _ _) := by
        intro x hx
        have := hlast x hx
        rwa [List.getLast_cons (List.cons_ne_nil _ _)] at this
      obtain ⟨cut, hcut, hsplit⟩ := ih hrest hlast' hc
      exact ⟨cut, List.mem_cons_of_mem _ hcut, hsplit⟩

omit [Field K] [IsStrictOrderedRing K] in
/-- Narrow cuts split the scores in every way. -/
theorem exists_cut (hchain : (low :: cuts).IsChain (Narrow scores))
    (hfirst : ∀ x ∈ scores, low ≤ x)
    (hlast : ∀ x ∈ scores, x < (low :: cuts).getLast (List.cons_ne_nil _ _)) (t : K) :
    ∃ c ∈ low :: cuts, ∀ x ∈ scores, t ≤ x ↔ c ≤ x := by
  by_cases hlow : ∃ y ∈ scores, y < t
  · obtain ⟨y, hy, hyt⟩ := hlow
    obtain ⟨c, hc, hsplit⟩ := exists_cut_after hchain hlast ⟨y, hy, hfirst y hy, hyt⟩
    exact ⟨c, List.mem_cons_of_mem _ hc, hsplit⟩
  · push Not at hlow
    exact ⟨low, List.mem_cons_self, fun x hx => iff_of_true (hlow x hx) (hfirst x hx)⟩

end Splits

/-! ## The area under a curve -/

/-- The area under a curve, by trapezoids -/
def trapezoidArea : List (K × K) → K
  | p :: q :: points => (q.1 - p.1) * (p.2 + q.2) / 2 + trapezoidArea (q :: points)
  | _ => 0

/-- The shares of two lists of scores that are not below a cut, that of the second one first -/
def cutPoint (l l' : List K) (t : K) : K × K :=
  ((l'.countP (t ≤ ·) : K) / l'.length, (l.countP (t ≤ ·) : K) / l.length)

section Counts

variable {α : Type*} {p q r : α → Bool} {l : List α}

/-- Elements of two kinds that exclude each other are counted apart. -/
theorem countP_eq_add (h : ∀ x ∈ l, p x = (q x || r x)) (hdisjoint : ∀ x ∈ l, q x → r x = false) :
    l.countP p = l.countP q + l.countP r := by
  induction l with
  | nil => rfl
  | cons x l ih =>
    obtain ⟨hx, hrest⟩ := List.forall_mem_cons.mp h
    obtain ⟨hxq, hrest'⟩ := List.forall_mem_cons.mp hdisjoint
    rw [List.countP_cons, List.countP_cons, List.countP_cons, ih hrest hrest', hx]
    cases hq : q x with
    | false =>
      simp
      omega
    | true =>
      simp [hxq hq]
      omega

omit [LinearOrder K] [IsStrictOrderedRing K] in
theorem sum_map_ite (l : List α) (p : α → Bool) (c : K) :
    (l.map fun x => if p x then c else 0).sum = l.countP p * c := by
  induction l with
  | nil => simp
  | cons x l ih =>
    rw [List.map_cons, List.sum_cons, ih, List.countP_cons]
    split_ifs
    · push_cast
      ring
    · push_cast
      ring

end Counts

section Area

variable {l l' cuts : List K} {t b y : K}

/-- How much is won over one score -/
def lossesTo (l : List K) (y : K) : K := (l.map (wins [y])).sum

theorem lossesTo_eq (l : List K) (y : K) :
    lossesTo l y = l.countP (y < ·) + l.countP (· = y) / 2 := by
  induction l with
  | nil => simp [lossesTo]
  | cons x l ih =>
    have hx : wins [y] x = (if y < x then 1 else 0) + (if x = y then 1 else 0) / 2 := by
      rcases lt_trichotomy y x with h | rfl | h
      · simp [wins, h, h.ne, h.ne']
      · simp [wins]
      · simp [wins, h.ne, h.ne', not_lt.mpr h.le]
    rw [lossesTo, List.map_cons, List.sum_cons, ← lossesTo, ih, hx, List.countP_cons,
      List.countP_cons]
    simp only [decide_eq_true_eq]
    push_cast
    ring

/-- All that is won over the second list is won over its scores one by one. -/
theorem sum_lossesTo (l l' : List K) : (l'.map (lossesTo l)).sum = (l.map (wins l')).sum := by
  induction l' with
  | nil =>
    rw [List.map_congr_left fun x _ => wins_nil x]
    simp
  | cons y l' ih =>
    rw [List.map_cons, List.sum_cons, ih, lossesTo, ← List.sum_map_add]
    exact congrArg List.sum (List.map_congr_left fun x _ => (wins_cons y l' x).symm)

/-- Between narrow cuts the two ends of a step give what is won over a score between them. -/
theorem lossesTo_of_narrow (h : Narrow (l ++ l') b t) (hy : y ∈ l') (hby : b ≤ y) (hyt : y < t) :
    lossesTo l y = ((l.countP (t ≤ ·) : K) + l.countP (b ≤ ·)) / 2 := by
  have hequal : ∀ x ∈ l, b ≤ x → x < t → x = y := fun x hx hbx hxt =>
    h.2 x (List.mem_append_left _ hx) y (List.mem_append_right _ hy) hbx hxt hby hyt
  have habove : l.countP (y < ·) = l.countP (t ≤ ·) := by
    refine List.countP_congr fun x hx => ?_
    simp only [decide_eq_true_eq]
    constructor
    · intro hyx
      by_contra hxt
      exact absurd (hequal x hx (hby.trans hyx.le) (not_le.mp hxt)) hyx.ne'
    · exact hyt.trans_le
  have hsplit : l.countP (b ≤ ·) = l.countP (t ≤ ·) + l.countP (· = y) := by
    refine countP_eq_add (fun x hx => ?_) fun x hx htx => ?_
    · rw [← Bool.decide_or, decide_eq_decide]
      constructor
      · intro hbx
        exact (le_or_gt t x).imp_right (hequal x hx hbx)
      · rintro (htx | rfl)
        · exact h.1.le.trans htx
        · exact hby
    · exact decide_eq_false fun hxy => absurd (of_decide_eq_true htx) (not_le.mpr (hxy ▸ hyt))
  rw [lossesTo_eq, habove, hsplit]
  push_cast
  ring

/-- A step of the curve covers what is won over the scores between its cuts. -/
theorem trapezoid_of_narrow (h : Narrow (l ++ l') b t) (hl : l ≠ []) (hl' : l' ≠ []) :
    ((cutPoint l l' b).1 - (cutPoint l l' t).1) *
        ((cutPoint l l' t).2 + (cutPoint l l' b).2) / 2 * (l.length * l'.length) =
      (l'.map fun y => if b ≤ y ∧ y < t then lossesTo l y else 0).sum := by
  have hpos : (0 : K) < l.length := by exact_mod_cast List.length_pos_of_ne_nil hl
  have hpos' : (0 : K) < l'.length := by exact_mod_cast List.length_pos_of_ne_nil hl'
  have hconst : ∀ y ∈ l', (if b ≤ y ∧ y < t then lossesTo l y else 0) =
      if decide (b ≤ y ∧ y < t) then ((l.countP (t ≤ ·) : K) + l.countP (b ≤ ·)) / 2 else 0 := by
    intro y hy
    by_cases hbetween : b ≤ y ∧ y < t
    · rw [if_pos hbetween, if_pos (decide_eq_true hbetween),
        lossesTo_of_narrow h hy hbetween.1 hbetween.2]
    · rw [if_neg hbetween, if_neg (by simpa using hbetween)]
  have hcount : l'.countP (b ≤ ·) = l'.countP (t ≤ ·) + l'.countP (fun y => b ≤ y ∧ y < t) := by
    refine countP_eq_add (fun y _ => ?_) fun y _ hty => ?_
    · rw [← Bool.decide_or, decide_eq_decide]
      constructor
      · exact fun hby => (le_or_gt t y).imp_right fun hyt => ⟨hby, hyt⟩
      · exact fun hy => hy.elim h.1.le.trans And.left
    · exact decide_eq_false fun hy => absurd (of_decide_eq_true hty) (not_le.mpr hy.2)
  rw [List.map_congr_left hconst, sum_map_ite, cutPoint, cutPoint, hcount]
  push_cast
  field_simp
  ring

/-- The area from a cut on is what is won over the scores below it. -/
theorem trapezoidArea_cuts (hl : l ≠ []) (hl' : l' ≠ [])
    (hchain : (t :: cuts).IsChain fun high low => Narrow (l ++ l') low high)
    (hlast : ∀ y ∈ l', (t :: cuts).getLast (List.cons_ne_nil _ _) ≤ y) :
    trapezoidArea ((t :: cuts).map (cutPoint l l')) * (l.length * l'.length) =
      (l'.map fun y => if y < t then lossesTo l y else 0).sum := by
  induction cuts generalizing t with
  | nil =>
    have hzero : ∀ y ∈ l', (if y < t then lossesTo l y else 0) = 0 :=
      fun y hy => if_neg (not_lt.mpr (hlast y hy))
    rw [List.map_congr_left hzero]
    simp [trapezoidArea]
  | cons b cuts ih =>
    obtain ⟨hnarrow, hrest⟩ := List.isChain_cons_cons.mp hchain
    have hlast' : ∀ y ∈ l', (b :: cuts).getLast (List.cons_ne_nil _ _) ≤ y := by
      intro y hy
      have hle := hlast y hy
      rwa [List.getLast_cons (List.cons_ne_nil _ _)] at hle
    have hsplit : ∀ y ∈ l', (if y < t then lossesTo l y else 0) =
        (if b ≤ y ∧ y < t then lossesTo l y else 0) + if y < b then lossesTo l y else 0 := by
      intro y _
      rcases lt_or_ge y b with hyb | hby
      · simp [hyb, hyb.trans hnarrow.1, not_le.mpr hyb]
      · simp [hby, not_lt.mpr hby]
    rw [List.map_congr_left hsplit, List.sum_map_add, ← ih hrest hlast',
      ← trapezoid_of_narrow hnarrow hl hl']
    simp only [List.map_cons, trapezoidArea]
    ring

/-- The area under the curve over narrow cuts that begin above all scores and end below them -/
theorem area_eq_mannWhitney (hl : l ≠ []) (hl' : l' ≠ [])
    (hchain : (t :: cuts).IsChain fun high low => Narrow (l ++ l') low high)
    (hfirst : ∀ y ∈ l', y < t)
    (hlast : ∀ y ∈ l', (t :: cuts).getLast (List.cons_ne_nil _ _) ≤ y) :
    trapezoidArea ((t :: cuts).map (cutPoint l l')) = mannWhitney l l' := by
  have hpos : (0 : K) < l.length := by exact_mod_cast List.length_pos_of_ne_nil hl
  have hpos' : (0 : K) < l'.length := by exact_mod_cast List.length_pos_of_ne_nil hl'
  have harea := trapezoidArea_cuts hl hl' hchain hlast
  rw [List.map_congr_left fun y hy => if_pos (hfirst y hy), sum_lossesTo] at harea
  rw [mannWhitney_eq, ← harea, mul_div_cancel_right₀ _ (mul_pos hpos hpos').ne']

/-- Lower cuts have greater shares. -/
theorem cutPoint_le (h : b ≤ t) :
    (cutPoint l l' t).1 ≤ (cutPoint l l' b).1 ∧ (cutPoint l l' t).2 ≤ (cutPoint l l' b).2 := by
  have hcount : ∀ m : List K, (m.countP (t ≤ ·) : K) ≤ m.countP (b ≤ ·) := by
    intro m
    exact_mod_cast List.countP_mono_left fun x _ hx =>
      decide_eq_true (h.trans (of_decide_eq_true hx))
  exact ⟨div_le_div_of_nonneg_right (hcount l') (Nat.cast_nonneg _),
    div_le_div_of_nonneg_right (hcount l) (Nat.cast_nonneg _)⟩

omit [IsStrictOrderedRing K] in
theorem cutPoint_eq_zero (hl : ∀ x ∈ l, x < t) (hl' : ∀ y ∈ l', y < t) :
    cutPoint l l' t = (0, 0) := by
  have hzero : ∀ m : List K, (∀ x ∈ m, x < t) → m.countP (t ≤ ·) = 0 :=
    fun m hm => List.countP_eq_zero.mpr fun x hx => by simpa using hm x hx
  simp [cutPoint, hzero l hl, hzero l' hl']

theorem cutPoint_eq_one (hl : l ≠ []) (hl' : l' ≠ []) (h : ∀ x ∈ l, t ≤ x) (h' : ∀ y ∈ l', t ≤ y) :
    cutPoint l l' t = (1, 1) := by
  have hall : ∀ m : List K, (∀ x ∈ m, t ≤ x) → m.countP (t ≤ ·) = m.length :=
    fun m hm => List.countP_eq_length.mpr fun x hx => decide_eq_true (hm x hx)
  have hpos : (l.length : K) ≠ 0 := by exact_mod_cast (List.length_pos_of_ne_nil hl).ne'
  have hpos' : (l'.length : K) ≠ 0 := by exact_mod_cast (List.length_pos_of_ne_nil hl').ne'
  rw [cutPoint, hall l h, hall l' h', div_self hpos, div_self hpos']

end Area

end RocCurves
