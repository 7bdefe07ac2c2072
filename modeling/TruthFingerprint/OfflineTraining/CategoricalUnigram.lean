import Mathlib

/-!
# Categorical detectors

The unigram detector scores a window by the mean cost of its tokens, where the cost of a token comes
from its smoothed frequency in the training windows. Token zero is padding. It is left out of the
counts, of the scores and of the hashed features, all of which depend on the other tokens only and not
on their order. But the denominator gives padding its share of the smoothing mass, so that the
probabilities of the other tokens never sum to one (`not_paddingIsNotBehaviour`).
-/

namespace TruthFingerprint.OfflineTraining

/-- A window of token ids: the features of each of its steps -/
abbrev TokenWindow := List (List ℤ)

/-- What `_CategoricalUnigramDetector` accepts -/
structure CategoricalUnigramDetector where
  alpha : ℚ
  vocabSize : ℕ
  alpha_pos : 0 < alpha
  two_le_vocabSize : 2 ≤ vocabSize

/-- Tokens that are the same, in whatever order and with whatever padding -/
def SameTokens (tokens tokens' : List ℤ) : Prop :=
  (tokens.filter (· ≠ 0)).Perm (tokens'.filter (· ≠ 0))

namespace CategoricalUnigramDetector

variable (detector : CategoricalUnigramDetector)

def InVocabulary (tokens : List ℤ) : Prop :=
  ∀ token ∈ tokens, 0 ≤ token ∧ token < detector.vocabSize

instance (tokens : List ℤ) : Decidable (detector.InVocabulary tokens) :=
  inferInstanceAs (Decidable (∀ token ∈ tokens, _))

/-! ## `fit` and `score` -/

/-- `bincount`, with no count for padding -/
def counts (tokens : List ℤ) : List ℕ :=
  (List.range detector.vocabSize).map fun token : ℕ =>
    if token = 0 then 0 else tokens.count (token : ℤ)

def denominator (tokens : List ℤ) : ℚ :=
  (detector.counts tokens).sum + detector.alpha * detector.vocabSize

def probabilities (tokens : List ℤ) : List ℚ :=
  (detector.counts tokens).map fun count : ℕ =>
    (count + detector.alpha) / detector.denominator tokens

variable {K : Type} [DivisionRing K]

/-- The costs of the tokens, with `negLog` for the negative logarithm -/
def fit (negLog : ℚ → K) (trainX : List TokenWindow) : Option (List K) :=
  let tokens := (trainX.map List.flatten).flatten
  if detector.InVocabulary tokens then some ((detector.probabilities tokens).map negLog) else none

def score (negativeLogProbability : List K) (window : TokenWindow) : Option K :=
  let flat := window.flatten
  if detector.InVocabulary flat then
    let costs := flat.map fun token => negativeLogProbability.getD token.toNat 0
    let mask : List K := flat.map fun token => if token ≠ 0 then 1 else 0
    some ((List.zipWith (· * ·) costs mask).sum / (max (flat.countP (· ≠ 0)) 1 : ℕ))
  else none

end CategoricalUnigramDetector

/-! ## `_window_features` -/

/-- The frequencies of the bins of the tokens -/
def hashedRow (hashBins : ℕ) (row : List ℤ) : List ℚ :=
  let nonPadding := row.filter (· ≠ 0)
  if nonPadding = [] then List.replicate hashBins 0
  else (List.range hashBins).map fun bin : ℕ =>
    ((nonPadding.countP fun token => token % (hashBins : ℤ) = (bin : ℤ) : ℕ) : ℚ) /
      nonPadding.length

/-- `_window_features` of the modality `categorical-syscall` -/
def windowFeatures (hashBins : ℕ) (x : List TokenWindow) : Option (List (List ℚ)) :=
  if hashBins < 2 then none else some (x.map fun window => hashedRow hashBins window.flatten)

/-! ## What does not depend on padding -/

section Padding

variable {detector : CategoricalUnigramDetector} {K : Type} [DivisionRing K]
  {tokens tokens' : List ℤ}

theorem SameTokens.of_perm (h : tokens.Perm tokens') : SameTokens tokens tokens' := h.filter _

theorem SameTokens.padded {padding : List ℤ} (h : ∀ token ∈ padding, token = 0) :
    SameTokens (tokens ++ padding) tokens := by
  have hnone : padding.filter (· ≠ 0) = [] := by
    rw [List.filter_eq_nil_iff]
    intro token htoken
    simp [h token htoken]
  rw [SameTokens, List.filter_append, hnone, List.append_nil]

theorem forall_mem_filter_ne {p : ℤ → Prop} (hzero : p 0) :
    (∀ token ∈ tokens.filter (· ≠ 0), p token) ↔ ∀ token ∈ tokens, p token := by
  constructor
  · intro h token htoken
    by_cases hpad : token = 0
    · exact hpad ▸ hzero
    · exact h token (List.mem_filter.mpr ⟨htoken, decide_eq_true hpad⟩)
  · exact fun h token htoken => h token (List.mem_of_mem_filter htoken)

/-- Padding is in every vocabulary. -/
theorem SameTokens.inVocabulary (h : SameTokens tokens tokens') :
    detector.InVocabulary tokens ↔ detector.InVocabulary tokens' := by
  have hsize := detector.two_le_vocabSize
  have hzero : (0 : ℤ) ≤ 0 ∧ (0 : ℤ) < detector.vocabSize := by omega
  rw [CategoricalUnigramDetector.InVocabulary, CategoricalUnigramDetector.InVocabulary,
    ← @forall_mem_filter_ne tokens _ hzero, ← @forall_mem_filter_ne tokens' _ hzero]
  exact forall_congr' fun token => imp_congr_left h.mem_iff

theorem SameTokens.counts (h : SameTokens tokens tokens') :
    detector.counts tokens = detector.counts tokens' := by
  refine List.map_congr_left fun token _ => ?_
  by_cases hpad : token = 0
  · rw [if_pos hpad, if_pos hpad]
  · have hcount (ts : List ℤ) : (ts.filter (· ≠ 0)).count (token : ℤ) = ts.count (token : ℤ) :=
      List.count_filter (by simpa using hpad)
    rw [if_neg hpad, if_neg hpad, ← hcount, h.count_eq, hcount]

theorem SameTokens.probabilities (h : SameTokens tokens tokens') :
    detector.probabilities tokens = detector.probabilities tokens' := by
  rw [CategoricalUnigramDetector.probabilities, CategoricalUnigramDetector.probabilities,
    CategoricalUnigramDetector.denominator, CategoricalUnigramDetector.denominator, h.counts]

omit [DivisionRing K] in
/-- The state that is fitted depends on the tokens of all windows together, without padding. -/
theorem fit_congr (negLog : ℚ → K) {trainX trainX' : List TokenWindow}
    (h : SameTokens (trainX.map List.flatten).flatten (trainX'.map List.flatten).flatten) :
    detector.fit negLog trainX = detector.fit negLog trainX' := by
  rw [CategoricalUnigramDetector.fit, CategoricalUnigramDetector.fit]
  simp only [h.inVocabulary, h.probabilities]

/-- The masked costs are those of the tokens that are not padding. -/
theorem sum_masked (cost : ℤ → K) (tokens : List ℤ) :
    (List.zipWith (· * ·) (tokens.map cost)
      (tokens.map fun token => if token ≠ 0 then (1 : K) else 0)).sum =
        ((tokens.filter (· ≠ 0)).map cost).sum := by
  induction tokens with
  | nil => rfl
  | cons token tokens ih =>
    rw [List.map_cons, List.map_cons, List.zipWith_cons_cons, List.sum_cons, ih]
    by_cases hpad : token = 0
    · rw [if_neg (not_not.mpr hpad), mul_zero, zero_add, List.filter_cons_of_neg (by simpa using hpad)]
    · rw [if_pos hpad, mul_one, List.filter_cons_of_pos (by simpa using hpad), List.map_cons,
        List.sum_cons]

theorem score_congr (costs : List K) {window window' : TokenWindow}
    (h : SameTokens window.flatten window'.flatten) :
    detector.score costs window = detector.score costs window' := by
  have hcount : window.flatten.countP (· ≠ 0) = window'.flatten.countP (· ≠ 0) := by
    rw [List.countP_eq_length_filter, List.countP_eq_length_filter]
    exact h.length_eq
  rw [CategoricalUnigramDetector.score, CategoricalUnigramDetector.score]
  simp only [h.inVocabulary, sum_masked, hcount, (h.map _).sum_eq]

theorem hashedRow_congr (hashBins : ℕ) (h : SameTokens tokens tokens') :
    hashedRow hashBins tokens = hashedRow hashBins tokens' := by
  have hnil : tokens.filter (· ≠ 0) = [] ↔ tokens'.filter (· ≠ 0) = [] := by
    rw [← List.length_eq_zero_iff, h.length_eq, List.length_eq_zero_iff]
  simp only [hashedRow, hnil, h.length_eq, h.countP_eq]

end Padding

/-! ## The smoothing mass of padding -/

section Smoothing

variable (detector : CategoricalUnigramDetector) (tokens : List ℤ)

theorem denominator_pos : 0 < detector.denominator tokens := by
  have hsize : (0 : ℚ) < detector.vocabSize :=
    Nat.cast_pos.mpr (two_pos.trans_le detector.two_le_vocabSize)
  have hmass := mul_pos detector.alpha_pos hsize
  rw [CategoricalUnigramDetector.denominator]
  positivity

theorem probabilities_pos : ∀ p ∈ detector.probabilities tokens, 0 < p := by
  intro p hp
  obtain ⟨count, -, rfl⟩ := List.mem_map.mp hp
  have halpha := detector.alpha_pos
  have hpos := denominator_pos detector tokens
  positivity

/-- The probabilities of all tokens sum to one, that of padding included. -/
theorem sum_probabilities : (detector.probabilities tokens).sum = 1 := by
  have hnumerators (counts : List ℕ) : (counts.map fun count : ℕ => (count + detector.alpha) /
      detector.denominator tokens).sum =
        ((counts.sum : ℕ) + detector.alpha * counts.length) / detector.denominator tokens := by
    induction counts with
    | nil => simp
    | cons count counts ih =>
      rw [List.map_cons, List.sum_cons, ih, List.sum_cons, List.length_cons]
      push_cast
      ring
  have hlength : (detector.counts tokens).length = detector.vocabSize := by
    rw [CategoricalUnigramDetector.counts, List.length_map, List.length_range]
  rw [CategoricalUnigramDetector.probabilities, hnumerators, hlength]
  exact div_self (denominator_pos detector tokens).ne'

/-- Padding has a probability of its own. -/
theorem probabilities_eq_cons : ∃ rest, detector.probabilities tokens =
    detector.alpha / detector.denominator tokens :: rest := by
  obtain ⟨size, hsize⟩ := Nat.exists_eq_succ_of_ne_zero
    (two_pos.trans_le detector.two_le_vocabSize).ne'
  rw [CategoricalUnigramDetector.probabilities, CategoricalUnigramDetector.counts, hsize,
    Nat.succ_eq_add_one, List.range_succ_eq_map, List.map_cons, List.map_cons, if_pos rfl,
    Nat.cast_zero, zero_add]
  exact ⟨_, rfl⟩

/-- The other tokens have what padding leaves. -/
theorem sum_tail_probabilities : (detector.probabilities tokens).tail.sum =
    1 - detector.alpha / detector.denominator tokens := by
  obtain ⟨rest, hrest⟩ := probabilities_eq_cons detector tokens
  have hsum := sum_probabilities detector tokens
  rw [hrest, List.sum_cons] at hsum
  rw [hrest, List.tail_cons, ← hsum]
  ring

end Smoothing

/-- The probabilities of the tokens other than padding are positive and sum to one, and neither
padding nor the order of tokens matters to what is fitted, scored and hashed. -/
structure PaddingIsNotBehaviour {K : Type} [DivisionRing K] (detector : CategoricalUnigramDetector)
    (negLog : ℚ → K) (trainX : List TokenWindow) : Prop where
  positive : ∀ p ∈ (detector.probabilities (trainX.map List.flatten).flatten).tail, 0 < p
  normalized : (detector.probabilities (trainX.map List.flatten).flatten).tail.sum = 1
  fitted : ∀ trainX' : List TokenWindow,
    SameTokens (trainX.map List.flatten).flatten (trainX'.map List.flatten).flatten →
      detector.fit negLog trainX = detector.fit negLog trainX'
  scored : ∀ costs : List K, detector.fit negLog trainX = some costs →
    ∀ window window' : TokenWindow, SameTokens window.flatten window'.flatten →
      detector.score costs window = detector.score costs window'
  hashed : ∀ (hashBins : ℕ) (window window' : TokenWindow),
    SameTokens window.flatten window'.flatten →
      windowFeatures hashBins [window] = windowFeatures hashBins [window']

/-- Only the sum of the probabilities fails, and it fails always. -/
theorem paddingIsNotBehaviour_iff {K : Type} [DivisionRing K]
    (detector : CategoricalUnigramDetector) (negLog : ℚ → K) (trainX : List TokenWindow) :
    PaddingIsNotBehaviour detector negLog trainX ↔
      (detector.probabilities (trainX.map List.flatten).flatten).tail.sum = 1 := by
  refine ⟨PaddingIsNotBehaviour.normalized, fun hsum => ⟨fun p hp => ?_, hsum, fun _ => fit_congr _,
    fun costs _ _ _ => score_congr costs, fun hashBins window window' h => ?_⟩⟩
  · exact probabilities_pos _ _ p (List.mem_of_mem_tail hp)
  · rw [windowFeatures, windowFeatures, List.map_singleton, List.map_singleton,
      hashedRow_congr hashBins h]

/-- Padding keeps a share of the smoothing mass for every vocabulary and all training windows. -/
theorem not_paddingIsNotBehaviour {K : Type} [DivisionRing K]
    (detector : CategoricalUnigramDetector) (negLog : ℚ → K) (trainX : List TokenWindow) :
    ¬PaddingIsNotBehaviour detector negLog trainX := by
  rw [paddingIsNotBehaviour_iff, sum_tail_probabilities, sub_eq_self]
  exact (div_pos detector.alpha_pos (denominator_pos _ _)).ne'

/-- A window of one token of a vocabulary with padding: the token has two thirds of the mass. -/
theorem one_token_not_normalized :
    ((⟨1, 2, one_pos, le_rfl⟩ : CategoricalUnigramDetector).probabilities
        (([[[1]]] : List TokenWindow).map List.flatten).flatten).tail = [2 / 3] ∧
      ([2 / 3] : List ℚ).sum ≠ 1 := by
  decide +kernel

end TruthFingerprint.OfflineTraining
