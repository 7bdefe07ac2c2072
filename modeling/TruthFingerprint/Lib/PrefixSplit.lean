import Mathlib

/-!
# Cutting groups in two

Groups in an order are cut into the first and the others, so that both have at least so many elements
and the number of the first is as near as possible to a target. A cut is found if and only if there is one
(`best_eq_none_iff`), and no other is nearer to the target (`best_eq_some`).
-/

namespace PrefixSplit

variable {F : Type} [Field F] [LinearOrder F]

/-- How many elements the first groups have -/
def before (counts : List ℕ) (boundary : ℕ) : ℕ := (counts.take boundary).sum

/-- Both parts have groups, and enough elements of a total. -/
structure Admissible (least total : ℕ) (counts : List ℕ) (boundary : ℕ) : Prop where
  pos : 1 ≤ boundary
  lt : boundary < counts.length
  first : least ≤ before counts boundary
  second : least ≤ total - before counts boundary

def distance (target : F) (counts : List ℕ) (boundary : ℕ) : F := |before counts boundary - target|

/-- A cut with its distance from the target, and what the parts have -/
def candidate (target : F) (total : ℕ) (counts : List ℕ) (boundary : ℕ) : F ×ₗ ℕ ×ₗ ℕ ×ₗ ℕ :=
  toLex (distance target counts boundary, toLex (boundary,
    toLex (before counts boundary, total - before counts boundary)))

def candidates (target : F) (least total : ℕ) (counts : List ℕ) : List (F ×ₗ ℕ ×ₗ ℕ ×ₗ ℕ) :=
  (List.range' 1 (counts.length - 1)).filterMap fun boundary =>
    if least ≤ before counts boundary ∧ least ≤ total - before counts boundary then
      some (candidate target total counts boundary)
    else none

/-- The boundary of the least candidate, and what its parts have -/
def best (target : F) (least total : ℕ) (counts : List ℕ) : Option (ℕ × ℕ × ℕ) :=
  (candidates target least total counts).min?.map fun c =>
    ((ofLex (ofLex c).2).1, ofLex (ofLex (ofLex c).2).2)

variable {target : F} {least total : ℕ} {counts : List ℕ} {c : F ×ₗ ℕ ×ₗ ℕ ×ₗ ℕ}
  {cut : ℕ × ℕ × ℕ}

theorem mem_candidates : c ∈ candidates target least total counts ↔
    ∃ boundary, Admissible least total counts boundary ∧
      c = candidate target total counts boundary := by
  rw [candidates, List.mem_filterMap]
  refine exists_congr fun boundary => ?_
  rw [List.mem_range'_1]
  constructor
  · rintro ⟨hrange, h⟩
    split_ifs at h with hleast
    exact ⟨⟨by omega, by omega, hleast.1, hleast.2⟩, (Option.some.inj h).symm⟩
  · rintro ⟨h, rfl⟩
    have hlt := h.lt
    exact ⟨⟨h.pos, by omega⟩, if_pos ⟨h.first, h.second⟩⟩

theorem best_eq_none_iff :
    best target least total counts = none ↔ ¬∃ boundary, Admissible least total counts boundary := by
  rw [best, Option.map_eq_none_iff, List.min?_eq_none_iff, List.eq_nil_iff_forall_not_mem, not_exists]
  constructor
  · exact fun h boundary hboundary => h _ (mem_candidates.mpr ⟨boundary, hboundary, rfl⟩)
  · intro h c hc
    obtain ⟨boundary, hboundary, -⟩ := mem_candidates.mp hc
    exact h boundary hboundary

/-- The best cut is admissible, and none that is admissible is nearer to the target. -/
theorem best_eq_some (h : best target least total counts = some cut) :
    Admissible least total counts cut.1 ∧
      cut.2 = (before counts cut.1, total - before counts cut.1) ∧
      ∀ other, Admissible least total counts other →
        distance target counts cut.1 ≤ distance target counts other := by
  obtain ⟨c, hc, rfl⟩ := Option.map_eq_some_iff.mp h
  obtain ⟨hmem, hle⟩ := List.min?_eq_some_iff.mp hc
  obtain ⟨boundary, hboundary, rfl⟩ := mem_candidates.mp hmem
  refine ⟨hboundary, rfl, fun other hother => ?_⟩
  have hcandidate := hle _ (mem_candidates.mpr ⟨other, hother, rfl⟩)
  rcases Prod.Lex.toLex_le_toLex.mp hcandidate with hlt | ⟨heq, -⟩
  · exact hlt.le
  · exact heq.le

end PrefixSplit
