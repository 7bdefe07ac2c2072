import Mathlib

/-!
# Majority support

A finite set of nodes in which every node accepts some of the others. A node is *supported* when
it and the nodes it accepts are a strict majority. Two supported nodes accept a common node
(`Supported.exists_common`), so when acceptance is closeness under a pseudometric, supported nodes
are within twice the radius of each other (`Supported.dist_le`), and a close-knit majority supports
each of its members whatever the others do (`supported_of_close_majority`).
-/

namespace Majority

variable {ι : Type*} [DecidableEq ι]

/-- The nodes of `s` other than `e` that `e` accepts. -/
def support (s : Finset ι) (R : ι → ι → Prop) [DecidableRel R] (e : ι) : Finset ι :=
  {p ∈ s | p ≠ e ∧ R e p}

/-- `e` and the nodes it accepts are a strict majority of `s`. -/
def Supported (s : Finset ι) (R : ι → ι → Prop) [DecidableRel R] (e : ι) : Prop :=
  s.card < 2 * ((support s R e).card + 1)

variable {s : Finset ι} {R : ι → ι → Prop} [DecidableRel R]

theorem mem_support : p ∈ support s R e ↔ p ∈ s ∧ p ≠ e ∧ R e p := by
  simp [support]

theorem not_mem_support_self : e ∉ support s R e := fun h => (mem_support.mp h).2.1 rfl

/-- The majority that a supported node belongs to. -/
theorem card_insert_support : (insert e (support s R e)).card = (support s R e).card + 1 :=
  Finset.card_insert_of_notMem not_mem_support_self

theorem insert_support_subset (he : e ∈ s) : insert e (support s R e) ⊆ s :=
  Finset.insert_subset he fun _ hp => (mem_support.mp hp).1

/-- Two strict majorities of one set share a node. -/
theorem Supported.exists_common (he : e ∈ s) (hf : f ∈ s) (He : Supported s R e)
    (Hf : Supported s R f) : ∃ g ∈ s, (g = e ∨ R e g) ∧ (g = f ∨ R f g) := by
  have hcard : s.card < (insert e (support s R e)).card + (insert f (support s R f)).card := by
    simp only [card_insert_support]
    simp only [Supported] at He Hf
    omega
  obtain ⟨g, hg⟩ := Finset.inter_nonempty_of_card_lt_card_add_card
    (insert_support_subset he) (insert_support_subset hf) hcard
  have hmem := Finset.mem_inter.mp hg
  refine ⟨g, insert_support_subset he hmem.1, ?_, ?_⟩
  · rcases Finset.mem_insert.mp hmem.1 with rfl | h
    · exact .inl rfl
    · exact .inr (mem_support.mp h).2.2
  · rcases Finset.mem_insert.mp hmem.2 with rfl | h
    · exact .inl rfl
    · exact .inr (mem_support.mp h).2.2

/-- A majority that contains `e` and that `e` accepts supports `e`. -/
theorem supported_of_subset {H : Finset ι} (hH : H ⊆ s) (hmaj : s.card < 2 * H.card) (he : e ∈ H)
    (hR : ∀ p ∈ H, p ≠ e → R e p) : Supported s R e := by
  have hsub : H.erase e ⊆ support s R e := by
    intro p hp
    have := Finset.mem_erase.mp hp
    exact mem_support.mpr ⟨hH this.2, this.1, hR p this.2 this.1⟩
  have hle := Finset.card_le_card hsub
  have hcard := Finset.card_erase_add_one he
  simp only [Supported]
  omega

section Metric

variable {K : Type*} [Field K] [LinearOrder K] [IsStrictOrderedRing K] (d : PseudoMetric ι K)

omit [DecidableEq ι] [IsStrictOrderedRing K] in
theorem dist_le_of_eq_or_le (hr : 0 ≤ r) (h : g = e ∨ d e g ≤ r) : d e g ≤ r := by
  rcases h with rfl | h
  · simpa using hr
  · exact h

/-- Two supported nodes are within twice the radius: their majorities share a node, and the
triangle inequality goes through it. -/
theorem Supported.dist_le {r : K} (hr : 0 ≤ r) (he : e ∈ s) (hf : f ∈ s)
    (He : Supported s (fun x y => d x y ≤ r) e) (Hf : Supported s (fun x y => d x y ≤ r) f) :
    d e f ≤ 2 * r := by
  obtain ⟨g, -, hge, hgf⟩ := He.exists_common he hf Hf
  have h1 : d e g ≤ r := dist_le_of_eq_or_le d hr hge
  have h2 : d g f ≤ r := by
    rw [d.symm]
    exact dist_le_of_eq_or_le d hr hgf
  calc d e f ≤ d e g + d g f := d.triangle e g f
    _ ≤ r + r := add_le_add h1 h2
    _ = 2 * r := (two_mul r).symm

omit [IsStrictOrderedRing K] in
/-- Every member of a majority of pairwise close nodes is supported, wherever the other nodes
are. -/
theorem supported_of_close_majority {r : K} {H : Finset ι} (hH : H ⊆ s)
    (hmaj : s.card < 2 * H.card) (hclose : ∀ x ∈ H, ∀ y ∈ H, d x y ≤ r) (he : e ∈ H) :
    Supported s (fun x y => d x y ≤ r) e :=
  supported_of_subset hH hmaj he fun p hp _ => hclose e he p hp

end Metric

end Majority
