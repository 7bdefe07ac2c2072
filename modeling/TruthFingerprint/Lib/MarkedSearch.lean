import Mathlib
import TruthFingerprint.Lib.BreakLoop

/-!
# Depth-first search with marks

A node is looked at when it is met for the first time: it is refused, or the nodes that follow it
are searched, all with one set of marks. Over finitely many nodes some fuel suffices
(`MarkedSearch.search_total`); a search that reports nothing has looked at everything that can be
reached (`Progress.explored`), and one that reports something has reached a node that is refused
(`MarkedSearch.search_refused`).
-/

namespace MarkedSearch

/-- What a search has reported so far, and the nodes that it has met. -/
structure Trace (α ω : Type) where
  found : List ω
  visited : List α

variable {α ε τ ω : Type}

namespace Trace

def empty : Trace α ω := ⟨[], []⟩

def mark (t : Trace α ω) (node : α) : Trace α ω := { t with visited := node :: t.visited }

def report (t : Trace α ω) (finding : ω) : Trace α ω := { t with found := t.found ++ [finding] }

@[simp] theorem mark_found (t : Trace α ω) (node : α) : (t.mark node).found = t.found := rfl

@[simp] theorem mark_visited (t : Trace α ω) (node : α) :
    (t.mark node).visited = node :: t.visited := rfl

@[simp] theorem report_found (t : Trace α ω) (finding : ω) :
    (t.report finding).found = t.found ++ [finding] := rfl

@[simp] theorem report_visited (t : Trace α ω) (finding : ω) :
    (t.report finding).visited = t.visited := rfl

end Trace

section Search

variable [DecidableEq α]
variable (look : α → Except ε (List α)) (finding : ε → τ → ω) (below : τ → τ)

/-- The search from a node, as deep as the fuel lasts. The tag tells how the node was met. -/
def search : Nat → α → τ → Trace α ω → Option (Trace α ω)
  | 0, _, _, _ => none
  | depth + 1, node, tag, t =>
    if node ∈ t.visited then some t
    else match look node with
      | .error refusal => some ((t.mark node).report (finding refusal tag))
      | .ok children =>
        children.foldlM (fun t child => search depth child (below tag) t) (t.mark node)

end Search

/-- A node and one that is searched after it -/
def Edge (look : α → Except ε (List α)) (node child : α) : Prop :=
  ∃ children, look node = .ok children ∧ child ∈ children

def Refused (look : α → Except ε (List α)) (node : α) : Prop :=
  ∃ refusal, look node = .error refusal

/-- The node is not refused and everything that follows it has been met. -/
def Explored (look : α → Except ε (List α)) (visited : List α) (node : α) : Prop :=
  ∃ children, look node = .ok children ∧ children ⊆ visited

/-- What a search adds to a trace. Nodes that it meets without a report are explored. -/
structure Progress (look : α → Except ε (List α)) (t t' : Trace α ω) : Prop where
  found : t.found <+: t'.found
  visited : t.visited ⊆ t'.visited
  explored : t'.found = t.found →
    ∀ node ∈ t'.visited, node ∉ t.visited → Explored look t'.visited node

variable {look : α → Except ε (List α)} {finding : ε → τ → ω} {below : τ → τ}

theorem Explored.mono {visited visited' : List α} {node : α} (h : Explored look visited node)
    (hsub : visited ⊆ visited') : Explored look visited' node := by
  obtain ⟨children, hlook, hchildren⟩ := h
  exact ⟨children, hlook, List.Subset.trans hchildren hsub⟩

namespace Progress

theorem refl (t : Trace α ω) : Progress look t t where
  found := List.prefix_rfl
  visited := List.Subset.refl _
  explored _ _ hnode hnew := (hnew hnode).elim

/-- Nothing is reported between two traces with as many reports. -/
theorem found_eq {t t' t'' : Trace α ω} (h : Progress look t t') (h' : Progress look t' t'')
    (heq : t''.found = t.found) : t'.found = t.found ∧ t''.found = t'.found := by
  have hlength := h.found.length_le
  have hlength' := h'.found.length_le
  rw [heq] at hlength'
  have hmid : t.found = t'.found := h.found.eq_of_length (by omega)
  exact ⟨hmid.symm, heq.trans hmid⟩

theorem trans [DecidableEq α] {t t' t'' : Trace α ω} (h : Progress look t t')
    (h' : Progress look t' t'') : Progress look t t'' where
  found := h.found.trans h'.found
  visited := List.Subset.trans h.visited h'.visited
  explored heq node hnode hnew := by
    obtain ⟨hfirst, hsecond⟩ := h.found_eq h' heq
    by_cases hmid : node ∈ t'.visited
    · exact (h.explored hfirst node hmid hnew).mono h'.visited
    · exact h'.explored hsecond node hnode hmid

/-- A report alone -/
theorem report (t : Trace α ω) (finding : ω) : Progress look t (t.report finding) where
  found := List.prefix_append _ _
  visited := List.Subset.refl _
  explored heq := by simp at heq

/-- A list of nodes, searched one after the other -/
theorem foldlM [DecidableEq α] {σ : Type} {f : Trace α ω → σ → Option (Trace α ω)} {items : List σ}
    {t t' : Trace α ω}
    (hstep : ∀ item ∈ items, ∀ t t', f t item = some t' → Progress look t t')
    (h : items.foldlM f t = some t') : Progress look t t' :=
  BreakLoop.foldlM_invariant (Progress look t)
    (fun item hitem t₁ t₂ hprogress h => hprogress.trans (hstep item hitem t₁ t₂ h)) (.refl t) h

/-- Every item of a list has its turn. -/
theorem exists_turn [DecidableEq α] {σ : Type} {f : Trace α ω → σ → Option (Trace α ω)}
    {items : List σ} {t t' : Trace α ω}
    (hstep : ∀ item ∈ items, ∀ t t', f t item = some t' → Progress look t t')
    (h : items.foldlM f t = some t') {item : σ} (hitem : item ∈ items) :
    ∃ t₁ t₂, f t₁ item = some t₂ ∧ Progress look t t₁ ∧ Progress look t₂ t' := by
  induction items generalizing t with
  | nil => cases hitem
  | cons first items ih =>
    obtain ⟨hfirst, hrest⟩ := List.forall_mem_cons.mp hstep
    rw [List.foldlM_cons] at h
    obtain ⟨t₁, hnext, hitems⟩ := Option.bind_eq_some_iff.mp h
    rcases List.mem_cons.mp hitem with rfl | hitem
    · exact ⟨t, t₁, hnext, .refl t, .foldlM hrest hitems⟩
    · obtain ⟨t₂, t₃, hturn, hbefore, hafter⟩ := ih hrest hitems hitem
      exact ⟨t₂, t₃, hturn, (hfirst t t₁ hnext).trans hbefore, hafter⟩

end Progress

section Spec

variable [DecidableEq α]

/-- Every node of a list that has been searched has been met. -/
theorem subset_of_foldlM {f : Trace α ω → α → Option (Trace α ω)} {children : List α}
    {t t' : Trace α ω}
    (hstep : ∀ child t t', f t child = some t' → Progress look t t' ∧ child ∈ t'.visited)
    (h : children.foldlM f t = some t') : children ⊆ t'.visited := by
  induction children generalizing t with
  | nil => exact List.nil_subset _
  | cons child children ih =>
    rw [List.foldlM_cons] at h
    obtain ⟨t₁, hchild, hrest⟩ := Option.bind_eq_some_iff.mp h
    have hprogress := Progress.foldlM (fun child _ t t' h => (hstep child t t' h).1) hrest
    exact List.cons_subset.mpr ⟨hprogress.visited (hstep child t t₁ hchild).2, ih hrest⟩

theorem search_spec {depth : Nat} {node : α} {tag : τ} {t t' : Trace α ω}
    (h : search look finding below depth node tag t = some t') :
    Progress look t t' ∧ node ∈ t'.visited := by
  induction depth generalizing node tag t t' with
  | zero => cases h
  | succ depth ih =>
    rw [search] at h
    split_ifs at h with hvisited
    · obtain rfl := Option.some.inj h
      exact ⟨.refl t, hvisited⟩
    cases hlook : look node with
    | error refusal =>
      rw [hlook] at h
      obtain rfl := Option.some.inj h
      refine ⟨⟨List.prefix_append _ _, List.subset_cons_self _ _, fun heq => ?_⟩,
        List.mem_cons_self⟩
      simp at heq
    | ok children =>
      rw [hlook] at h
      have hrest := Progress.foldlM (fun child _ t t' h => (ih h).1) h
      have hchildren := subset_of_foldlM (fun child t t' h => ih h) h
      have hnode : node ∈ t'.visited := hrest.visited List.mem_cons_self
      refine ⟨⟨hrest.found, fun x hx => hrest.visited (List.mem_cons_of_mem _ hx), ?_⟩, hnode⟩
      intro heq x hx hnew
      by_cases hself : x = node
      · exact ⟨children, hself ▸ hlook, hchildren⟩
      · exact hrest.explored heq x hx (List.not_mem_cons_of_ne_of_not_mem hself hnew)

/-- The first report is about a node that is refused. -/
theorem search_refused {depth : Nat} {node : α} {tag : τ} {t t' : Trace α ω}
    (h : search look finding below depth node tag t = some t') (hfound : t'.found ≠ t.found) :
    ∃ x, Relation.ReflTransGen (Edge look) node x ∧ Refused look x := by
  induction depth generalizing node tag t t' with
  | zero => cases h
  | succ depth ih =>
    rw [search] at h
    split_ifs at h with hvisited
    · obtain rfl := Option.some.inj h
      exact (hfound rfl).elim
    cases hlook : look node with
    | error refusal => exact ⟨node, .refl, refusal, hlook⟩
    | ok children =>
      rw [hlook] at h
      obtain ⟨child, hmem, t₁, t₂, hchild, hne⟩ :=
        BreakLoop.exists_step_of_foldlM Trace.found h hfound
      obtain ⟨x, hpath, hrefused⟩ := ih hchild hne
      exact ⟨x, .head ⟨children, hlook, hmem⟩ hpath, hrefused⟩

/-! ## Fuel -/

/-- A search that comes to its end does so with more fuel. -/
theorem search_mono {depth depth' : Nat} {node : α} {tag : τ} {t t' : Trace α ω}
    (h : search look finding below depth node tag t = some t') (hle : depth ≤ depth') :
    search look finding below depth' node tag t = some t' := by
  induction depth generalizing depth' node tag t t' with
  | zero => cases h
  | succ depth ih =>
    obtain ⟨depth', rfl⟩ := Nat.exists_eq_add_of_le' hle
    rw [← Nat.add_assoc, search]
    rw [search] at h
    split_ifs at h ⊢ with hvisited
    · exact h
    cases hlook : look node with
    | error refusal => rwa [hlook] at h
    | ok children =>
      rw [hlook] at h
      exact BreakLoop.foldlM_mono (fun child _ t t' h => ih h (Nat.le_of_succ_le_succ hle)) h

/-- The nodes of a finite set that a search has not met -/
def unmet (nodes : Finset α) (t : Trace α ω) : Finset α := nodes.filter (· ∉ t.visited)

theorem unmet_subset {nodes : Finset α} {t t' : Trace α ω} (h : t.visited ⊆ t'.visited) :
    unmet nodes t' ⊆ unmet nodes t := by
  intro x hx
  obtain ⟨hnode, hunmet⟩ := Finset.mem_filter.mp hx
  exact Finset.mem_filter.mpr ⟨hnode, fun hvisited => hunmet (h hvisited)⟩

theorem card_unmet_le (nodes : Finset α) (t : Trace α ω) : (unmet nodes t).card ≤ nodes.card :=
  Finset.card_le_card (Finset.filter_subset _ _)

theorem card_unmet_mark {nodes : Finset α} {t : Trace α ω} {node : α} (hnode : node ∈ nodes)
    (hunmet : node ∉ t.visited) : (unmet nodes (t.mark node)).card < (unmet nodes t).card := by
  apply Finset.card_lt_card
  refine Finset.ssubset_iff_of_subset (unmet_subset (List.subset_cons_self _ _)) |>.mpr ?_
  refine ⟨node, Finset.mem_filter.mpr ⟨hnode, hunmet⟩, fun hmem => ?_⟩
  exact (Finset.mem_filter.mp hmem).2 List.mem_cons_self

/-- Within a finite set of nodes, more fuel than there are nodes left suffices. -/
theorem search_total {nodes : Finset α} (hclosed : ∀ a ∈ nodes, ∀ b, Edge look a b → b ∈ nodes)
    {depth : Nat} {node : α} {tag : τ} {t : Trace α ω} (hnode : node ∈ nodes)
    (hdepth : (unmet nodes t).card < depth) :
    ∃ t', search look finding below depth node tag t = some t' := by
  induction depth generalizing node tag t with
  | zero => exact (Nat.not_lt_zero _ hdepth).elim
  | succ depth ih =>
    rw [search]
    split_ifs with hvisited
    · exact ⟨t, rfl⟩
    cases hlook : look node with
    | error refusal => exact ⟨_, rfl⟩
    | ok children =>
      have hmark := card_unmet_mark hnode hvisited
      have hstep : ∀ child ∈ children, ∀ t₁ : Trace α ω, (t.mark node).visited ⊆ t₁.visited →
          ∃ t₂, search look finding below depth child (below tag) t₁ = some t₂ ∧
            (t.mark node).visited ⊆ t₂.visited := by
        intro child hchild t₁ hsub
        have hle : (unmet nodes t₁).card ≤ (unmet nodes (t.mark node)).card :=
          Finset.card_le_card (unmet_subset hsub)
        have hmem := hclosed node hnode child ⟨children, hlook, hchild⟩
        obtain ⟨t₂, h⟩ : ∃ t₂, search look finding below depth child (below tag) t₁ = some t₂ :=
          ih hmem (by omega)
        exact ⟨t₂, h, List.Subset.trans hsub (search_spec h).1.visited⟩
      obtain ⟨t', h, -⟩ := BreakLoop.exists_foldlM
        (fun t₁ : Trace α ω => (t.mark node).visited ⊆ t₁.visited) hstep
        (List.Subset.refl _)
      exact ⟨t', h⟩

end Spec

/-! ## What a clean search has looked at -/

/-- Everything that can be reached from a node that was met has been explored. -/
theorem Progress.explored_of_reaches {t : Trace α ω} (h : Progress look .empty t)
    (hclean : t.found = []) {node x : α} (hnode : node ∈ t.visited)
    (hpath : Relation.ReflTransGen (Edge look) node x) : Explored look t.visited x := by
  have hexplored (y : α) (hy : y ∈ t.visited) : Explored look t.visited y :=
    h.explored hclean y hy List.not_mem_nil
  induction hpath with
  | refl => exact hexplored _ hnode
  | tail _ hedge ih =>
    obtain ⟨children, hlook, hmem⟩ := hedge
    obtain ⟨children', hlook', hchildren⟩ := ih
    obtain rfl := Except.ok.inj (hlook.symm.trans hlook')
    exact hexplored _ (hchildren hmem)

theorem Explored.not_refused {visited : List α} {node : α} (h : Explored look visited node) :
    ¬Refused look node := by
  obtain ⟨children, hlook, -⟩ := h
  intro ⟨refusal, hrefusal⟩
  exact nomatch hlook.symm.trans hrefusal

end MarkedSearch
