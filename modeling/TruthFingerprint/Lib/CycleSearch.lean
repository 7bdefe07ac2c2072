import Mathlib

/-!
# Depth-first search for cycles

The search keeps the nodes of the path that it is on and those that it has left. It stops at the
first node that is on the path already. The nodes that it leaves without finding one come after
everything that follows them (`CycleSearch.Layered`), so that no path from one of them is endless
(`CycleSearch.acc_of_layered`). Over finitely many nodes some fuel suffices
(`CycleSearch.visit_total`).
-/

namespace CycleSearch

variable {α σ : Type}

/-- `any` over the items, with a state. It stops at the first item that is found. -/
def anyItem (step : α → σ → Option (Bool × σ)) : List α → σ → Option (Bool × σ)
  | [], s => some (false, s)
  | a :: rest, s => (step a s).bind fun (found, s') =>
    if found then some (true, s') else anyItem step rest s'

variable [DecidableEq α]

/-- Whether a cycle is found below the node, and the nodes that have been left -/
def visit (children : α → List α) : Nat → List α → α → List α → Option (Bool × List α)
  | 0, _, _, _ => none
  | depth + 1, visiting, node, visited =>
    if node ∈ visiting then some (true, visited)
    else if node ∈ visited then some (false, visited)
    else (anyItem (visit children depth (node :: visiting)) (children node) visited).map
      fun (cyclic, visited') => (cyclic, node :: visited')

/-- The roots below which a cycle is found, one after the other with one set of nodes -/
def cyclicRoots (children : α → List α) (depth : Nat) :
    List α → List α → Option (List α)
  | [], _ => some []
  | node :: rest, visited => (visit children depth [] node visited).bind fun (cyclic, visited') =>
    (cyclicRoots children depth rest visited').map fun found =>
      if cyclic then node :: found else found

/-- What follows a node comes before it. -/
inductive Layered (children : α → List α) : List α → Prop
  | nil : Layered children []
  | cons {node : α} {visited : List α} : children node ⊆ visited → Layered children visited →
    Layered children (node :: visited)

variable {children : α → List α} {depth : Nat} {visiting visited visited' : List α} {node : α}

omit [DecidableEq α] in
/-- Every path from a node of layers ends. -/
theorem acc_of_layered (h : Layered children visited) :
    ∀ node ∈ visited, Acc (fun child node => child ∈ children node) node := by
  induction h with
  | nil => simp
  | @cons node visited hchildren _ ih =>
    have hnode : Acc (fun child node => child ∈ children node) node :=
      .intro node fun child hchild => ih child (hchildren hchild)
    exact List.forall_mem_cons.mpr ⟨hnode, ih⟩

omit [DecidableEq α] in
theorem not_transGen_self_of_acc {r : α → α → Prop} {a : α} (h : Acc r a) :
    ¬Relation.TransGen r a a := by
  have htrans := h.transGen
  clear h
  induction htrans with
  | intro a _ ih => exact fun hcycle => ih a hcycle hcycle

omit [DecidableEq α] in
/-- No cycle starts at a node of layers. -/
theorem Layered.not_cyclic (h : Layered children visited) (hnode : node ∈ visited) :
    ¬Relation.TransGen (fun node child => child ∈ children node) node node := by
  intro hcycle
  exact not_transGen_self_of_acc (acc_of_layered h node hnode) (Relation.transGen_swap.mp hcycle)

/-! ## Soundness -/

/-- The nodes that have been left are layers still, and more of them. -/
structure Left (children : α → List α) (visited visited' : List α) : Prop where
  layered : Layered children visited'
  subset : visited ⊆ visited'

omit [DecidableEq α] in
theorem Left.trans {visited'' : List α} (h : Left children visited visited')
    (h' : Left children visited' visited'') : Left children visited visited'' :=
  ⟨h'.layered, List.Subset.trans h.subset h'.subset⟩

omit [DecidableEq α] in
theorem left_of_anyItem {step : α → List α → Option (Bool × List α)} {items : List α}
    (hstep : ∀ item visited visited', Layered children visited →
      step item visited = some (false, visited') → Left children visited visited' ∧ item ∈ visited')
    (hlayered : Layered children visited) (h : anyItem step items visited = some (false, visited')) :
    Left children visited visited' ∧ items ⊆ visited' := by
  induction items generalizing visited with
  | nil =>
    cases h
    exact ⟨⟨hlayered, List.Subset.refl _⟩, List.nil_subset _⟩
  | cons item rest ih =>
    obtain ⟨⟨found, next⟩, hitem, h⟩ := Option.bind_eq_some_iff.mp h
    cases found with
    | true => simp at h
    | false =>
      obtain ⟨hfirst, hmem⟩ := hstep item visited next hlayered hitem
      obtain ⟨hrest, hsub⟩ := ih hfirst.layered h
      exact ⟨hfirst.trans hrest, List.cons_subset.mpr ⟨hrest.subset hmem, hsub⟩⟩

/-- A visit that finds no cycle leaves its node in the layers. -/
theorem left_of_visit (hlayered : Layered children visited)
    (h : visit children depth visiting node visited = some (false, visited')) :
    Left children visited visited' ∧ node ∈ visited' := by
  induction depth generalizing visiting node visited visited' with
  | zero => cases h
  | succ depth ih =>
    rw [visit] at h
    split_ifs at h with hvisiting hvisited
    · cases h
    · cases h
      exact ⟨⟨hlayered, List.Subset.refl _⟩, hvisited⟩
    · obtain ⟨⟨cyclic, below⟩, hbelow, heq⟩ := Option.map_eq_some_iff.mp h
      cases heq
      obtain ⟨hleft, hsub⟩ := left_of_anyItem (fun item visited visited' => ih) hlayered hbelow
      exact ⟨⟨.cons hsub hleft.layered, List.subset_cons_of_subset _ hleft.subset⟩,
        List.mem_cons_self⟩

/-- Roots below which no cycle is found are layers. -/
theorem layered_of_cyclicRoots {roots : List α} (hlayered : Layered children visited)
    (h : cyclicRoots children depth roots visited = some []) :
    ∃ visited', Left children visited visited' ∧ roots ⊆ visited' := by
  induction roots generalizing visited with
  | nil => exact ⟨visited, ⟨hlayered, List.Subset.refl _⟩, List.nil_subset _⟩
  | cons root rest ih =>
    obtain ⟨⟨cyclic, next⟩, hroot, h⟩ := Option.bind_eq_some_iff.mp h
    obtain ⟨found, hrest, heq⟩ := Option.map_eq_some_iff.mp h
    cases cyclic with
    | true => simp at heq
    | false =>
      obtain rfl : found = [] := heq
      obtain ⟨hfirst, hmem⟩ := left_of_visit hlayered hroot
      obtain ⟨visited', hleft, hsub⟩ := ih hfirst.layered hrest
      exact ⟨visited', hfirst.trans hleft, List.cons_subset.mpr ⟨hleft.subset hmem, hsub⟩⟩

/-- Below roots without a cycle there is none. -/
theorem not_cyclic_of_cyclicRoots {roots : List α} (h : cyclicRoots children depth roots [] = some [])
    (hroots : ∀ node child, child ∈ children node → node ∈ roots) (node : α) :
    ¬Relation.TransGen (fun node child => child ∈ children node) node node := by
  intro hcycle
  obtain ⟨visited, hleft, hsub⟩ := layered_of_cyclicRoots .nil h
  obtain ⟨child, hchild, -⟩ := Relation.TransGen.head'_iff.mp hcycle
  exact hleft.layered.not_cyclic (hsub (hroots node child hchild)) hcycle

/-! ## Fuel -/

omit [DecidableEq α] in
theorem anyItem_total {step : α → σ → Option (Bool × σ)} {items : List α}
    (hstep : ∀ item ∈ items, ∀ s, (step item s).isSome) (s : σ) : (anyItem step items s).isSome := by
  induction items generalizing s with
  | nil => rfl
  | cons item rest ih =>
    obtain ⟨hitem, hrest⟩ := List.forall_mem_cons.mp hstep
    obtain ⟨⟨found, s'⟩, hs'⟩ := Option.isSome_iff_exists.mp (hitem s)
    rw [anyItem, hs', Option.bind_some]
    cases found with
    | true => rfl
    | false => exact ih hrest s'

/-- The fuel that suffices is one more than there are nodes off the path. -/
theorem visit_total {nodes : Finset α} (hclosed : ∀ a ∈ nodes, ∀ b ∈ children a, b ∈ nodes)
    (hnode : node ∈ nodes) (hdepth : (nodes.filter (· ∉ visiting)).card < depth)
    (visited : List α) : (visit children depth visiting node visited).isSome := by
  induction depth generalizing visiting node visited with
  | zero => cases hdepth
  | succ depth ih =>
    rw [visit]
    split_ifs with hvisiting hvisited
    · rfl
    · rfl
    · rw [Option.isSome_map]
      refine anyItem_total (fun child hchild s => ih (hclosed node hnode child hchild) ?_ s) _
      have hless : (nodes.filter (· ∉ node :: visiting)).card <
          (nodes.filter (· ∉ visiting)).card := by
        refine Finset.card_lt_card (Finset.ssubset_iff_of_subset ?_ |>.mpr ⟨node, ?_, ?_⟩)
        · intro a ha
          simp only [Finset.mem_filter, List.mem_cons, not_or] at ha ⊢
          exact ⟨ha.1, ha.2.2⟩
        · exact Finset.mem_filter.mpr ⟨hnode, hvisiting⟩
        · simp
      omega

theorem cyclicRoots_total {nodes : Finset α} {roots : List α}
    (hclosed : ∀ a ∈ nodes, ∀ b ∈ children a, b ∈ nodes) (hroots : ∀ root ∈ roots, root ∈ nodes)
    (hdepth : nodes.card < depth) (visited : List α) :
    (cyclicRoots children depth roots visited).isSome := by
  induction roots generalizing visited with
  | nil => rfl
  | cons root rest ih =>
    obtain ⟨hroot, hrest⟩ := List.forall_mem_cons.mp hroots
    have hfuel : (nodes.filter (· ∉ ([] : List α))).card < depth :=
      (Finset.card_filter_le _ _).trans_lt hdepth
    obtain ⟨⟨cyclic, visited'⟩, hvisit⟩ :=
      Option.isSome_iff_exists.mp (visit_total hclosed hroot hfuel visited)
    rw [cyclicRoots, hvisit, Option.bind_some, Option.isSome_map]
    exact ih hrest visited'

end CycleSearch
