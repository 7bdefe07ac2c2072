import Mathlib
import TruthFingerprint.Evidence.Manifests

/-!
# The closure of dependencies

A resolver gives the references that a revision depends on. The validation searches everything that
can be reached from a root depth first; along the way it looks at every reference but the root. When
a search without violations has come to its end, every reference below the root has been looked at
(`untainted_of_closure`).
-/

namespace TruthFingerprint.Evidence

structure ImmutableReference where
  revisionId : Text
  serializedSha256 : Text
  subjectSha256 : Option Text
  contractId : Text
  contractVersion : Text
  locator : Text
  evidenceRole : Text
deriving DecidableEq

namespace ImmutableReference

/-- A contract of the truth -/
def truthful (reference : ImmutableReference) : Bool :=
  (text "truth.").isPrefixOf reference.contractId

/-- A role that is not formal -/
def nonformal (reference : ImmutableReference) : Bool :=
  reference.evidenceRole ∈ [text "fixture_test", text "legacy_v1"]

end ImmutableReference

/-- The references that a revision depends on, if there is such a revision -/
abbrev DependencyResolver := Text → Option (List ImmutableReference)

structure ClosureSearch where
  violations : List ManifestViolation
  active : List Text
  visited : List Text
  resolved : Text → Option ImmutableReference

namespace ClosureSearch

def initial : ClosureSearch := ⟨[], [], [], fun _ => none⟩

def run (s : ClosureSearch) (rootId : Text) (check : Check) : Option ClosureSearch := do
  let violations ← check.run rootId
  some { s with violations := s.violations ++ violations }

def resolve (s : ClosureSearch) (node : ImmutableReference) : ClosureSearch :=
  { s with resolved := Function.update s.resolved node.revisionId (some node) }

def enter (s : ClosureSearch) (node : ImmutableReference) : ClosureSearch :=
  { s with active := node.revisionId :: s.active }

def leave (s : ClosureSearch) (node : ImmutableReference) : ClosureSearch :=
  { s with
    active := s.active.erase node.revisionId
    visited := node.revisionId :: s.visited }

end ClosureSearch

def duplicateDivergent (node : ImmutableReference) : Check :=
  ⟨false, "MANIFEST-GRAPH-DUPLICATE-DIVERGENT", "dependency",
    text "one immutable shape per revision ID", node.revisionId,
    "A revision ID cannot resolve to divergent serialized bytes or metadata."⟩

def graphCycle (node : ImmutableReference) : Check :=
  ⟨false, "MANIFEST-GRAPH-CYCLE", "dependency", text "acyclic closure", node.revisionId,
    "Typed provenance may not contain cycles."⟩

def referenceInvalid (node : ImmutableReference) : Check :=
  ⟨false, "MANIFEST-GRAPH-REFERENCE-INVALID", "dependency",
    text "immutable revision and byte hash", node.revisionId,
    "Dependency identities are closed lowercase digests."⟩

def targetMissing (node : ImmutableReference) : Check :=
  ⟨false, "MANIFEST-GRAPH-TARGET-MISSING", "dependency", text "resolvable immutable target",
    node.revisionId, "The pinned snapshot does not resolve this target."⟩

def truthTaint (detectorFacing : Bool) (child : ImmutableReference) : Check :=
  ⟨!(detectorFacing && child.truthful), "MANIFEST-TRUTH-TAINT", "dependency",
    text "no restricted truth dependency", child.contractId,
    "Detector-facing roots cannot traverse truth evidence."⟩

def nonformalTaint (detectorFacing : Bool) (child : ImmutableReference) : Check :=
  ⟨!(detectorFacing && child.nonformal), "MANIFEST-NONFORMAL-TAINT", "dependency",
    text "formal detector evidence", child.evidenceRole,
    "Fixture replay and legacy evidence cannot promote into formal roots."⟩

/-- `sorted` by revision -/
def byRevision (references : List ImmutableReference) : List ImmutableReference :=
  references.insertionSort (·.revisionId ≤ ·.revisionId)

theorem mem_byRevision {references : List ImmutableReference} {reference : ImmutableReference} :
    reference ∈ byRevision references ↔ reference ∈ references := by
  rw [byRevision]
  exact (List.perm_insertionSort _ references).mem_iff

variable (resolver : DependencyResolver) (detectorFacing : Bool) (rootId : Text)

/-- `visit`, as deep as the fuel lasts -/
def visit : Nat → ImmutableReference → ClosureSearch → Option ClosureSearch
  | 0, _, _ => none
  | depth + 1, node, s =>
    if (s.resolved node.revisionId).any (· ≠ node) then s.run rootId (duplicateDivergent node)
    else
      let s := s.resolve node
      if node.revisionId ∈ s.active then s.run rootId (graphCycle node)
      else if node.revisionId ∈ s.visited then some s
      else if !(isImmutableId node.revisionId && isImmutableId node.serializedSha256) then
        s.run rootId (referenceInvalid node)
      else match resolver node.revisionId with
        | none => s.run rootId (targetMissing node)
        | some dependencies => do
          let s ← (byRevision dependencies).foldlM (fun s child => do
            let s ← s.run rootId (truthTaint detectorFacing child)
            let s ← s.run rootId (nonformalTaint detectorFacing child)
            visit depth child s) (s.enter node)
          some (s.leave node)

def closureKey (v : ManifestViolation) : Text ×ₗ Text ×ₗ Text :=
  toLex (v.ruleId, toLex (v.fieldPath, v.observedValue))

def validateDependencyClosure (depth : Nat) (root : ImmutableReference) :
    Option (List ManifestViolation) := do
  let s ← visit resolver detectorFacing root.revisionId depth root .initial
  some (s.violations.insertionSort (closureKey · ≤ closureKey ·))

/-! ## What a search has looked at -/

section Search

variable {resolver : DependencyResolver} {detectorFacing : Bool} {rootId : Text}

/-- A reference and what it depends on -/
def DependsOn (resolver : DependencyResolver) (reference dependency : ImmutableReference) : Prop :=
  ∃ dependencies, resolver reference.revisionId = some dependencies ∧ dependency ∈ dependencies

/-- Neither check finds anything about a reference. -/
def Untainted (detectorFacing : Bool) (reference : ImmutableReference) : Prop :=
  detectorFacing → ¬reference.truthful ∧ ¬reference.nonformal

/-- A search that goes on keeps what it has. -/
structure Continues (s s' : ClosureSearch) : Prop where
  violations : s'.violations = [] → s.violations = []
  visited : s.visited ⊆ s'.visited
  resolved : ∀ id reference, s.resolved id = some reference → s'.resolved id = some reference

theorem Continues.refl (s : ClosureSearch) : Continues s s where
  violations h := h
  visited := List.Subset.refl _
  resolved _ _ h := h

theorem Continues.trans {s s' s'' : ClosureSearch} (h : Continues s s') (h' : Continues s' s'') :
    Continues s s'' where
  violations hclean := h.violations (h'.violations hclean)
  visited := List.Subset.trans h.visited h'.visited
  resolved id reference hid := h'.resolved id reference (h.resolved id reference hid)

/-- A reference that the search is done with -/
structure Finished (s : ClosureSearch) (reference : ImmutableReference) : Prop where
  visited : reference.revisionId ∈ s.visited
  resolved : s.resolved reference.revisionId = some reference

/-- The search has looked at everything that a finished revision depends on, and is done with it. -/
def Closed (resolver : DependencyResolver) (detectorFacing : Bool) (s : ClosureSearch) : Prop :=
  ∀ id ∈ s.visited, ∃ dependencies, resolver id = some dependencies ∧
    ∀ child ∈ dependencies, Untainted detectorFacing child ∧ Finished s child

theorem Finished.mono {s s' : ClosureSearch} {reference : ImmutableReference}
    (h : Finished s reference) (hs : Continues s s') : Finished s' reference :=
  ⟨hs.visited h.visited, hs.resolved _ _ h.resolved⟩

/-- A check that is run reports nothing or leaves a violation. -/
theorem run_cases {s s' : ClosureSearch} {check : Check} (h : s.run rootId check = some s') :
    Continues s s' ∧ (s'.violations = [] → check.ok ∧ s' = s) := by
  rw [ClosureSearch.run, Option.bind_eq_bind, Option.bind_eq_some_iff] at h
  obtain ⟨violations, hrun, h⟩ := h
  obtain rfl := Option.some.inj h
  refine ⟨⟨fun hclean => (List.append_eq_nil_iff.mp hclean).1, List.Subset.refl _,
    fun _ _ hid => hid⟩, fun hclean => ?_⟩
  obtain rfl := (List.append_eq_nil_iff.mp hclean).2
  exact ⟨Check.run_eq_nil.mp hrun, by rw [List.append_nil]⟩

/-- What a completed visit of a reference amounts to. -/
structure Visit (resolver : DependencyResolver) (detectorFacing : Bool) (s : ClosureSearch)
    (node : ImmutableReference) (s' : ClosureSearch) : Prop where
  continues : Continues s s'
  closed : s'.violations = [] → Closed resolver detectorFacing s → Closed resolver detectorFacing s'
  finished : s'.violations = [] → Closed resolver detectorFacing s → Finished s' node

/-- A visit that reports a violation -/
theorem Visit.of_run {s s' : ClosureSearch} {node : ImmutableReference} {check : Check}
    (h : s.run rootId check = some s') (hcheck : check.ok = false) :
    Visit resolver detectorFacing s node s' := by
  obtain ⟨hcontinues, hclean⟩ := run_cases h
  have hreported (hviolations : s'.violations = []) : False := by
    rw [(hclean hviolations).1] at hcheck
    cases hcheck
  exact ⟨hcontinues, fun hviolations => (hreported hviolations).elim,
    fun hviolations => (hreported hviolations).elim⟩

theorem Visit.of_continues {s s' s'' : ClosureSearch} {node : ImmutableReference}
    (hcontinues : Continues s s') (hvisited : s'.visited = s.visited)
    (h : Visit resolver detectorFacing s' node s'') : Visit resolver detectorFacing s node s'' := by
  have hclosed (hc : Closed resolver detectorFacing s) : Closed resolver detectorFacing s' := by
    intro id hid
    obtain ⟨dependencies, hresolver, hchildren⟩ := hc id (hvisited ▸ hid)
    exact ⟨dependencies, hresolver, fun child hchild =>
      ⟨(hchildren child hchild).1, (hchildren child hchild).2.mono hcontinues⟩⟩
  exact ⟨hcontinues.trans h.continues, fun hviolations hc => h.closed hviolations (hclosed hc),
    fun hviolations hc => h.finished hviolations (hclosed hc)⟩

/-- The children of a reference, one after the other -/
theorem children_spec {depth : Nat} (hvisit : ∀ node s s',
      visit resolver detectorFacing rootId depth node s = some s' →
        Visit resolver detectorFacing s node s')
    {children : List ImmutableReference} {s s' : ClosureSearch}
    (h : children.foldlM (fun s child => do
      let s ← s.run rootId (truthTaint detectorFacing child)
      let s ← s.run rootId (nonformalTaint detectorFacing child)
      visit resolver detectorFacing rootId depth child s) s = some s') :
    Continues s s' ∧ (s'.violations = [] → Closed resolver detectorFacing s →
      Closed resolver detectorFacing s' ∧
        ∀ child ∈ children, Untainted detectorFacing child ∧ Finished s' child) := by
  induction children generalizing s with
  | nil =>
    obtain rfl := Option.some.inj h
    exact ⟨.refl s, fun _ hclosed => ⟨hclosed, fun _ hchild => nomatch hchild⟩⟩
  | cons child children ih =>
    rw [List.foldlM_cons, Option.bind_eq_bind, Option.bind_eq_some_iff] at h
    obtain ⟨s₃, hchild, h⟩ := h
    obtain ⟨s₁, htruth, hchild⟩ := Option.bind_eq_some_iff.mp hchild
    obtain ⟨s₂, hnonformal, hchild⟩ := Option.bind_eq_some_iff.mp hchild
    obtain ⟨hcontinues₁, hclean₁⟩ := run_cases htruth
    obtain ⟨hcontinues₂, hclean₂⟩ := run_cases hnonformal
    have hvisited := hvisit _ _ _ hchild
    obtain ⟨hcontinues, hrest⟩ := ih h
    refine ⟨((hcontinues₁.trans hcontinues₂).trans hvisited.continues).trans hcontinues,
      fun hviolations hclosed => ?_⟩
    have hviolations₃ := hcontinues.violations hviolations
    obtain ⟨hformal, rfl⟩ := hclean₂ (hvisited.continues.violations hviolations₃)
    obtain ⟨htruthful, rfl⟩ :=
      hclean₁ (hcontinues₂.violations (hvisited.continues.violations hviolations₃))
    obtain ⟨hclosed', hchildren⟩ := hrest hviolations (hvisited.closed hviolations₃ hclosed)
    refine ⟨hclosed', fun child' hmem => ?_⟩
    rcases List.mem_cons.mp hmem with rfl | hmem
    · refine ⟨fun hfacing => ?_, (hvisited.finished hviolations₃ hclosed).mono hcontinues⟩
      simpa [truthTaint, nonformalTaint, hfacing] using And.intro htruthful hformal
    · exact hchildren child' hmem

theorem continues_resolve {s : ClosureSearch} {node : ImmutableReference}
    (h : ¬(s.resolved node.revisionId).any (· ≠ node)) : Continues s (s.resolve node) where
  violations hclean := hclean
  visited := List.Subset.refl _
  resolved id reference hid := by
    by_cases heq : id = node.revisionId
    · obtain rfl := heq
      rw [hid, Option.any_some, decide_eq_true_eq, not_not] at h
      exact h ▸ Function.update_self _ _ _
    · exact (Function.update_of_ne heq _ _).trans hid

/-- When a reference is left, its children are finished. -/
theorem visit_leave {s s' : ClosureSearch} {node : ImmutableReference}
    {dependencies : List ImmutableReference} (hresolver : resolver node.revisionId = some dependencies)
    (hresolved : s.resolved node.revisionId = some node)
    (h : Continues s s' ∧ (s'.violations = [] → Closed resolver detectorFacing s →
      Closed resolver detectorFacing s' ∧
        ∀ child ∈ byRevision dependencies, Untainted detectorFacing child ∧ Finished s' child)) :
    Visit resolver detectorFacing s node (s'.leave node) := by
  obtain ⟨hcontinues, hchildren⟩ := h
  have hleave : Continues s' (s'.leave node) :=
    ⟨fun hclean => hclean, List.subset_cons_self _ _, fun _ _ hid => hid⟩
  refine ⟨⟨hcontinues.violations, fun id hid => hleave.visited (hcontinues.visited hid),
    hcontinues.resolved⟩, fun hviolations hclosed id hid => ?_, fun _ _ =>
    ⟨List.mem_cons_self, hcontinues.resolved _ _ hresolved⟩⟩
  obtain ⟨hclosed', hfinished⟩ := hchildren hviolations hclosed
  rcases List.mem_cons.mp hid with rfl | hid
  · refine ⟨dependencies, hresolver, fun child hchild => ?_⟩
    have hmem := mem_byRevision.mpr hchild
    exact ⟨(hfinished child hmem).1, (hfinished child hmem).2.mono hleave⟩
  · obtain ⟨dependencies', hresolver', hrest⟩ := hclosed' id hid
    exact ⟨dependencies', hresolver', fun child hchild =>
      ⟨(hrest child hchild).1, (hrest child hchild).2.mono hleave⟩⟩

theorem visit_spec (depth : Nat) (node : ImmutableReference) (s s' : ClosureSearch)
    (h : visit resolver detectorFacing rootId depth node s = some s') :
    Visit resolver detectorFacing s node s' := by
  induction depth generalizing node s s' with
  | zero => cases h
  | succ depth ih =>
    rw [visit] at h
    by_cases hdivergent : (s.resolved node.revisionId).any (· ≠ node)
    · rw [if_pos hdivergent] at h
      exact .of_run h rfl
    rw [if_neg hdivergent] at h
    refine .of_continues (continues_resolve hdivergent) rfl ?_
    have hresolved : (s.resolve node).resolved node.revisionId = some node :=
      Function.update_self _ _ _
    dsimp only at h
    split_ifs at h with hactive hvisited hinvalid
    · exact .of_run h rfl
    · obtain rfl := Option.some.inj h
      exact ⟨.refl _, fun _ hclosed => hclosed, fun _ _ => ⟨hvisited, hresolved⟩⟩
    · exact .of_run h rfl
    · cases hresolver : resolver node.revisionId with
      | none =>
        rw [hresolver] at h
        exact .of_run h rfl
      | some dependencies =>
        rw [hresolver] at h
        obtain ⟨s₁, hchildren, h⟩ := Option.bind_eq_some_iff.mp h
        obtain rfl := Option.some.inj h
        have henter : Continues (s.resolve node) ((s.resolve node).enter node) :=
          ⟨fun hclean => hclean, List.Subset.refl _, fun _ _ hid => hid⟩
        exact .of_continues henter rfl
          (visit_leave hresolver hresolved (children_spec ih hchildren))

/-- Everything below the root of a closure without violations is untainted. -/
theorem untainted_of_closure {depth : Nat} {root : ImmutableReference}
    (h : validateDependencyClosure resolver detectorFacing depth root = some [])
    {reference : ImmutableReference} (hbelow : Relation.TransGen (DependsOn resolver) root reference) :
    Untainted detectorFacing reference := by
  rw [validateDependencyClosure, Option.bind_eq_bind, Option.bind_eq_some_iff] at h
  obtain ⟨s, hvisit, h⟩ := h
  have hclean : s.violations = [] := insertionSort_eq_nil.mp (Option.some.inj h)
  have hspec := visit_spec depth root _ s hvisit
  have hinitial : Closed resolver detectorFacing .initial := fun _ hid => nomatch hid
  have hclosed := hspec.closed hclean hinitial
  have hchild {parent child : ImmutableReference} (hparent : Finished s parent)
      (hdepends : DependsOn resolver parent child) :
      Untainted detectorFacing child ∧ Finished s child := by
    obtain ⟨dependencies, hresolver, hchildren⟩ := hclosed _ hparent.visited
    obtain ⟨dependencies', hresolver', hmem⟩ := hdepends
    obtain rfl := Option.some.inj (hresolver.symm.trans hresolver')
    exact hchildren child hmem
  have hboth : Untainted detectorFacing reference ∧ Finished s reference := by
    induction hbelow with
    | single hdepends => exact hchild (hspec.finished hclean hinitial) hdepends
    | tail _ hdepends ih => exact hchild ih.2 hdepends
  exact hboth.1

/-- A root that depends on nothing -/
theorem closure_leaf {root : ImmutableReference} (hrevision : isImmutableId root.revisionId)
    (hdigest : isImmutableId root.serializedSha256) (hresolver : resolver root.revisionId = some []) :
    validateDependencyClosure resolver detectorFacing 1 root = some [] := by
  have hvisit : visit resolver detectorFacing root.revisionId 1 root .initial =
      some (((ClosureSearch.initial.resolve root).enter root).leave root) := by
    rw [visit, if_neg (show ¬(ClosureSearch.initial.resolved root.revisionId).any _ from nofun)]
    dsimp only
    have hactive : root.revisionId ∉ (ClosureSearch.initial.resolve root).active :=
      List.not_mem_nil
    have hvisited : root.revisionId ∉ (ClosureSearch.initial.resolve root).visited :=
      List.not_mem_nil
    rw [if_neg hactive, if_neg hvisited, if_neg (by simp [hrevision, hdigest]), hresolver]
    rfl
  rw [validateDependencyClosure, hvisit]
  rfl

end Search

end TruthFingerprint.Evidence
