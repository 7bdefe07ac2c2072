import Mathlib
import TruthFingerprint.Evidence.DependencyClosure
import TruthFingerprint.Lib.CycleSearch
import TruthFingerprint.Lib.Loops

/-!
# Which closures are without violations

The search of a closure comes to an end when finitely many revisions can be reached
(`visit_total`). It then reports nothing exactly if there is nothing to report (`SoundClosure`):
along the way the revisions that are active lead to the reference that is looked at, those that have
been visited come after what they depend on, and what has been resolved can be reached from the
root.
-/

namespace TruthFingerprint.Evidence

/-- What can be reached from a root, which is part of it -/
abbrev Reachable (resolver : DependencyResolver) (root : ImmutableReference) :
    ImmutableReference → Prop :=
  Relation.ReflTransGen (DependsOn resolver) root

/-- A reference whose identities have the shape of digests -/
def ImmutableReference.DigestShaped (reference : ImmutableReference) : Prop :=
  isImmutableId reference.revisionId ∧ isImmutableId reference.serializedSha256

/-- A closure in which there is nothing to report -/
structure SoundClosure (resolver : DependencyResolver) (detectorFacing : Bool)
    (root : ImmutableReference) : Prop where
  digests : ∀ reference, Reachable resolver root reference → reference.DigestShaped
  targets : ∀ reference, Reachable resolver root reference →
    (resolver reference.revisionId).isSome
  unique : ∀ reference reference', Reachable resolver root reference →
    Reachable resolver root reference' → reference.revisionId = reference'.revisionId →
    reference = reference'
  acyclic : ∀ reference, Reachable resolver root reference →
    ¬Relation.TransGen (DependsOn resolver) reference reference
  untainted : ∀ reference, Relation.TransGen (DependsOn resolver) root reference →
    Untainted detectorFacing reference

namespace ClosureOutcome

/-- Why a search does not give its violations -/
inductive Failure where
  | outOfFuel
  | unencodable
deriving DecidableEq

/-- `violations.append`, which raises when the violation cannot be encoded -/
def run (rootId : Text) (check : Check) (s : ClosureSearch) : Except Failure ClosureSearch :=
  match s.run rootId check with
  | none => .error .unencodable
  | some s' => .ok s'

variable (resolver : DependencyResolver) (detectorFacing : Bool) (rootId : Text)

/-- What the loop does with a child -/
def visitChild (visit : ImmutableReference → ClosureSearch → Except Failure ClosureSearch)
    (s : ClosureSearch) (child : ImmutableReference) : Except Failure ClosureSearch := do
  let s ← run rootId (truthTaint detectorFacing child) s
  let s ← run rootId (nonformalTaint detectorFacing child) s
  visit child s

/-- `visit`, where the end of the fuel and an error of encoding are told apart -/
def visit : Nat → ImmutableReference → ClosureSearch → Except Failure ClosureSearch
  | 0, _, _ => .error .outOfFuel
  | depth + 1, node, s =>
    if (s.resolved node.revisionId).any (· ≠ node) then run rootId (duplicateDivergent node) s
    else
      let s := s.resolve node
      if node.revisionId ∈ s.active then run rootId (graphCycle node) s
      else if node.revisionId ∈ s.visited then .ok s
      else if !(isImmutableId node.revisionId && isImmutableId node.serializedSha256) then
        run rootId (referenceInvalid node) s
      else match resolver node.revisionId with
        | none => run rootId (targetMissing node) s
        | some dependencies =>
          (·.leave node) <$>
            (byRevision dependencies).foldlM (visitChild detectorFacing rootId (visit depth))
              (s.enter node)

def validateDependencyClosure (depth : Nat) (root : ImmutableReference) :
    Except Failure (List ManifestViolation) :=
  (fun s => s.violations.insertionSort (closureKey · ≤ closureKey ·)) <$>
    visit resolver detectorFacing root.revisionId depth root .initial

section Outcome

variable {resolver : DependencyResolver} {detectorFacing : Bool} {rootId : Text} {depth : Nat}
  {node : ImmutableReference} {s : ClosureSearch}

/-- How a visit goes on. One case for each way to report, one for what has been visited, and one
for the children. -/
theorem visit_succ {motive : Except Failure ClosureSearch → Prop}
    (hdivergent : (s.resolved node.revisionId).any (· ≠ node) →
      motive (run rootId (duplicateDivergent node) s))
    (hactive : ¬(s.resolved node.revisionId).any (· ≠ node) → node.revisionId ∈ s.active →
      motive (run rootId (graphCycle node) (s.resolve node)))
    (hvisited : ¬(s.resolved node.revisionId).any (· ≠ node) → node.revisionId ∉ s.active →
      node.revisionId ∈ s.visited → motive (.ok (s.resolve node)))
    (hinvalid : ¬node.DigestShaped → motive (run rootId (referenceInvalid node) (s.resolve node)))
    (hmissing : resolver node.revisionId = none →
      motive (run rootId (targetMissing node) (s.resolve node)))
    (hchildren : ∀ dependencies, resolver node.revisionId = some dependencies →
      ¬(s.resolved node.revisionId).any (· ≠ node) → node.revisionId ∉ s.active →
      node.revisionId ∉ s.visited → node.DigestShaped →
      motive ((·.leave node) <$> (byRevision dependencies).foldlM
        (visitChild detectorFacing rootId (visit resolver detectorFacing rootId depth))
        ((s.resolve node).enter node))) :
    motive (visit resolver detectorFacing rootId (depth + 1) node s) := by
  rw [visit]
  by_cases hprior : (s.resolved node.revisionId).any (· ≠ node)
  · rw [if_pos hprior]
    exact hdivergent hprior
  rw [if_neg hprior]
  dsimp only
  split_ifs with hin hleft hshape
  · exact hactive hprior hin
  · exact hvisited hprior hin hleft
  · exact hinvalid fun ⟨hrevision, hdigest⟩ => by simp [hrevision, hdigest] at hshape
  · have hshaped : node.DigestShaped := by simpa [ImmutableReference.DigestShaped] using hshape
    cases hresolver : resolver node.revisionId with
    | none => exact hmissing hresolver
    | some dependencies => exact hchildren dependencies hresolver hprior hin hleft hshaped

/-! ## Coming to an end -/

theorem ends_run (check : Check) (s : ClosureSearch) :
    (run rootId check s).Ends (fun s' => s'.active = s.active) (· ≠ .outOfFuel) := by
  rw [run]
  cases hrun : s.run rootId check with
  | none => exact Failure.noConfusion
  | some s' =>
    obtain ⟨_, -, hs'⟩ := Option.bind_eq_some_iff.mp hrun
    rw [← Option.some.inj hs']
    rfl

/-- The fuel that suffices is one more than there are revisions off the path. The visit leaves the
path as it was. -/
theorem visit_total {ids : Finset Text}
    (hclosed : ∀ id ∈ ids, ∀ dependencies, resolver id = some dependencies →
      ∀ child ∈ dependencies, child.revisionId ∈ ids)
    (hnode : node.revisionId ∈ ids) (hdepth : (ids.filter (· ∉ s.active)).card < depth) :
    (visit resolver detectorFacing rootId depth node s).Ends (fun s' => s'.active = s.active)
      (· ≠ .outOfFuel) := by
  induction depth generalizing node s with
  | zero => cases hdepth
  | succ depth ih =>
    refine visit_succ (fun _ => ends_run _ _) (fun _ _ => ends_run _ _) (fun _ _ _ => rfl)
      (fun _ => ends_run _ _) (fun _ => ends_run _ _) ?_
    intro dependencies hresolver _ hactive _ _
    have hless : (ids.filter (· ∉ node.revisionId :: s.active)).card <
        (ids.filter (· ∉ s.active)).card := by
      refine Finset.card_lt_card (Finset.ssubset_iff_of_subset ?_ |>.mpr ⟨node.revisionId, ?_, ?_⟩)
      · intro id hid
        simp only [Finset.mem_filter, List.mem_cons, not_or] at hid ⊢
        exact ⟨hid.1, hid.2.2⟩
      · exact Finset.mem_filter.mpr ⟨hnode, hactive⟩
      · simp
    have hloop : ((byRevision dependencies).foldlM
        (visitChild detectorFacing rootId (visit resolver detectorFacing rootId depth))
        ((s.resolve node).enter node)).Ends
        (fun s' => s'.active = node.revisionId :: s.active) (· ≠ .outOfFuel) := by
      refine List.ends_foldlM (fun child hchild s₁ hs₁ => ?_) rfl
      have hid := hclosed _ hnode dependencies hresolver child (mem_byRevision.mp hchild)
      refine (ends_run _ s₁).bind fun s₂ hs₂ => (ends_run _ s₂).bind fun s₃ hs₃ => ?_
      have hpath : s₃.active = node.revisionId :: s.active := hs₃.trans (hs₂.trans hs₁)
      rw [← hpath] at hless ⊢
      exact ih hid (by omega)
    refine hloop.map fun s' hs' => ?_
    rw [ClosureSearch.leave, hs', List.erase_cons_head]

variable {below below' : ImmutableReference → ClosureSearch → Except Failure ClosureSearch}

theorem visitChild_mono
    (hbelow : ∀ node s, below node s ≠ .error .outOfFuel → below' node s = below node s)
    {child : ImmutableReference}
    (h : visitChild detectorFacing rootId below s child ≠ .error .outOfFuel) :
    visitChild detectorFacing rootId below' s child =
      visitChild detectorFacing rootId below s child := by
  unfold visitChild at h ⊢
  cases htruth : run rootId (truthTaint detectorFacing child) s with
  | error failure => rfl
  | ok s₁ =>
    rw [htruth] at h
    change (run rootId (nonformalTaint detectorFacing child) s₁ >>= below child) ≠ _ at h
    change (run rootId (nonformalTaint detectorFacing child) s₁ >>= below' child) =
      (run rootId (nonformalTaint detectorFacing child) s₁ >>= below child)
    cases hformal : run rootId (nonformalTaint detectorFacing child) s₁ with
    | error failure => rfl
    | ok s₂ =>
      rw [hformal] at h
      exact hbelow child s₂ h

theorem children_mono
    (hbelow : ∀ node s, below node s ≠ .error .outOfFuel → below' node s = below node s)
    {children : List ImmutableReference}
    (h : children.foldlM (visitChild detectorFacing rootId below) s ≠ .error .outOfFuel) :
    children.foldlM (visitChild detectorFacing rootId below') s =
      children.foldlM (visitChild detectorFacing rootId below) s := by
  induction children generalizing s with
  | nil => rfl
  | cons child children ih =>
    rw [List.foldlM_cons] at h ⊢
    have hchild : visitChild detectorFacing rootId below s child ≠ .error .outOfFuel := by
      intro hout
      rw [hout] at h
      exact h rfl
    rw [List.foldlM_cons, visitChild_mono hbelow hchild]
    cases hfirst : visitChild detectorFacing rootId below s child with
    | error failure => rfl
    | ok s₁ =>
      rw [hfirst] at h
      exact ih h

/-- More fuel does not change how a visit ends. -/
theorem visit_mono (h : visit resolver detectorFacing rootId depth node s ≠ .error .outOfFuel) :
    visit resolver detectorFacing rootId (depth + 1) node s =
      visit resolver detectorFacing rootId depth node s := by
  induction depth generalizing node s with
  | zero => exact (h rfl).elim
  | succ depth ih =>
    rw [visit] at h ⊢
    rw [visit]
    dsimp only at h ⊢
    split_ifs at h ⊢
    · rfl
    · rfl
    · rfl
    · rfl
    · cases hresolver : resolver node.revisionId with
      | none => rfl
      | some dependencies =>
        simp only [hresolver] at h ⊢
        refine congrArg _ (children_mono (fun node s => ih) fun hout => ?_)
        rw [hout] at h
        exact h rfl

theorem visit_of_le {depth' : Nat} (hle : depth ≤ depth')
    (h : visit resolver detectorFacing rootId depth node s ≠ .error .outOfFuel) :
    visit resolver detectorFacing rootId depth' node s =
      visit resolver detectorFacing rootId depth node s := by
  induction depth', hle using Nat.le_induction with
  | base => rfl
  | succ depth' _ ih => rw [visit_mono (ih ▸ h), ih]

/-! ## Reporting -/

/-- A reference whose values can be shown -/
structure Showable (reference : ImmutableReference) : Prop where
  revisionId : isEncodable reference.revisionId
  contractId : isEncodable reference.contractId
  evidenceRole : isEncodable reference.evidenceRole

theorem bounded_isSome {value : Text} (h : isEncodable value) : (bounded value).isSome := by
  have hrendered : isEncodable (value.flatMap fun c => if c.val = 0 then text "[NUL]" else [c]) := by
    rw [isEncodable_iff] at h ⊢
    intro c hc
    obtain ⟨d, hd, hc⟩ := List.mem_flatMap.mp hc
    split_ifs at hc
    · exact isEncodable_iff.mp (isEncodable_text "[NUL]") c hc
    · exact List.mem_singleton.mp hc ▸ h d hd
  rw [bounded, if_pos hrendered]
  split_ifs <;> rfl

theorem shown_run {check : Check} (hroot : isEncodable rootId)
    (hexpected : isEncodable check.expected) (hobserved : isEncodable check.observed) (s : ClosureSearch) :
    (run rootId check s).Ends (fun _ => True) (· ≠ .unencodable) := by
  obtain ⟨record, hrecord⟩ := Option.isSome_iff_exists.mp (bounded_isSome hroot)
  obtain ⟨expected, hexpected⟩ := Option.isSome_iff_exists.mp (bounded_isSome hexpected)
  obtain ⟨observed, hobserved⟩ := Option.isSome_iff_exists.mp (bounded_isSome hobserved)
  have hviolations : (check.run rootId).isSome := by
    rw [Check.run]
    split_ifs
    · rfl
    · simp [violation, hrecord, hexpected, hobserved]
  obtain ⟨violations, hviolations⟩ := Option.isSome_iff_exists.mp hviolations
  simp [run, ClosureSearch.run, hviolations, Except.Ends]

/-- A closure whose values can be shown raises nothing. -/
theorem visit_shown {root : ImmutableReference} (hroot : isEncodable rootId)
    (hshown : ∀ reference, Reachable resolver root reference → Showable reference)
    (hnode : Reachable resolver root node) :
    (visit resolver detectorFacing rootId depth node s).Ends (fun _ => True) (· ≠ .unencodable) := by
  induction depth generalizing node s with
  | zero => exact Failure.noConfusion
  | succ depth ih =>
    have hrevision := (hshown node hnode).revisionId
    refine visit_succ (fun _ => shown_run hroot (isEncodable_text _) hrevision _)
      (fun _ _ => shown_run hroot (isEncodable_text _) hrevision _) (fun _ _ _ => trivial)
      (fun _ => shown_run hroot (isEncodable_text _) hrevision _)
      (fun _ => shown_run hroot (isEncodable_text _) hrevision _) ?_
    intro dependencies hresolver _ _ _ _
    refine (List.ends_foldlM (P := fun _ => True) (fun child hchild s₁ _ => ?_) trivial).map
      fun _ _ => trivial
    have hreach : Reachable resolver root child :=
      hnode.tail ⟨dependencies, hresolver, mem_byRevision.mp hchild⟩
    have hvalues := hshown child hreach
    exact (shown_run hroot (isEncodable_text _) hvalues.contractId s₁).bind fun s₂ _ =>
      (shown_run hroot (isEncodable_text _) hvalues.evidenceRole s₂).bind fun s₃ _ => ih hreach

/-! ## Nothing to report -/

theorem run_of_ok {check : Check} (h : check.ok) : run rootId check s = .ok s := by
  rw [run, ClosureSearch.run, Check.run_eq_nil.mpr h, Option.bind_eq_bind, Option.bind_some,
    List.append_nil]

/-- What has been resolved can be reached from the root. -/
def Known (resolver : DependencyResolver) (root : ImmutableReference) (s : ClosureSearch) : Prop :=
  ∀ id reference, s.resolved id = some reference →
    Reachable resolver root reference ∧ reference.revisionId = id

/-- The active revisions lead to a reference. -/
def Leading (resolver : DependencyResolver) (root : ImmutableReference) (s : ClosureSearch)
    (node : ImmutableReference) : Prop :=
  ∀ id ∈ s.active, ∃ reference, Reachable resolver root reference ∧ reference.revisionId = id ∧
    Relation.TransGen (DependsOn resolver) reference node

/-- What a visit in a sound closure leaves behind -/
structure Quiet (resolver : DependencyResolver) (root : ImmutableReference)
    (s s' : ClosureSearch) : Prop where
  violations : s'.violations = s.violations
  active : s'.active = s.active
  known : Known resolver root s'

variable {root : ImmutableReference}

theorem Known.resolve (h : Known resolver root s) (hnode : Reachable resolver root node) :
    Known resolver root (s.resolve node) := by
  intro id reference hid
  by_cases heq : id = node.revisionId
  · obtain rfl := heq
    obtain rfl : node = reference := by simpa [ClosureSearch.resolve] using hid
    exact ⟨hnode, rfl⟩
  · exact h id reference ((Function.update_of_ne heq _ _).symm.trans hid)

/-- In a sound closure no visit reports anything. -/
theorem visit_quiet (hsound : SoundClosure resolver detectorFacing root)
    (hnode : Reachable resolver root node) (hknown : Known resolver root s)
    (hleading : Leading resolver root s node) :
    (visit resolver detectorFacing rootId depth node s).Ends (Quiet resolver root s)
      (· = .outOfFuel) := by
  induction depth generalizing node s with
  | zero => rfl
  | succ depth ih =>
    refine visit_succ (fun hdivergent => ?_) (fun _ hactive => ?_) (fun _ _ _ => ?_)
      (fun hshape => ?_) (fun hmissing => ?_) ?_
    · obtain ⟨prior, hprior, hne⟩ := (Option.any_eq_true _ _).mp hdivergent
      obtain ⟨hreach, hid⟩ := hknown _ _ hprior
      exact (of_decide_eq_true hne (hsound.unique prior node hreach hnode hid)).elim
    · obtain ⟨reference, hreach, hid, hpath⟩ := hleading _ hactive
      obtain rfl := hsound.unique reference node hreach hnode hid
      exact (hsound.acyclic _ hreach hpath).elim
    · exact ⟨rfl, rfl, hknown.resolve hnode⟩
    · exact (hshape (hsound.digests node hnode)).elim
    · have htarget := hsound.targets node hnode
      rw [hmissing] at htarget
      cases htarget
    · intro dependencies hresolver _ _ _ _
      have hloop : ((byRevision dependencies).foldlM
          (visitChild detectorFacing rootId (visit resolver detectorFacing rootId depth))
          ((s.resolve node).enter node)).Ends (Quiet resolver root ((s.resolve node).enter node))
          (· = .outOfFuel) := by
        refine List.ends_foldlM (fun child hchild s₁ hs₁ => ?_) ⟨rfl, rfl, hknown.resolve hnode⟩
        have hdepends : DependsOn resolver node child :=
          ⟨dependencies, hresolver, mem_byRevision.mp hchild⟩
        have hclean := hsound.untainted child (.tail' hnode hdepends)
        have htruth : (truthTaint detectorFacing child).ok := by
          cases detectorFacing with
          | false => rfl
          | true => simpa [truthTaint] using (hclean rfl).1
        have hformal : (nonformalTaint detectorFacing child).ok := by
          cases detectorFacing with
          | false => rfl
          | true => simpa [nonformalTaint] using (hclean rfl).2
        rw [visitChild, run_of_ok htruth]
        change (run rootId (nonformalTaint detectorFacing child) s₁ >>= _).Ends _ _
        rw [run_of_ok hformal]
        -- The path to the child goes through the reference that is visited.
        have hpath : Leading resolver root s₁ child := by
          intro id hid
          rw [hs₁.active] at hid
          rcases List.mem_cons.mp hid with rfl | hid
          · exact ⟨node, hnode, rfl, .single hdepends⟩
          · obtain ⟨reference, hreach, href, hpath⟩ := hleading id hid
            exact ⟨reference, hreach, href, hpath.tail hdepends⟩
        exact (ih (hnode.tail hdepends) hs₁.known hpath).imp fun s₂ hs₂ =>
          ⟨hs₂.violations.trans hs₁.violations, hs₂.active.trans hs₁.active, hs₂.known⟩
      refine hloop.map fun s' hs' => ⟨hs'.violations, ?_, hs'.known⟩
      have henter : ((s.resolve node).enter node).active = node.revisionId :: s.active := rfl
      rw [ClosureSearch.leave, hs'.active, henter, List.erase_cons_head]

/-! ## Nothing to be found -/

theorem toOption_run (check : Check) : (run rootId check s).toOption = s.run rootId check := by
  rw [run]
  cases s.run rootId check <;> rfl

theorem toOption_bind {ε α β : Type} (x : Except ε α) (f : α → Except ε β) :
    (x >>= f).toOption = x.toOption.bind fun a => (f a).toOption := by
  cases x <;> rfl

/-- The search is the one above. -/
theorem toOption_visit : (visit resolver detectorFacing rootId depth node s).toOption =
    Evidence.visit resolver detectorFacing rootId depth node s := by
  induction depth generalizing node s with
  | zero => rfl
  | succ depth ih =>
    have hloop (children : List ImmutableReference) (s : ClosureSearch) :
        (children.foldlM (visitChild detectorFacing rootId
          (visit resolver detectorFacing rootId depth)) s).toOption =
        children.foldlM (fun s child => do
          let s ← s.run rootId (truthTaint detectorFacing child)
          let s ← s.run rootId (nonformalTaint detectorFacing child)
          Evidence.visit resolver detectorFacing rootId depth child s) s := by
      induction children generalizing s with
      | nil => rfl
      | cons child children hchildren =>
        rw [List.foldlM_cons, List.foldlM_cons, toOption_bind, visitChild, toOption_bind,
          toOption_run, Option.bind_eq_bind]
        simp only [toOption_bind, toOption_run, ih, hchildren]
        rfl
    rw [visit, Evidence.visit]
    dsimp only
    split_ifs
    · exact toOption_run _
    · exact toOption_run _
    · rfl
    · exact toOption_run _
    · cases hresolver : resolver node.revisionId with
      | none => exact toOption_run _
      | some dependencies =>
        dsimp only
        rw [← hloop]
        generalize (byRevision dependencies).foldlM (visitChild detectorFacing rootId
          (visit resolver detectorFacing rootId depth)) ((s.resolve node).enter node) = outcome
        cases outcome <;> rfl

theorem toOption_validateDependencyClosure :
    (validateDependencyClosure resolver detectorFacing depth root).toOption =
      Evidence.validateDependencyClosure resolver detectorFacing depth root := by
  rw [validateDependencyClosure, Evidence.validateDependencyClosure, ← toOption_visit]
  cases visit resolver detectorFacing root.revisionId depth root .initial <;> rfl

/-- The revisions that a revision depends on -/
def dependencyIds (resolver : DependencyResolver) (id : Text) : List Text :=
  ((resolver id).getD []).map (·.revisionId)

/-- What has been visited comes after what it depends on, and it has the shape of a digest. -/
structure Ordered (resolver : DependencyResolver) (s : ClosureSearch) : Prop where
  layered : CycleSearch.Layered (dependencyIds resolver) s.visited
  digests : ∀ id ∈ s.visited, ∃ reference, s.resolved id = some reference ∧ reference.DigestShaped

theorem Ordered.of_continues {s' : ClosureSearch} (h : Ordered resolver s)
    (hcontinues : Continues s s') (hvisited : s'.visited = s.visited) : Ordered resolver s' := by
  refine ⟨hvisited ▸ h.layered, fun id hid => ?_⟩
  obtain ⟨reference, hreference, hshape⟩ := h.digests id (hvisited ▸ hid)
  exact ⟨reference, hcontinues.resolved id reference hreference, hshape⟩

/-- A check leaves what has been visited as it is. -/
theorem ordered_run {s' : ClosureSearch} {check : Check} (h : Ordered resolver s)
    (hrun : s.run rootId check = some s') : Ordered resolver s' := by
  have hcontinues := (run_cases hrun).1
  obtain ⟨_, -, hs'⟩ := Option.bind_eq_some_iff.mp hrun
  obtain rfl := Option.some.inj hs'
  exact h.of_continues hcontinues rfl

theorem ordered_children
    (hvisit : ∀ node s s', Evidence.visit resolver detectorFacing rootId depth node s = some s' →
      s'.violations = [] → Closed resolver detectorFacing s → Ordered resolver s →
      Ordered resolver s')
    {children : List ImmutableReference} {s' : ClosureSearch}
    (h : children.foldlM (fun s child => do
      let s ← s.run rootId (truthTaint detectorFacing child)
      let s ← s.run rootId (nonformalTaint detectorFacing child)
      Evidence.visit resolver detectorFacing rootId depth child s) s = some s')
    (hviolations : s'.violations = []) (hclosed : Closed resolver detectorFacing s)
    (hordered : Ordered resolver s) : Ordered resolver s' := by
  induction children generalizing s with
  | nil =>
    obtain rfl := Option.some.inj h
    exact hordered
  | cons child children ih =>
    rw [List.foldlM_cons, Option.bind_eq_bind, Option.bind_eq_some_iff] at h
    obtain ⟨s₃, hbody, h⟩ := h
    obtain ⟨s₁, htruth, hafter⟩ := Option.bind_eq_some_iff.mp hbody
    obtain ⟨s₂, hformal, hchild⟩ := Option.bind_eq_some_iff.mp hafter
    have hviolations₃ := (children_spec (visit_spec depth) h).1.violations hviolations
    have hspec := visit_spec depth child s₂ s₃ hchild
    have hviolations₂ := hspec.continues.violations hviolations₃
    obtain ⟨-, rfl⟩ := (run_cases hformal).2 hviolations₂
    obtain ⟨-, rfl⟩ := (run_cases htruth).2 hviolations₂
    exact ih h (hspec.closed hviolations₃ hclosed)
      (hvisit child _ s₃ hchild hviolations₃ hclosed hordered)

theorem ordered_visit {s' : ClosureSearch}
    (h : Evidence.visit resolver detectorFacing rootId depth node s = some s')
    (hviolations : s'.violations = []) (hclosed : Closed resolver detectorFacing s)
    (hordered : Ordered resolver s) : Ordered resolver s' := by
  induction depth generalizing node s s' with
  | zero => cases h
  | succ depth ih =>
    rw [Evidence.visit] at h
    by_cases hdivergent : (s.resolved node.revisionId).any (· ≠ node)
    · rw [if_pos hdivergent] at h
      exact ordered_run hordered h
    rw [if_neg hdivergent] at h
    have hcontinues := continues_resolve hdivergent
    have hresolve : Ordered resolver (s.resolve node) := hordered.of_continues hcontinues rfl
    dsimp only at h
    split_ifs at h with hactive hvisited hinvalid
    · exact ordered_run hresolve h
    · obtain rfl := Option.some.inj h
      exact hresolve
    · exact ordered_run hresolve h
    · cases hresolver : resolver node.revisionId with
      | none =>
        rw [hresolver] at h
        exact ordered_run hresolve h
      | some dependencies =>
        rw [hresolver] at h
        obtain ⟨s₁, hchildren, h⟩ := Option.bind_eq_some_iff.mp h
        obtain rfl := Option.some.inj h
        have hopen : Continues s ((s.resolve node).enter node) :=
          ⟨hcontinues.violations, hcontinues.visited, hcontinues.resolved⟩
        have hclosed' : Closed resolver detectorFacing ((s.resolve node).enter node) := by
          intro id hid
          obtain ⟨dependencies', hresolver', hrest⟩ := hclosed id hid
          exact ⟨dependencies', hresolver', fun child hchild =>
            ⟨(hrest child hchild).1, (hrest child hchild).2.mono hopen⟩⟩
        have hordered₁ : Ordered resolver s₁ := ordered_children (fun _ _ _ => ih) hchildren
          hviolations hclosed' (hordered.of_continues hopen rfl)
        obtain ⟨hcontinues₁, hspec⟩ := children_spec (visit_spec depth) hchildren
        obtain ⟨-, hfinished⟩ := hspec hviolations hclosed'
        have hresolved : s₁.resolved node.revisionId = some node :=
          hcontinues₁.resolved _ _ (Function.update_self _ _ _)
        refine ⟨.cons ?_ hordered₁.layered, List.forall_mem_cons.mpr ⟨⟨node, hresolved, ?_⟩,
          hordered₁.digests⟩⟩
        · intro id hid
          rw [dependencyIds, hresolver, Option.getD_some] at hid
          obtain ⟨child, hchild, rfl⟩ := List.mem_map.mp hid
          exact (hfinished child (mem_byRevision.mpr hchild)).2.visited
        · simpa [ImmutableReference.DigestShaped] using hinvalid

theorem transGen_dependencyIds {reference reference' : ImmutableReference}
    (h : Relation.TransGen (DependsOn resolver) reference reference') :
    Relation.TransGen (fun id id' => id' ∈ dependencyIds resolver id) reference.revisionId
      reference'.revisionId := by
  refine Relation.TransGen.lift (·.revisionId) (fun parent child hdepends => ?_) _ _ h
  obtain ⟨dependencies, hresolver, hchild⟩ := hdepends
  change child.revisionId ∈ dependencyIds resolver parent.revisionId
  rw [dependencyIds, hresolver, Option.getD_some]
  exact List.mem_map_of_mem hchild

/-- A closure in which nothing is reported is sound. -/
theorem sound_of_closure
    (h : Evidence.validateDependencyClosure resolver detectorFacing depth root = some []) :
    SoundClosure resolver detectorFacing root := by
  have huntainted (reference : ImmutableReference) :
      Relation.TransGen (DependsOn resolver) root reference → Untainted detectorFacing reference :=
    untainted_of_closure h
  rw [Evidence.validateDependencyClosure, Option.bind_eq_bind, Option.bind_eq_some_iff] at h
  obtain ⟨s, hvisit, h⟩ := h
  have hclean : s.violations = [] := insertionSort_eq_nil.mp (Option.some.inj h)
  have hspec := visit_spec depth root _ s hvisit
  have hinitial : Closed resolver detectorFacing .initial := fun _ hid =>
    absurd hid List.not_mem_nil
  have hclosed := hspec.closed hclean hinitial
  have hordered := ordered_visit hvisit hclean hinitial ⟨.nil, fun _ hid => absurd hid List.not_mem_nil⟩
  have hfinished (reference : ImmutableReference) (hreach : Reachable resolver root reference) :
      Finished s reference := by
    induction hreach with
    | refl => exact hspec.finished hclean hinitial
    | tail _ hdepends ih =>
      obtain ⟨dependencies, hresolver, hchildren⟩ := hclosed _ ih.visited
      obtain ⟨dependencies', hresolver', hmem⟩ := hdepends
      obtain rfl := Option.some.inj (hresolver.symm.trans hresolver')
      exact (hchildren _ hmem).2
  refine ⟨fun reference hreach => ?_, fun reference hreach => ?_, fun reference reference' hreach
    hreach' hid => ?_, fun reference hreach hcycle => ?_, huntainted⟩
  · obtain ⟨reference', hresolved, hshape⟩ := hordered.digests _ (hfinished reference hreach).visited
    obtain rfl := Option.some.inj ((hfinished reference hreach).resolved.symm.trans hresolved)
    exact hshape
  · obtain ⟨dependencies, hresolver, -⟩ := hclosed _ (hfinished reference hreach).visited
    rw [hresolver]
    rfl
  · have hresolved := (hfinished reference hreach).resolved
    rw [hid, (hfinished reference' hreach').resolved] at hresolved
    exact (Option.some.inj hresolved).symm
  · exact hordered.layered.not_cyclic (hfinished reference hreach).visited
      (transGen_dependencyIds hcycle)

/-! ## The closure -/

/-- A closure is validated in finitely many steps, and exactly a sound one without violations. When
its values can be shown, violations are returned. -/
theorem validateDependencyClosure_iff_sound (resolver : DependencyResolver) (detectorFacing : Bool)
    (root : ImmutableReference)
    (hfinite : {id | ∃ reference, Reachable resolver root reference ∧
      reference.revisionId = id}.Finite) :
    ∃ outcome, outcome ≠ .error .outOfFuel ∧
      (∃ fuel, ∀ depth, fuel ≤ depth →
        validateDependencyClosure resolver detectorFacing depth root = outcome) ∧
      ((∀ reference, Reachable resolver root reference → Showable reference) →
        ∃ violations, outcome = .ok violations) ∧
      (outcome = .ok [] ↔ SoundClosure resolver detectorFacing root) := by
  classical
  have hmem {id : Text} : id ∈ hfinite.toFinset ↔
      ∃ reference, Reachable resolver root reference ∧ reference.revisionId = id :=
    hfinite.mem_toFinset
  have hclosed : ∀ id ∈ hfinite.toFinset, ∀ dependencies, resolver id = some dependencies →
      ∀ child ∈ dependencies, child.revisionId ∈ hfinite.toFinset := by
    intro id hid dependencies hresolver child hchild
    obtain ⟨reference, hreach, rfl⟩ := hmem.mp hid
    exact hmem.mpr ⟨child, hreach.tail ⟨dependencies, hresolver, hchild⟩, rfl⟩
  obtain ⟨fuel, htotal⟩ : ∃ fuel, (visit resolver detectorFacing root.revisionId fuel root
      .initial).Ends (fun s => s.active = []) (· ≠ .outOfFuel) :=
    ⟨_, visit_total hclosed (hmem.mpr ⟨root, .refl, rfl⟩)
      ((Finset.card_filter_le _ _).trans_lt (Nat.lt_succ_self _))⟩
  have hnot : visit resolver detectorFacing root.revisionId fuel root .initial ≠
      .error .outOfFuel := by
    intro hout
    rw [hout] at htotal
    exact htotal rfl
  refine ⟨validateDependencyClosure resolver detectorFacing fuel root, ?_, ⟨fuel, ?_⟩, ?_, ?_, ?_⟩
  · intro hout
    rw [validateDependencyClosure] at hout
    cases hvisit : visit resolver detectorFacing root.revisionId fuel root .initial with
    | error failure =>
      rw [hvisit] at hout hnot
      exact hnot (congrArg _ (Except.error.inj hout))
    | ok s =>
      rw [hvisit] at hout
      cases hout
  · intro depth hle
    rw [validateDependencyClosure, visit_of_le hle hnot, validateDependencyClosure]
  · intro hshown
    have hends : (visit resolver detectorFacing root.revisionId fuel root .initial).Ends
        (fun _ => True) (· ≠ .unencodable) := visit_shown (hshown root .refl).revisionId hshown .refl
    rw [validateDependencyClosure]
    cases hvisit : visit resolver detectorFacing root.revisionId fuel root .initial with
    | error failure =>
      rw [hvisit] at hends hnot
      cases failure with
      | outOfFuel => exact (hnot rfl).elim
      | unencodable => exact (hends rfl).elim
    | ok s => exact ⟨_, rfl⟩
  · intro hclean
    have hclosure : Evidence.validateDependencyClosure resolver detectorFacing fuel root =
        some [] := by
      rw [← toOption_validateDependencyClosure, hclean]
      rfl
    exact sound_of_closure hclosure
  · intro hsound
    have hquiet : (visit resolver detectorFacing root.revisionId fuel root .initial).Ends
        (Quiet resolver root .initial) (· = .outOfFuel) :=
      visit_quiet hsound .refl (fun _ _ hid => nomatch hid) (fun _ hid => nomatch hid)
    rw [validateDependencyClosure]
    cases hvisit : visit resolver detectorFacing root.revisionId fuel root .initial with
    | error failure =>
      rw [hvisit] at hquiet hnot
      exact (hnot (congrArg _ hquiet)).elim
    | ok s =>
      rw [hvisit] at hquiet
      have hviolations : s.violations = [] := hquiet.violations
      exact congrArg _ (insertionSort_eq_nil.mpr hviolations)

end Outcome

/-- A reference that is named by a digit -/
def sampleNode (n : Fin 16) : ImmutableReference :=
  ⟨(sampleId n).val, (sampleId n).val, none, text "metrics.scores", text "v1",
    text "repo:metrics/scores", text "formal"⟩

/-- Two references, of which the first depends on the second too -/
def sampleClosure : DependencyResolver := fun id =>
  if id = (sampleId 0).val then some [sampleNode 2, sampleNode 1]
  else if id = (sampleId 1).val then some [sampleNode 2]
  else some []

theorem finite_sampleClosure : {id | ∃ reference,
    Reachable sampleClosure (sampleNode 0) reference ∧ reference.revisionId = id}.Finite := by
  have hmem {reference : ImmutableReference}
      (hreach : Reachable sampleClosure (sampleNode 0) reference) :
      reference ∈ [sampleNode 0, sampleNode 1, sampleNode 2] := by
    cases hreach with
    | refl => simp
    | @tail parent _ _ hdepends =>
      obtain ⟨dependencies, hresolver, hchild⟩ := hdepends
      rw [sampleClosure] at hresolver
      have hbelow : reference ∈ [sampleNode 2, sampleNode 1] := by
        split_ifs at hresolver <;> obtain rfl := Option.some.inj hresolver
        · exact hchild
        · exact List.mem_singleton.mp hchild ▸ List.mem_cons_self
        · cases hchild
      exact List.mem_cons_of_mem _ ((List.Perm.swap _ _ _).mem_iff.mp hbelow)
  refine (List.finite_toSet ([sampleNode 0, sampleNode 1, sampleNode 2].map
    (·.revisionId))).subset ?_
  rintro id ⟨reference, hreach, rfl⟩
  exact List.mem_map_of_mem (hmem hreach)

/-- A revision that two others depend on -/
theorem sampleClosure_iff_sound :
    ∃ outcome, outcome ≠ .error .outOfFuel ∧
      (∃ fuel, ∀ depth, fuel ≤ depth →
        validateDependencyClosure sampleClosure true depth (sampleNode 0) = outcome) ∧
      ((∀ reference, Reachable sampleClosure (sampleNode 0) reference → Showable reference) →
        ∃ violations, outcome = .ok violations) ∧
      (outcome = .ok [] ↔ SoundClosure sampleClosure true (sampleNode 0)) :=
  validateDependencyClosure_iff_sound sampleClosure true (sampleNode 0) finite_sampleClosure

end ClosureOutcome

end TruthFingerprint.Evidence
