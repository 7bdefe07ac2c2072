import Mathlib
import TruthFingerprint.Lib.MarkedSearch
import TruthFingerprint.Evidence.Manifests

/-!
# The public boundary of the scenario truth

A public payload must not declare restricted truth, neither by the name of a field nor through the
provenance of an identity that it holds. The walk over the payload looks up the identities among its
values with one set of visited identities; it never looks up the name of a field.
-/

namespace TruthFingerprint.Evidence

open MarkedSearch

/-! ## Descriptors and results -/

structure ReferenceDescriptor where
  identity : Text
  audience : Text
  semanticRole : Text
  immutable : Bool
  dependencies : List Text

/-- `Resolver` -/
abbrev ReferenceResolver := Text → Option ReferenceDescriptor

structure ScenarioTruthViolation where
  ruleId : Text
  field : Text
  token : Text

structure ScenarioTruthValidationResult where
  valid : Bool
  violations : List ScenarioTruthViolation
  authorizationEffect : Text

def forbiddenTruthFields : List Text :=
  [text "truth", text "scenario_truth", text "scenario_name", text "scenario_label", text "label",
    text "attack_label", text "intervention", text "condition", text "interval",
    text "expected_outcome", text "truth_locator", text "training_label"]

def forbiddenParts : List Text :=
  [text "truth", text "scenario", text "label", text "intervention", text "expected"]

def publicRestrictedRoles : List Text :=
  [text "restricted_truth", text "truth_label", text "scenario_truth", text "legacy_v1"]

/-- A field that a public payload must not have -/
def isForbiddenField (key : Text) : Bool :=
  let keyText := casefold key
  keyText ∈ forbiddenTruthFields || forbiddenParts.any fun part => contains part keyText

def ScenarioTruthViolation.key (v : ScenarioTruthViolation) : Text ×ₗ Text ×ₗ Text :=
  toLex (v.ruleId, toLex (v.field, v.token))

/-- `_result` -/
def truthResult (violations : List ScenarioTruthViolation) : ScenarioTruthValidationResult :=
  let ordered := violations.insertionSort (·.key ≤ ·.key)
  ⟨ordered.isEmpty, ordered, text "none"⟩

theorem truthResult_valid {violations : List ScenarioTruthViolation} :
    (truthResult violations).valid ↔ violations = [] := by
  rw [truthResult, List.isEmpty_iff, insertionSort_eq_nil]

/-! ## The walk -/

abbrev BoundaryTrace := Trace Text ScenarioTruthViolation

/-- The rule and the token of a refused identity -/
abbrev Refusal := String × String

def provenanceUnresolved : Refusal :=
  ("STV1-PUBLIC-PROVENANCE-UNRESOLVED", "mapped_identity_required")

def provenanceMutable : Refusal :=
  ("STV1-PUBLIC-PROVENANCE-MUTABLE", "immutable_mapping_required")

def restrictedTaint : Refusal :=
  ("STV1-PUBLIC-RESTRICTED-TAINT", "public_compatible_required")

/-- The checks of `inspect_reference`: the dependencies of an identity that is public -/
def publicDependencies (resolver : ReferenceResolver) (identity : Text) :
    Except Refusal (List Text) :=
  match resolver identity with
  | none => .error provenanceUnresolved
  | some descriptor =>
    if descriptor.identity ≠ identity || !descriptor.immutable then .error provenanceMutable
    else if descriptor.audience ≠ text "detector_facing" ||
        descriptor.semanticRole ∈ publicRestrictedRoles then .error restrictedTaint
    else .ok descriptor.dependencies

def refusalAt (refusal : Refusal) (path : Text) : ScenarioTruthViolation :=
  ⟨text refusal.1, path, text refusal.2⟩

def forbiddenFieldAt (path : Text) : ScenarioTruthViolation :=
  ⟨text "STV1-PUBLIC-FORBIDDEN-FIELD", path, text "forbidden"⟩

def dependencyPath (path : Text) : Text := path ++ text ".dependency"

def itemPath (path : Text) (index : Nat) : Text :=
  path ++ text "[" ++ DecimalText.natText index ++ text "]"

def memberPath (path key : Text) : Text := path ++ text "." ++ key

section Walk

variable {F : Type} (resolver : ReferenceResolver) (depth : Nat)

/-- `inspect_reference`, as deep as the fuel lasts -/
def inspectReference (identity path : Text) (t : BoundaryTrace) : Option BoundaryTrace :=
  search (publicDependencies resolver) refusalAt dependencyPath depth identity path t

/-- The check of the name of a field -/
def inspectKey (key path : Text) (t : BoundaryTrace) : BoundaryTrace :=
  if isForbiddenField key then t.report (forbiddenFieldAt (memberPath path key)) else t

mutual
def inspect : Python.Value F → Text → BoundaryTrace → Option BoundaryTrace
  | .obj members, path, t => inspectMembers members path t
  | .arr items, path, t => inspectItems items 0 path t
  | .str value, path, t =>
    if isImmutableId value then inspectReference resolver depth value path t else some t
  | .null, _, t | .bool _, _, t | .num _, _, t => some t
termination_by structural value => value

def inspectItems : List (Python.Value F) → Nat → Text → BoundaryTrace → Option BoundaryTrace
  | [], _, _, t => some t
  | item :: items, index, path, t => do
    let t ← inspect item (itemPath path index) t
    inspectItems items (index + 1) path t
termination_by structural items => items

def inspectMembers : Python.Members F → Text → BoundaryTrace → Option BoundaryTrace
  | [], _, t => some t
  | member :: members, path, t => do
    let t ← inspectMember member path t
    inspectMembers members path t
termination_by structural members => members

def inspectMember : Text × Python.Value F → Text → BoundaryTrace → Option BoundaryTrace
  | (key, child), path, t => inspect child (memberPath path key) (inspectKey key path t)
termination_by structural member => member
end

def validatePublicBoundary (payload : Python.Value F) : Option ScenarioTruthValidationResult := do
  let t ← inspect resolver depth payload (text "$") .empty
  some (truthResult t.found)

theorem inspectItems_eq (items : List (Python.Value F)) (index : Nat) (path : Text)
    (t : BoundaryTrace) :
    inspectItems resolver depth items index path t =
      (items.zipIdx index).foldlM
        (fun t item => inspect resolver depth item.1 (itemPath path item.2) t) t := by
  induction items generalizing index t with
  | nil => rfl
  | cons item items ih =>
    rw [inspectItems, List.zipIdx_cons, List.foldlM_cons]
    exact bind_congr fun t => ih (index + 1) t

theorem inspectMembers_eq (members : Python.Members F) (path : Text) (t : BoundaryTrace) :
    inspectMembers resolver depth members path t =
      members.foldlM (fun t member => inspectMember resolver depth member path t) t := by
  induction members generalizing t with
  | nil => rfl
  | cons member members ih =>
    rw [inspectMembers, List.foldlM_cons]
    exact bind_congr fun t => ih t

end Walk

/-! ## What the walk has seen -/

/-- A text among the values of a payload -/
inductive HasText {F : Type} : Python.Value F → Text → Prop
  | here {value : Text} : HasText (.str value) value
  | item {items : List (Python.Value F)} {item : Python.Value F} {value : Text} :
    item ∈ items → HasText item value → HasText (.arr items) value
  | member {members : Python.Members F} {member : Text × Python.Value F} {value : Text} :
    member ∈ members → HasText member.2 value → HasText (.obj members) value

/-- The name of a field of a payload -/
inductive HasName {F : Type} : Python.Value F → Text → Prop
  | here {members : Python.Members F} {member : Text × Python.Value F} :
    member ∈ members → HasName (.obj members) member.1
  | item {items : List (Python.Value F)} {item : Python.Value F} {name : Text} :
    item ∈ items → HasName item name → HasName (.arr items) name
  | member {members : Python.Members F} {member : Text × Python.Value F} {name : Text} :
    member ∈ members → HasName member.2 name → HasName (.obj members) name

section Occurrences

variable {F : Type} {items : List (Python.Value F)} {members : Python.Members F} {s : Text}

theorem hasText_str {value : Text} : HasText (.str value : Python.Value F) s ↔ s = value := by
  constructor
  · intro h
    cases h
    rfl
  · intro h
    subst h
    exact .here

theorem hasText_arr : HasText (.arr items) s ↔ ∃ item ∈ items, HasText item s := by
  constructor
  · intro h
    cases h with
    | item hitem h => exact ⟨_, hitem, h⟩
  · intro ⟨item, hitem, h⟩
    exact .item hitem h

theorem hasText_obj : HasText (.obj members) s ↔ ∃ member ∈ members, HasText member.2 s := by
  constructor
  · intro h
    cases h with
    | member hmember h => exact ⟨_, hmember, h⟩
  · intro ⟨member, hmember, h⟩
    exact .member hmember h

theorem hasName_arr : HasName (.arr items) s ↔ ∃ item ∈ items, HasName item s := by
  constructor
  · intro h
    cases h with
    | item hitem h => exact ⟨_, hitem, h⟩
  · intro ⟨item, hitem, h⟩
    exact .item hitem h

theorem hasName_obj :
    HasName (.obj members) s ↔ ∃ member ∈ members, s = member.1 ∨ HasName member.2 s := by
  constructor
  · intro h
    cases h with
    | here hmember => exact ⟨_, hmember, .inl rfl⟩
    | member hmember h => exact ⟨_, hmember, .inr h⟩
  · intro ⟨member, hmember, h⟩
    cases h with
    | inl h =>
      subst h
      exact .here hmember
    | inr h => exact .member hmember h

end Occurrences

section Spec

variable {F : Type} {resolver : ReferenceResolver}

abbrev DependencyEdge (resolver : ReferenceResolver) : Text → Text → Prop :=
  Edge (publicDependencies resolver)

/-- A field is forbidden, or a text leads to an identity that is refused. -/
def Tainted (resolver : ReferenceResolver) (names texts : Set Text) : Prop :=
  (∃ name ∈ names, isForbiddenField name) ∨
    ∃ identity ∈ texts, isImmutableId identity ∧ ∃ x,
      Relation.ReflTransGen (DependencyEdge resolver) identity x ∧
        Refused (publicDependencies resolver) x

/-- What the walk over names and texts amounts to. -/
structure Inspection (resolver : ReferenceResolver) (names texts : Set Text)
    (t t' : BoundaryTrace) : Prop where
  progress : Progress (publicDependencies resolver) t t'
  allowed : t'.found = t.found → ∀ name ∈ names, ¬isForbiddenField name
  visited : t'.found = t.found →
    ∀ identity ∈ texts, isImmutableId identity → identity ∈ t'.visited
  tainted : t'.found ≠ t.found → Tainted resolver names texts

theorem Tainted.mono {names names' texts texts' : Set Text} (h : Tainted resolver names texts)
    (hnames : names ⊆ names') (htexts : texts ⊆ texts') : Tainted resolver names' texts' := by
  rcases h with ⟨name, hname, hforbidden⟩ | ⟨identity, hidentity, hpath⟩
  · exact .inl ⟨name, hnames hname, hforbidden⟩
  · exact .inr ⟨identity, htexts hidentity, hpath⟩

namespace Inspection

variable {names names' texts texts' : Set Text} {t t' t'' : BoundaryTrace}

theorem empty (t : BoundaryTrace) : Inspection resolver ∅ ∅ t t where
  progress := .refl t
  allowed _ _ h := h.elim
  visited _ _ h := h.elim
  tainted h := (h rfl).elim

/-- One part after the other -/
theorem trans (h : Inspection resolver names texts t t')
    (h' : Inspection resolver names' texts' t' t'') :
    Inspection resolver (names ∪ names') (texts ∪ texts') t t'' where
  progress := h.progress.trans h'.progress
  allowed heq name hname := by
    obtain ⟨hfirst, hsecond⟩ := h.progress.found_eq h'.progress heq
    rcases hname with hname | hname
    · exact h.allowed hfirst name hname
    · exact h'.allowed hsecond name hname
  visited heq identity hidentity hdigest := by
    obtain ⟨hfirst, hsecond⟩ := h.progress.found_eq h'.progress heq
    rcases hidentity with hidentity | hidentity
    · exact h'.progress.visited (h.visited hfirst identity hidentity hdigest)
    · exact h'.visited hsecond identity hidentity hdigest
  tainted hne := by
    by_cases hsame : t'.found = t.found
    · exact (h'.tainted (hsame ▸ hne)).mono Set.subset_union_right Set.subset_union_right
    · exact (h.tainted hsame).mono Set.subset_union_left Set.subset_union_left

/-- The parts of a list, one after the other -/
theorem foldlM {σ : Type} {f : BoundaryTrace → σ → Option BoundaryTrace} {parts : List σ}
    {names texts : σ → Set Text}
    (hstep : ∀ part ∈ parts, ∀ t t', f t part = some t' →
      Inspection resolver (names part) (texts part) t t')
    (h : parts.foldlM f t = some t') :
    Inspection resolver (⋃ part ∈ parts, names part) (⋃ part ∈ parts, texts part) t t' := by
  induction parts generalizing t with
  | nil =>
    obtain rfl := Option.some.inj h
    simpa using empty t
  | cons part parts ih =>
    obtain ⟨hpart, hparts⟩ := List.forall_mem_cons.mp hstep
    rw [List.foldlM_cons] at h
    obtain ⟨t₁, hnext, h⟩ := Option.bind_eq_some_iff.mp h
    simpa using (hpart t t₁ hnext).trans (ih hparts h)

/-- The name of a field -/
theorem key (key path : Text) (t : BoundaryTrace) :
    Inspection resolver {key} ∅ t (inspectKey key path t) := by
  by_cases hkey : isForbiddenField key
  · rw [inspectKey, if_pos hkey]
    refine ⟨.report t _, fun heq => ?_, fun _ _ h => h.elim, fun _ => .inl ⟨key, rfl, hkey⟩⟩
    simp at heq
  · rw [inspectKey, if_neg hkey]
    refine ⟨.refl t, fun _ name hname => ?_, fun _ _ h => h.elim, fun hne => (hne rfl).elim⟩
    rwa [Set.mem_singleton_iff.mp hname]

theorem ofText {depth : Nat} {value path : Text}
    (h : inspect resolver depth (.str value : Python.Value F) path t = some t') :
    Inspection resolver ∅ {value} t t' := by
  rw [inspect] at h
  split_ifs at h with hdigest
  · obtain ⟨hprogress, hvisited⟩ := search_spec h
    refine ⟨hprogress, fun _ _ hname => hname.elim, fun _ other hother _ => ?_, fun hne => ?_⟩
    · rwa [Set.mem_singleton_iff.mp hother]
    · exact .inr ⟨value, rfl, hdigest, search_refused h hne⟩
  · obtain rfl := Option.some.inj h
    refine ⟨.refl t, fun _ _ hname => hname.elim, fun _ other hother hshape => ?_,
      fun hne => (hne rfl).elim⟩
    rw [Set.mem_singleton_iff.mp hother] at hshape
    exact (hdigest hshape).elim

end Inspection

theorem exists_mem_zipIdx {α : Type} {items : List α} {p : α → Prop} :
    (∃ item ∈ items.zipIdx, p item.1) ↔ ∃ item ∈ items, p item := by
  constructor
  · intro ⟨item, hitem, h⟩
    exact ⟨item.1, List.fst_mem_of_mem_zipIdx hitem, h⟩
  · intro ⟨item, hitem, h⟩
    obtain ⟨index, hindex⟩ := List.mem_iff_getElem?.mp hitem
    exact ⟨(item, index), List.mk_mem_zipIdx_iff_getElem?.mpr hindex, h⟩

theorem inspect_spec {depth : Nat} (payload : Python.Value F) {path : Text} {t t' : BoundaryTrace}
    (h : inspect resolver depth payload path t = some t') :
    Inspection resolver {name | HasName payload name} {s | HasText payload s} t t' := by
  induction payload using Doc.induction generalizing path t t' with
  | null | bool | num =>
    obtain rfl := Option.some.inj h
    convert Inspection.empty t
    all_goals exact Set.eq_empty_iff_forall_notMem.mpr nofun
  | str value =>
    convert Inspection.ofText h
    · exact Set.eq_empty_iff_forall_notMem.mpr nofun
    · exact Set.ext fun s => hasText_str
  | arr items ih =>
    rw [inspect, inspectItems_eq] at h
    have hstep : ∀ item ∈ items.zipIdx, ∀ t t',
        inspect resolver depth item.1 (itemPath path item.2) t = some t' →
          Inspection resolver {name | HasName item.1 name} {s | HasText item.1 s} t t' :=
      fun item hitem t t' h => ih item.1 (List.fst_mem_of_mem_zipIdx hitem) h
    convert Inspection.foldlM hstep h
    · ext name
      rw [Set.mem_ofPred_eq, hasName_arr, ← exists_mem_zipIdx]
      simp only [Set.mem_iUnion, Set.mem_ofPred_eq, exists_prop]
    · ext s
      rw [Set.mem_ofPred_eq, hasText_arr, ← exists_mem_zipIdx]
      simp only [Set.mem_iUnion, Set.mem_ofPred_eq, exists_prop]
  | obj members ih =>
    rw [inspect, inspectMembers_eq] at h
    have hstep : ∀ member ∈ members, ∀ t t',
        inspectMember resolver depth member path t = some t' →
          Inspection resolver ({member.1} ∪ {name | HasName member.2 name})
            (∅ ∪ {s | HasText member.2 s}) t t' := by
      intro member hmember t t' h
      rw [inspectMember] at h
      exact (Inspection.key _ _ _).trans (ih member hmember h)
    convert Inspection.foldlM hstep h
    · ext name
      simp [hasName_obj]
    · ext s
      simp [hasText_obj]

/-! ## The walk comes to its end -/

theorem inspect_mono {depth depth' : Nat} (payload : Python.Value F) {path : Text}
    {t t' : BoundaryTrace} (h : inspect resolver depth payload path t = some t')
    (hle : depth ≤ depth') : inspect resolver depth' payload path t = some t' := by
  induction payload using Doc.induction generalizing path t t' with
  | null | bool | num => exact h
  | str value =>
    rw [inspect] at h ⊢
    split_ifs at h ⊢
    · exact search_mono h hle
    · exact h
  | arr items ih =>
    rw [inspect, inspectItems_eq] at h ⊢
    exact BreakLoop.foldlM_mono
      (fun item hitem t t' h => ih item.1 (List.fst_mem_of_mem_zipIdx hitem) h) h
  | obj members ih =>
    rw [inspect, inspectMembers_eq] at h ⊢
    refine BreakLoop.foldlM_mono (fun member hmember t t' h => ?_) h
    rw [inspectMember] at h ⊢
    exact ih member hmember h

theorem inspect_total {nodes : Finset Text}
    (hclosed : ∀ a ∈ nodes, ∀ b, DependencyEdge resolver a b → b ∈ nodes) {depth : Nat}
    (hdepth : nodes.card < depth) (payload : Python.Value F)
    (htexts : ∀ s, HasText payload s → isImmutableId s → s ∈ nodes) (path : Text)
    (t : BoundaryTrace) : ∃ t', inspect resolver depth payload path t = some t' := by
  induction payload using Doc.induction generalizing path t with
  | null | bool | num => exact ⟨t, rfl⟩
  | str value =>
    rw [inspect]
    split_ifs with hdigest
    · have hle := card_unmet_le nodes t
      exact search_total hclosed (htexts value .here hdigest) (lt_of_le_of_lt hle hdepth)
    · exact ⟨t, rfl⟩
  | arr items ih =>
    rw [inspect, inspectItems_eq]
    have hstep : ∀ item ∈ items.zipIdx, ∀ t : BoundaryTrace, True →
        ∃ t', inspect resolver depth item.1 (itemPath path item.2) t = some t' ∧ True := by
      intro item hitem t _
      have hmem := List.fst_mem_of_mem_zipIdx hitem
      obtain ⟨t', h⟩ := ih item.1 hmem (fun s hs => htexts s (.item hmem hs))
        (itemPath path item.2) t
      exact ⟨t', h, trivial⟩
    obtain ⟨t', h, -⟩ := BreakLoop.exists_foldlM (fun _ => True) hstep trivial
    exact ⟨t', h⟩
  | obj members ih =>
    rw [inspect, inspectMembers_eq]
    have hstep : ∀ member ∈ members, ∀ t : BoundaryTrace, True →
        ∃ t', inspectMember resolver depth member path t = some t' ∧ True := by
      intro member hmember t _
      obtain ⟨t', h⟩ := ih member hmember (fun s hs => htexts s (.member hmember hs))
        (memberPath path member.1) (inspectKey member.1 path t)
      exact ⟨t', by rw [inspectMember, h], trivial⟩
    obtain ⟨t', h, -⟩ := BreakLoop.exists_foldlM (fun _ => True) hstep trivial
    exact ⟨t', h⟩

/-! ## What is public -/

/-- The resolver describes the identity as public. -/
def IsPublic (resolver : ReferenceResolver) (identity : Text) : Prop :=
  ∃ descriptor, resolver identity = some descriptor ∧ descriptor.identity = identity ∧
    descriptor.immutable ∧ descriptor.audience = text "detector_facing" ∧
    descriptor.semanticRole ∉ publicRestrictedRoles

/-- An identity and one that it depends on -/
def Depends (resolver : ReferenceResolver) (identity dependency : Text) : Prop :=
  ∃ descriptor, resolver identity = some descriptor ∧ dependency ∈ descriptor.dependencies

/-- An identity is public with everything that it depends on. -/
def PublicClosure (resolver : ReferenceResolver) (identity : Text) : Prop :=
  ∀ x, Relation.ReflTransGen (Depends resolver) identity x → IsPublic resolver x

/-- No field of a payload is forbidden. -/
def FieldsAllowed (payload : Python.Value F) : Prop :=
  ∀ name, HasName payload name → ¬isForbiddenField name

/-- The digests among the values of a payload are public with what they depend on. -/
def ValuesPublic (resolver : ReferenceResolver) (payload : Python.Value F) : Prop :=
  ∀ value, HasText payload value → isImmutableId value → PublicClosure resolver value

/-- The digests among the names of fields are public with what they depend on. -/
def NamesPublic (resolver : ReferenceResolver) (payload : Python.Value F) : Prop :=
  ∀ name, HasName payload name → isImmutableId name → PublicClosure resolver name

theorem publicDependencies_eq_ok {identity : Text} {children : List Text} :
    publicDependencies resolver identity = .ok children ↔
      IsPublic resolver identity ∧
        ∃ descriptor, resolver identity = some descriptor ∧ descriptor.dependencies = children := by
  rw [publicDependencies, IsPublic]
  cases hresolver : resolver identity with
  | none => simp
  | some descriptor =>
    dsimp only
    split_ifs with himmutable hrestricted
    · simp only [Option.some.injEq, exists_eq_left', false_iff, not_and]
      intro hpublic
      simp [hpublic.1, hpublic.2.1] at himmutable
    · simp only [Option.some.injEq, exists_eq_left', false_iff, not_and]
      intro hpublic
      simp [hpublic.2.2] at hrestricted
    · simp only [Bool.or_eq_true, decide_eq_true_eq, not_or, not_not, Bool.not_eq_true',
        Bool.not_eq_false] at himmutable hrestricted
      simp [himmutable, hrestricted]

theorem not_refused_iff {identity : Text} :
    ¬Refused (publicDependencies resolver) identity ↔ IsPublic resolver identity := by
  constructor
  · intro h
    cases hlook : publicDependencies resolver identity with
    | error refusal => exact (h ⟨refusal, hlook⟩).elim
    | ok children => exact (publicDependencies_eq_ok.mp hlook).1
  · intro hpublic ⟨refusal, hlook⟩
    obtain ⟨descriptor, hresolver, -⟩ := id hpublic
    have hok := publicDependencies_eq_ok.mpr ⟨hpublic, descriptor, hresolver, rfl⟩
    exact nomatch hok.symm.trans hlook

theorem DependencyEdge.depends {a b : Text} (h : DependencyEdge resolver a b) :
    Depends resolver a b := by
  obtain ⟨children, hlook, hmem⟩ := h
  obtain ⟨-, descriptor, hresolver, rfl⟩ := publicDependencies_eq_ok.mp hlook
  exact ⟨descriptor, hresolver, hmem⟩

theorem Depends.edge {a b : Text} (hpublic : IsPublic resolver a) (h : Depends resolver a b) :
    DependencyEdge resolver a b := by
  obtain ⟨descriptor, hresolver, hmem⟩ := h
  exact ⟨_, publicDependencies_eq_ok.mpr ⟨hpublic, descriptor, hresolver, rfl⟩, hmem⟩

/-- The search follows the dependencies of what is public, which are all as long as nothing is
refused. -/
theorem publicClosure_iff {identity : Text} :
    PublicClosure resolver identity ↔ ∀ x,
      Relation.ReflTransGen (DependencyEdge resolver) identity x →
        ¬Refused (publicDependencies resolver) x := by
  constructor
  · intro h x hpath
    exact not_refused_iff.mpr (h x (Relation.ReflTransGen.mono (fun _ _ => DependencyEdge.depends) _ _ hpath))
  · intro h x hpath
    have hedges : Relation.ReflTransGen (DependencyEdge resolver) identity x := by
      induction hpath with
      | refl => exact .refl
      | tail _ hdepends ih => exact ih.tail (hdepends.edge (not_refused_iff.mp (h _ ih)))
    exact not_refused_iff.mp (h x hedges)

/-- A walk that has reported nothing -/
theorem inspect_clean_iff {depth : Nat} {payload : Python.Value F} {path : Text} {t : BoundaryTrace}
    (h : inspect resolver depth payload path .empty = some t) :
    t.found = [] ↔ FieldsAllowed payload ∧ ValuesPublic resolver payload := by
  have hspec := inspect_spec payload h
  constructor
  · intro hclean
    refine ⟨hspec.allowed hclean, fun value hvalue hdigest => publicClosure_iff.mpr fun x hpath => ?_⟩
    have hvisited := hspec.visited hclean value hvalue hdigest
    exact (hspec.progress.explored_of_reaches hclean hvisited hpath).not_refused
  · intro ⟨hallowed, hpublic⟩
    by_contra hne
    rcases hspec.tainted hne with ⟨name, hname, hforbidden⟩ | ⟨value, hvalue, hdigest, x, hpath, hx⟩
    · exact hallowed name hname hforbidden
    · exact publicClosure_iff.mp (hpublic value hvalue hdigest) x hpath hx

/-- The identities that can be reached from the values of a payload -/
def reachable (resolver : ReferenceResolver) (payload : Python.Value F) : Set Text :=
  {x | ∃ value, HasText payload value ∧ isImmutableId value ∧
    Relation.ReflTransGen (Depends resolver) value x}

/-- Over finitely many identities the validation returns, with what the walk looks at alone. -/
theorem validatePublicBoundary_spec {payload : Python.Value F}
    (hfinite : (reachable resolver payload).Finite) :
    ∃ result depth, (∀ depth' ≥ depth, validatePublicBoundary resolver depth' payload = some result) ∧
      (result.valid ↔ FieldsAllowed payload ∧ ValuesPublic resolver payload) := by
  have hclosed : ∀ a ∈ hfinite.toFinset, ∀ b, DependencyEdge resolver a b →
      b ∈ hfinite.toFinset := by
    intro a ha b hedge
    obtain ⟨value, hvalue, hdigest, hpath⟩ := hfinite.mem_toFinset.mp ha
    exact hfinite.mem_toFinset.mpr ⟨value, hvalue, hdigest, hpath.tail hedge.depends⟩
  obtain ⟨t, h⟩ := inspect_total hclosed (Nat.lt_succ_self _) payload
    (fun s hs hdigest => hfinite.mem_toFinset.mpr ⟨s, hs, hdigest, .refl⟩) (text "$") .empty
  refine ⟨truthResult t.found, hfinite.toFinset.card.succ, fun depth' hle => ?_, ?_⟩
  · rw [validatePublicBoundary, inspect_mono payload h hle]
    rfl
  · rw [truthResult_valid, inspect_clean_iff h]

/-- The public boundary as it is declared: no restricted truth through fields, values or names -/
def BoundaryKept (resolver : ReferenceResolver) (payload : Python.Value F) : Prop :=
  FieldsAllowed payload ∧ ValuesPublic resolver payload ∧ NamesPublic resolver payload

/-- The walk passes over digests that name fields. The validation is exact if and only if the rest of
the payload is rejected or these are public too. -/
theorem validatePublicBoundary_exact (payload : Python.Value F)
    (hfinite : (reachable resolver payload).Finite) :
    ∃ result depth, (∀ depth' ≥ depth, validatePublicBoundary resolver depth' payload = some result) ∧
      ((result.valid ↔ BoundaryKept resolver payload) ↔
        (FieldsAllowed payload → ValuesPublic resolver payload → NamesPublic resolver payload)) := by
  obtain ⟨result, depth, hresult, hvalid⟩ := validatePublicBoundary_spec hfinite
  refine ⟨result, depth, hresult, ?_⟩
  rw [hvalid, BoundaryKept]
  tauto

end Spec

/-- A public payload with one digest among its values, and nothing else -/
def referringPayload : Python.Value Unit :=
  .obj [(text "evidence", .str (sha256Id []))]

/-- The same digest as the name of a field -/
def namingPayload : Python.Value Unit :=
  .obj [(sha256Id [], .null)]

/-- A resolver that knows one identity, as restricted truth -/
def restrictedResolver : ReferenceResolver := fun identity =>
  if identity = sha256Id [] then
    some ⟨sha256Id [], text "evaluator_restricted", text "restricted_truth", true, []⟩
  else none

theorem depends_restrictedResolver {a b : Text} : ¬Depends restrictedResolver a b := by
  intro ⟨descriptor, hresolver, hmem⟩
  rw [restrictedResolver] at hresolver
  split_ifs at hresolver
  obtain rfl := Option.some.inj hresolver
  exact List.not_mem_nil hmem

theorem reachable_restrictedResolver (payload : Python.Value Unit)
    (hfinite : {s | HasText payload s}.Finite) : (reachable restrictedResolver payload).Finite := by
  refine hfinite.subset ?_
  intro x ⟨value, hvalue, _, hpath⟩
  cases hpath with
  | refl => exact hvalue
  | tail _ hdepends => exact (depends_restrictedResolver hdepends).elim

theorem validatePublicBoundary_exact_referring :
    (reachable restrictedResolver referringPayload).Finite ∧
      ∃ result depth,
        (∀ depth' ≥ depth,
          validatePublicBoundary restrictedResolver depth' referringPayload = some result) ∧
        ((result.valid ↔ BoundaryKept restrictedResolver referringPayload) ↔
          (FieldsAllowed referringPayload → ValuesPublic restrictedResolver referringPayload →
            NamesPublic restrictedResolver referringPayload)) := by
  have hfinite : (reachable restrictedResolver referringPayload).Finite := by
    refine reachable_restrictedResolver _ ((Set.finite_singleton (sha256Id [])).subset ?_)
    intro s hs
    obtain ⟨member, hmember, hs⟩ := hasText_obj.mp hs
    obtain rfl := List.mem_singleton.mp hmember
    exact hasText_str.mp hs
  exact ⟨hfinite, validatePublicBoundary_exact referringPayload hfinite⟩

theorem isForbiddenField_sample : isForbiddenField (sha256Id []) = false := by
  decide +kernel

/-- A payload is valid whose field is named by restricted truth. -/
theorem validatePublicBoundary_misses_names :
    (reachable restrictedResolver namingPayload).Finite ∧
      ∃ result, (∀ depth, validatePublicBoundary restrictedResolver depth namingPayload = some result) ∧
        result.valid ∧ ¬BoundaryKept restrictedResolver namingPayload := by
  have hnotext (s : Text) : ¬HasText namingPayload s := by
    intro hs
    obtain ⟨member, hmember, hs⟩ := hasText_obj.mp hs
    obtain rfl := List.mem_singleton.mp hmember
    cases hs
  refine ⟨reachable_restrictedResolver _ (Set.finite_empty.subset fun s hs => hnotext s hs),
    truthResult [], fun depth => ?_, truthResult_valid.mpr rfl, fun hkept => ?_⟩
  · have hkey : inspectKey (sha256Id []) (text "$") .empty = .empty := by
      rw [inspectKey, isForbiddenField_sample]
      rfl
    rw [validatePublicBoundary, namingPayload, inspect, inspectMembers_eq, List.foldlM_cons,
      inspectMember, hkey]
    rfl
  · have hname : HasName namingPayload (sha256Id []) :=
      hasName_obj.mpr ⟨_, List.mem_singleton_self _, .inl rfl⟩
    obtain ⟨descriptor, hresolver, -, -, -, hrole⟩ :=
      hkept.2.2 _ hname (isImmutableId_sha256Id _) _ .refl
    rw [restrictedResolver, if_pos rfl] at hresolver
    obtain rfl := Option.some.inj hresolver
    exact hrole List.mem_cons_self

end TruthFingerprint.Evidence
