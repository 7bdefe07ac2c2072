import Mathlib
import TruthFingerprint.Evidence.ConsensusParameters

/-!
# What a valid parameter set is bound to

A record that declares its digest itself is taken at its word. Every other record of a valid
parameter set is hashed, and no field of it can be changed unnoticed (`bound_of_valid`). The set is
bound to the contents of all its records only if none of them is taken at its word
(`boundToContents_iff`).
-/

namespace TruthFingerprint.ConsensusParameters

section Statement

variable (containerText : RecordValue → Text) (resolvers : ConsensusParameterResolvers)

/-- The hash of the fields, with or without the identity fields, is the digest. -/
def Hashed (reference : Reference) : Prop :=
  recordHash (resolvers reference.kind reference.id) [] = some reference.expected ∨
    recordHash (resolvers reference.kind reference.id) reference.kind.selfFields =
      some reference.expected

def Declared (reference : Reference) : Prop :=
  declares containerText (resolvers reference.kind reference.id) reference.expected
    reference.kind.selfFields

instance (reference : Reference) : Decidable (Declared containerText resolvers reference) :=
  inferInstanceAs (Decidable (_ = true))

/-- The resolvers, with another record in the place of one -/
def replaced (kind : RecordKind) (id : Text) (record : Record) : ConsensusParameterResolvers :=
  Function.update resolvers kind (Function.update (resolvers kind) id (some record))

end Statement

/-- What a record has besides its identity fields, in canonical order -/
def otherFields (kind : RecordKind) (record : Record) : Option (Doc Text) :=
  record.fields.map fun fields =>
    (Doc.obj (others kind.selfFields fields.members)).sortKeys.map RecordNumber.literal id

/-- Some other field is changed, and the identity fields are not. -/
structure Tampered (kind : RecordKind) (record record' : Record) : Prop where
  identity : ∀ name ∈ kind.selfFields,
    value (some record') name (.str []) = value (some record) name (.str [])
  changed : otherFields kind record' ≠ otherFields kind record

/-- The texts that a record is hashed as -/
def hashedTexts (kind : RecordKind) (record : Record) : List Text :=
  (recordText (some record) []).toList ++ (recordText (some record) kind.selfFields).toList

def NoCollision (kind : RecordKind) (record record' : Record) : Prop :=
  ∀ t ∈ hashedTexts kind record, ∀ t' ∈ hashedTexts kind record', sha256Id t = sha256Id t' → t = t'

section Statement

variable (containerText : RecordValue → Text) (resolvers : ConsensusParameterResolvers)
  (set : ConsensusParameterSet)

/-- All records have the digests that the set declares for them, and a set with a record that has
been tampered with is blocked. -/
structure BoundToContents : Prop where
  hashed : ∀ reference ∈ set.references, Hashed resolvers reference
  tampering : ∀ reference ∈ set.references, ∀ record record',
    resolvers reference.kind reference.id = some record →
    Tampered reference.kind record record' → NoCollision reference.kind record record' →
    ∀ result, set.validate containerText (replaced resolvers reference.kind reference.id record') =
      some result → result.status = "blocked"

/-- The same, of the records that do not declare their digests -/
structure BoundUnlessDeclared : Prop where
  hashed : ∀ reference ∈ set.references, ¬Declared containerText resolvers reference →
    Hashed resolvers reference
  tampering : ∀ reference ∈ set.references, ¬Declared containerText resolvers reference →
    ∀ record record', resolvers reference.kind reference.id = some record →
    Tampered reference.kind record record' → NoCollision reference.kind record record' →
    ∀ result, set.validate containerText (replaced resolvers reference.kind reference.id record') =
      some result → result.status = "blocked"

/-- No record declares its digest, unless it has it and another reference to it is not declared. -/
def NotDeclared : Prop :=
  ∀ reference ∈ set.references, Declared containerText resolvers reference →
    Hashed resolvers reference ∧ ∃ other ∈ set.references, other.kind = reference.kind ∧
      other.id = reference.id ∧ ¬Declared containerText resolvers other

end Statement

/-! ## Texts of records -/

theorem blank_nil (members : List (Text × RecordValue)) : blank [] members = members := by
  simp [blank, others]

theorem others_blank {selfFields names : List Text} (h : names = [] ∨ names = selfFields)
    (members : List (Text × RecordValue)) :
    others selfFields (blank names members) = others selfFields members := by
  rcases h with rfl | rfl
  · rw [blank_nil]
  · have hblank : others names (names.map fun name => (name, Doc.str [])) = [] := by
      refine List.filter_eq_nil_iff.mpr fun member hmember => ?_
      obtain ⟨name, hname, rfl⟩ := List.mem_map.mp hmember
      simpa using hname
    rw [blank, others, List.filter_append, ← others, ← others, hblank, List.append_nil, others,
      others, List.filter_filter]
    simp

theorem nodup_blank {names : List Text} (hnames : names.Nodup)
    {members : List (Text × RecordValue)} (h : (members.map Prod.fst).Nodup) :
    ((blank names members).map Prod.fst).Nodup := by
  have hself : (names.map fun name => (name, (Doc.str [] : RecordValue))).map Prod.fst = names := by
    rw [List.map_map]
    exact List.map_id' names
  rw [blank, List.map_append, hself, List.nodup_append']
  refine ⟨h.sublist (List.filter_sublist.map _), hnames, ?_⟩
  intro name hname
  obtain ⟨member, hmember, rfl⟩ := List.mem_map.mp hname
  simpa using (List.mem_filter.mp hmember).2

theorem selfFields_nodup (kind : RecordKind) : kind.selfFields.Nodup := by
  cases kind <;> decide +kernel

theorem selfFields_noSplitPair (kind : RecordKind) :
    ∀ name ∈ kind.selfFields, JsonText.NoSplitPair name := by
  cases kind <;> decide +kernel

theorem noSplitPair_blank {names : List Text} (hnames : ∀ name ∈ names, JsonText.NoSplitPair name)
    {members : List (Text × RecordValue)}
    (h : (Doc.obj members).All (fun _ => True) JsonText.NoSplitPair) :
    (Doc.obj (blank names members)).All (fun _ => True) JsonText.NoSplitPair := by
  rw [Doc.all_obj] at h ⊢
  intro member hmember
  rcases List.mem_append.mp hmember with hmember | hmember
  · exact h member (List.mem_filter.mp hmember).1
  · obtain ⟨name, hname, rfl⟩ := List.mem_map.mp hmember
    exact ⟨hnames name hname, List.IsChain.nil⟩

theorem all_and {N : Type} {p p' : N → Prop} {q : Text → Prop} (d : Doc N)
    (h : d.All p fun _ => True) (h' : d.All p' q) : d.All (fun n => p n ∧ p' n) q := by
  induction d using Doc.induction with
  | null | bool => trivial
  | num n => exact ⟨h, h'⟩
  | str s => exact h'
  | arr items ih =>
    rw [Doc.all_arr] at h h' ⊢
    exact fun item hitem => ih item hitem (h item hitem) (h' item hitem)
  | obj members ih =>
    rw [Doc.all_obj] at h h' ⊢
    exact fun m hm => ⟨(h' m hm).1, ih m hm (h m hm).2 (h' m hm).2⟩

/-- Members with the same text are the same, in canonical order. -/
theorem canonical_of_dumps {members members' : List (Text × RecordValue)} {t : Text}
    (hmembers : (Doc.obj members).All (fun _ => True) JsonText.NoSplitPair)
    (hmembers' : (Doc.obj members').All (fun _ => True) JsonText.NoSplitPair)
    (h : dumps members = some t) (h' : dumps members' = some t) :
    (Doc.obj members).sortKeys.map RecordNumber.literal id =
      (Doc.obj members').sortKeys.map RecordNumber.literal id := by
  have hliterals {members : List (Text × RecordValue)}
      (hprintable : (Doc.obj members).All (·.printable = true) fun _ => True)
      (hsplit : (Doc.obj members).All (fun _ => True) JsonText.NoSplitPair) :
      ((Doc.obj members).sortKeys.map RecordNumber.literal id).All JsonText.IsLiteral
        JsonText.NoSplitPair := by
    rw [Doc.all_map, Doc.all_sortKeys]
    exact (all_and _ hprintable hsplit).imp (fun number hnumber => number.isLiteral hnumber.1)
      fun _ hs => hs
  rw [dumps] at h h'
  split_ifs at h with hprintable
  split_ifs at h' with hprintable'
  exact JsonText.render_injective (fun c hc => by
    rw [Python.isPrintableAscii, Bool.and_eq_true] at hc
    exact of_decide_eq_true hc.1) (hliterals hprintable hmembers)
    (hliterals hprintable' hmembers') (Option.some.inj (h.trans h'.symm))

/-- The canonical order does not depend on what is left out. -/
theorem canonical_others {members members' : List (Text × RecordValue)} (names : List Text)
    (hnodup : (members.map Prod.fst).Nodup) (hnodup' : (members'.map Prod.fst).Nodup)
    (h : (Doc.obj members).sortKeys.map RecordNumber.literal id =
      (Doc.obj members').sortKeys.map RecordNumber.literal id) :
    (Doc.obj (others names members)).sortKeys.map RecordNumber.literal id =
      (Doc.obj (others names members')).sortKeys.map RecordNumber.literal id := by
  have hothers (members : List (Text × RecordValue)) :
      (others names members).map (fun m => (id m.1, m.2.map RecordNumber.literal id)) =
        (members.map fun m => (id m.1, m.2.map RecordNumber.literal id)).filter
          fun m => decide (m.1 ∉ names) := by
    rw [others, List.filter_map]
    rfl
  have hfst (members : List (Text × RecordValue)) :
      (members.map fun m => (id m.1, m.2.map RecordNumber.literal id)).map Prod.fst =
        members.map Prod.fst := by
    rw [List.map_map]
    rfl
  rw [← Doc.sortKeys_map, ← Doc.sortKeys_map, Doc.map_obj, Doc.map_obj] at h ⊢
  rw [hothers, hothers]
  exact Doc.sortKeys_filter_eq (by rwa [hfst]) (by rwa [hfst]) h fun name => decide (name ∉ names)

/-- Records that are hashed as one text have the same other fields. -/
theorem otherFields_of_text {kind : RecordKind} {record record' : Record} {t : Text}
    (h : t ∈ hashedTexts kind record) (h' : t ∈ hashedTexts kind record') :
    otherFields kind record' = otherFields kind record := by
  have hread {record : Record} (h : t ∈ hashedTexts kind record) :
      ∃ names, (names = [] ∨ names = kind.selfFields) ∧ recordText (some record) names = some t := by
    rcases List.mem_append.mp h with h | h
    · exact ⟨[], .inl rfl, Option.mem_toList.mp h⟩
    · exact ⟨_, .inr rfl, Option.mem_toList.mp h⟩
  have hnames {names : List Text} (h : names = [] ∨ names = kind.selfFields) :
      names.Nodup ∧ ∀ name ∈ names, JsonText.NoSplitPair name := by
    rcases h with rfl | rfl
    · exact ⟨List.nodup_nil, fun _ hname => absurd hname List.not_mem_nil⟩
    · exact ⟨selfFields_nodup kind, selfFields_noSplitPair kind⟩
  obtain ⟨names, hkind, htext⟩ := hread h
  obtain ⟨names', hkind', htext'⟩ := hread h'
  obtain ⟨fields, hfields, hdumps⟩ := Option.bind_eq_some_iff.mp htext
  obtain ⟨fields', hfields', hdumps'⟩ := Option.bind_eq_some_iff.mp htext'
  have hunique := (Doc.uniqueNames_obj.mp fields.uniqueNames).1
  have hunique' := (Doc.uniqueNames_obj.mp fields'.uniqueNames).1
  have hcanonical := canonical_of_dumps
    (noSplitPair_blank (hnames hkind).2 fields.noSplitPair)
    (noSplitPair_blank (hnames hkind').2 fields'.noSplitPair) hdumps hdumps'
  have hothers := canonical_others kind.selfFields (nodup_blank (hnames hkind).1 hunique)
    (nodup_blank (hnames hkind').1 hunique') hcanonical
  rw [others_blank hkind, others_blank hkind'] at hothers
  have hrecord : record.fields = some fields := hfields
  have hrecord' : record'.fields = some fields' := hfields'
  rw [otherFields, otherFields, hrecord, hrecord', Option.map_some, Option.map_some, hothers]

/-! ## What the validation reads -/

section Validation

variable {containerText : RecordValue → Text} {resolvers resolvers' : ConsensusParameterResolvers}
  {set : ConsensusParameterSet} {result : ValidationResult}

/-- Records that cannot be told apart by what is read of them -/
structure SameReads (set : ConsensusParameterSet) (containerText : RecordValue → Text)
    (resolvers resolvers' : ConsensusParameterResolvers) : Prop where
  isSome_eq : ∀ kind id, (resolvers' kind id).isSome = (resolvers kind id).isSome
  value_eq : ∀ kind id (field : RecordField),
    value (resolvers' kind id) field.name .null = value (resolvers kind id) field.name .null
  resolves : ∀ reference ∈ set.references,
    resolves containerText resolvers' reference = resolves containerText resolvers reference

theorem mem_references_revision {slot : Slot} (h : slot ∈ set.slots) :
    slot.revision ∈ set.references :=
  List.mem_append_right _ (List.mem_flatMap.mpr ⟨slot, h, List.mem_cons_self⟩)

theorem mem_references_decision {slot : Slot} (h : slot ∈ set.slots)
    (hdecision : slot.hasDecision = true) : slot.decision ∈ set.references := by
  refine List.mem_append_right _ (List.mem_flatMap.mpr ⟨slot, h, List.mem_cons_of_mem _ ?_⟩)
  rw [if_pos hdecision]
  exact List.mem_singleton_self _

theorem SameReads.fieldOf_eq (h : SameReads set containerText resolvers resolvers') :
    fieldOf resolvers' = fieldOf resolvers :=
  funext fun reference => funext fun field => h.value_eq reference.kind reference.id field

theorem SameReads.fieldText_eq (h : SameReads set containerText resolvers resolvers') :
    fieldText containerText resolvers' = fieldText containerText resolvers := by
  funext reference field
  rw [fieldText, fieldText, h.fieldOf_eq]

theorem SameReads.present_eq (h : SameReads set containerText resolvers resolvers') :
    present resolvers' = present resolvers :=
  funext fun reference => h.isSome_eq reference.kind reference.id

theorem slotViolations_congr (h : SameReads set containerText resolvers resolvers') {slot : Slot}
    (hslot : slot ∈ set.slots) :
    set.slotViolations containerText resolvers' slot =
      set.slotViolations containerText resolvers slot := by
  have hrevision := h.resolves _ (mem_references_revision hslot)
  rw [ConsensusParameterSet.slotViolations, ConsensusParameterSet.slotViolations, h.fieldText_eq,
    hrevision]
  cases hdecision : slot.hasDecision with
  | false => simp only [Bool.false_eq_true, if_false]
  | true => rw [h.resolves _ (mem_references_decision hslot hdecision)]

/-- The checks of the set itself, of the inventory, the required set and the gate -/
theorem gateViolations_congr (h : SameReads set containerText resolvers resolvers')
    (hgate : resolves containerText resolvers' set.gate =
      resolves containerText resolvers set.gate) :
    set.gateViolations containerText resolvers' = set.gateViolations containerText resolvers := by
  rw [ConsensusParameterSet.gateViolations, ConsensusParameterSet.gateViolations,
    referenceViolations, referenceViolations, h.fieldText_eq, h.fieldOf_eq, hgate]

theorem referenceViolations_congr (h : SameReads set containerText resolvers resolvers')
    {reference : Reference} (hmem : reference ∈ set.references) (ruleId field explanation : String) :
    referenceViolations containerText resolvers' reference ruleId field explanation =
      referenceViolations containerText resolvers reference ruleId field explanation := by
  rw [referenceViolations, referenceViolations, h.resolves _ hmem]

theorem violations_congr (h : SameReads set containerText resolvers resolvers')
    (required : List Text) : set.violations containerText resolvers' required =
      set.violations containerText resolvers required := by
  have hmem {reference : Reference} (hmem : reference ∈ [set.inventory, set.required, set.gate,
      set.policy, set.plan, set.freeze, set.lock, set.primary]) : reference ∈ set.references :=
    List.mem_append_left _ hmem
  have hslots : (set.slots.flatMap fun slot => set.slotViolations containerText resolvers' slot) =
      set.slots.flatMap fun slot => set.slotViolations containerText resolvers slot :=
    List.flatMap_congr fun slot hslot => slotViolations_congr h hslot
  have hscopes : set.scopeViolations containerText resolvers' =
      set.scopeViolations containerText resolvers := by
    rw [ConsensusParameterSet.scopeViolations, ConsensusParameterSet.scopeViolations,
      h.fieldText_eq, h.fieldOf_eq, h.present_eq]
  have hlinks : set.linkViolations containerText resolvers' =
      set.linkViolations containerText resolvers := by
    rw [ConsensusParameterSet.linkViolations, ConsensusParameterSet.linkViolations,
      h.fieldText_eq, h.present_eq]
  rw [ConsensusParameterSet.violations, ConsensusParameterSet.violations, hslots, hscopes, hlinks,
    gateViolations_congr h (h.resolves _ (hmem (by simp))),
    ConsensusParameterSet.comparisonViolations, ConsensusParameterSet.comparisonViolations,
    ConsensusParameterSet.planViolations, ConsensusParameterSet.planViolations,
    referenceViolations_congr h (hmem (by simp)) "CPS-INVENTORY",
    referenceViolations_congr h (hmem (by simp)) "CPS-REQUIRED-SET",
    referenceViolations_congr h (hmem (by simp)) "CPS-RESIDUAL-POLICY",
    referenceViolations_congr h (hmem (by simp)) "CPS-ANALYSIS-PLAN",
    referenceViolations_congr h (hmem (by simp)) "CPS-SCIENTIFIC-FREEZE",
    referenceViolations_congr h (hmem (by simp)) "CPS-PARTITION-LOCK",
    referenceViolations_congr h (hmem (by simp)) "CPS-PRIMARY-DECISION"]

/-- The validation tells no records apart that are read alike. -/
theorem validate_congr (h : SameReads set containerText resolvers resolvers') :
    set.validate containerText resolvers' = set.validate containerText resolvers := by
  rw [ConsensusParameterSet.validate, ConsensusParameterSet.validate, requiredSlots, requiredSlots,
    h.fieldOf_eq]
  simp only [violations_congr h]

theorem validate_eq_some (h : set.validate containerText resolvers = some result) :
    ∃ required, result.status =
      if set.violations containerText resolvers required = [] then "valid" else "blocked" := by
  obtain ⟨required, -, rfl⟩ := Option.map_eq_some_iff.mp h
  refine ⟨required, ?_⟩
  by_cases hnil : set.violations containerText resolvers required = []
  · simp [hnil]
  · have hsorted : (set.violations containerText resolvers required).insertionSort
        (·.key ≤ ·.key) ≠ [] := by
      intro heq
      exact hnil ((heq ▸ List.perm_insertionSort (fun a b : Violation => a.key ≤ b.key)
        (set.violations containerText resolvers required)).nil_eq.symm)
    simp only [if_neg hnil, List.isEmpty_iff, hsorted, if_false]

theorem failIf_eq_nil {violated : Bool} {ruleId : String} {field reference : Text}
    {explanation : String} : failIf violated ruleId field reference explanation = [] ↔
      violated = false := by
  cases violated <;> simp [failIf]

theorem resolves_of_no_violation {reference : Reference} {ruleId field explanation : String}
    (h : referenceViolations containerText resolvers reference ruleId field explanation = []) :
    resolves containerText resolvers reference = true := by
  rw [referenceViolations, failIf_eq_nil] at h
  simpa using h

theorem resolves_gate (h : set.gateViolations containerText resolvers = []) :
    resolves containerText resolvers set.gate = true := by
  rw [ConsensusParameterSet.gateViolations] at h
  by_contra hnot
  rw [if_pos (by simpa using hnot)] at h
  exact hnot (resolves_of_no_violation h)

theorem resolves_slot {slot : Slot}
    (h : set.slotViolations containerText resolvers slot = []) :
    resolves containerText resolvers slot.revision = true ∧
      (slot.hasDecision = true → resolves containerText resolvers slot.decision = true) := by
  rw [ConsensusParameterSet.slotViolations] at h
  obtain ⟨-, h⟩ := List.append_eq_nil_iff.mp h
  split_ifs at h with hrevision hdecision
  · exact absurd (failIf_eq_nil.mp h) (by decide)
  · obtain ⟨-, h⟩ := List.append_eq_nil_iff.mp h
    have hresolves := failIf_eq_nil.mp h
    rw [Bool.or_eq_false_iff, Bool.not_eq_false'] at hresolves
    exact ⟨by simpa using hrevision, fun _ => hresolves.2⟩
  · exact ⟨by simpa using hrevision, fun hhas => absurd hhas hdecision⟩

/-- Every reference of a valid set resolves to a record that matches. -/
theorem resolves_of_valid (h : set.validate containerText resolvers = some result)
    (hvalid : result.status = "valid") :
    ∀ reference ∈ set.references, resolves containerText resolvers reference = true := by
  obtain ⟨required, hstatus⟩ := validate_eq_some h
  have hnil : set.violations containerText resolvers required = [] := by
    by_contra hne
    rw [if_neg hne, hvalid] at hstatus
    exact absurd hstatus (by decide)
  simp only [ConsensusParameterSet.violations, ConsensusParameterSet.comparisonViolations,
    ConsensusParameterSet.planViolations, List.append_eq_nil_iff] at hnil
  obtain ⟨⟨⟨⟨⟨⟨⟨⟨⟨-, hinventory⟩, hrequired⟩, hgate⟩, -⟩, -⟩, -⟩, hslots⟩, ⟨-, hpolicy⟩, -⟩,
    ⟨⟨⟨⟨hplan, hfreeze⟩, hlock⟩, hprimary⟩, -⟩, -⟩ := hnil
  intro reference hmem
  rcases List.mem_append.mp hmem with hmem | hmem
  · simp only [List.mem_cons, List.not_mem_nil, or_false] at hmem
    rcases hmem with rfl | rfl | rfl | rfl | rfl | rfl | rfl | rfl
    · exact resolves_of_no_violation hinventory
    · exact resolves_of_no_violation hrequired
    · exact resolves_gate hgate
    · exact resolves_of_no_violation hpolicy
    · exact resolves_of_no_violation hplan
    · exact resolves_of_no_violation hfreeze
    · exact resolves_of_no_violation hlock
    · exact resolves_of_no_violation hprimary
  · obtain ⟨slot, hslot, hmem⟩ := List.mem_flatMap.mp hmem
    obtain ⟨hrevision, hdecision⟩ := resolves_slot (List.flatMap_eq_nil_iff.mp hslots slot hslot)
    rcases List.mem_cons.mp hmem with rfl | hmem
    · exact hrevision
    · split_ifs at hmem with hhas
      · obtain rfl := List.mem_singleton.mp hmem
        exact hdecision hhas
      · exact absurd hmem List.not_mem_nil

theorem matchesHash_iff {record : Option Record} {expected : Text} {selfFields : List Text} :
    matchesHash containerText record expected selfFields = true ↔
      isImmutableId expected = true ∧ (declares containerText record expected selfFields = true ∨
        recordHash record [] = some expected ∨ recordHash record selfFields = some expected) := by
  simp [matchesHash, or_assoc]

/-- A record that matches undeclared is hashed to the digest. -/
theorem hashed_of_resolves {reference : Reference}
    (h : resolves containerText resolvers reference = true)
    (hnot : ¬Declared containerText resolvers reference) : Hashed resolvers reference := by
  rw [resolves, Bool.and_eq_true, matchesHash_iff] at h
  exact h.2.2.resolve_left hnot

end Validation

/-! ## A change that is not noticed -/

/-- A name that is longer than all of these -/
def freshName (names : List Text) : Text :=
  List.replicate ((names.map List.length).sum + 1) 'x'.codePoint

theorem freshName_notMem (names : List Text) : freshName names ∉ names := by
  intro hmem
  have hle : (freshName names).length ≤ (names.map List.length).sum :=
    List.single_le_sum (fun _ _ => Nat.zero_le _) _ (List.mem_map_of_mem hmem)
  rw [freshName, List.length_replicate] at hle
  omega

theorem noSplitPair_freshName (names : List Text) : JsonText.NoSplitPair (freshName names) := by
  refine JsonText.noSplitPair_of_no_surrogate fun c hc => ?_
  rw [List.eq_of_mem_replicate hc]
  decide

/-- A number that `json` refuses -/
def notANumber : RecordNumber := ⟨text "nan", false, fun h => absurd h Bool.false_ne_true⟩

/-- Fields can be extended by a number that makes them unhashable. -/
theorem exists_extension (fields : Fields) (reserved : List Text) :
    ∃ (fields' : Fields) (name : Text), name ∉ reserved ∧ name ∉ fields.members.map Prod.fst ∧
      fields'.members = fields.members ++ [(name, .num notANumber)] := by
  have hfresh := freshName_notMem (reserved ++ fields.members.map Prod.fst)
  rw [List.mem_append, not_or] at hfresh
  have hunique := Doc.uniqueNames_obj.mp fields.uniqueNames
  have hsplit := Doc.all_obj.mp fields.noSplitPair
  refine ⟨⟨fields.members ++ [(freshName (reserved ++ fields.members.map Prod.fst),
    .num notANumber)], ?_, ?_⟩, _, hfresh.1, hfresh.2, rfl⟩
  · refine Doc.uniqueNames_obj.mpr ⟨?_, fun member hmember => ?_⟩
    · rw [List.map_append, List.nodup_append']
      refine ⟨hunique.1, List.nodup_singleton _, ?_⟩
      intro name hname hother
      obtain rfl : name = freshName _ := List.mem_singleton.mp hother
      exact hfresh.2 hname
    · rcases List.mem_append.mp hmember with hmember | hmember
      · exact hunique.2 member hmember
      · rw [List.mem_singleton.mp hmember]
        trivial
  · refine Doc.all_obj.mpr fun member hmember => ?_
    rcases List.mem_append.mp hmember with hmember | hmember
    · exact hsplit member hmember
    · rw [List.mem_singleton.mp hmember]
      exact ⟨noSplitPair_freshName _, trivial⟩

theorem lookupIn_append_of_ne {members : List (Text × RecordValue)} {name name' : Text}
    {missing v : RecordValue} (h : name' ≠ name) :
    lookupIn (members ++ [(name, v)]) name' missing = lookupIn members name' missing := by
  have hne : (name' == name) = false := beq_eq_false_iff_ne.mpr h
  rw [lookupIn, lookupIn, List.lookup_append, List.lookup, hne, List.lookup, Option.or_none]

/-- Fields with a number that `json` refuses are not hashed. -/
theorem dumps_extension {members : List (Text × RecordValue)} {names : List Text} {name : Text}
    (h : name ∉ names) : dumps (blank names (members ++ [(name, .num notANumber)])) = none := by
  rw [dumps, if_neg]
  intro hprintable
  have hmem : (name, (.num notANumber : RecordValue)) ∈
      blank names (members ++ [(name, .num notANumber)]) := by
    refine List.mem_append_left _ (List.mem_filter.mpr ⟨List.mem_append_right _ ?_, ?_⟩)
    · exact List.mem_singleton_self _
    · simpa using h
  exact absurd (Doc.all_obj.mp hprintable _ hmem).2 Bool.false_ne_true

/-- The canonical order tells fields from their extension. -/
theorem canonical_extension_ne {fields fields' : Fields} {names : List Text} {name : Text}
    (hnames : name ∉ names) (hname : name ∉ fields.members.map Prod.fst)
    (h : fields'.members = fields.members ++ [(name, .num notANumber)]) :
    (Doc.obj (others names fields'.members)).sortKeys.map RecordNumber.literal id ≠
      (Doc.obj (others names fields.members)).sortKeys.map RecordNumber.literal id := by
  intro heq
  have hfst (members : List (Text × RecordValue)) :
      (members.map fun m => (id m.1, m.2.map RecordNumber.literal id)).map Prod.fst =
        members.map Prod.fst := by
    rw [List.map_map]
    rfl
  have hnodup (fields : Fields) : ((others names fields.members).map Prod.fst).Nodup :=
    (Doc.uniqueNames_obj.mp fields.uniqueNames).1.sublist (List.filter_sublist.map _)
  rw [← Doc.sortKeys_map, ← Doc.sortKeys_map, Doc.map_obj, Doc.map_obj,
    Doc.sortKeys_obj_eq_iff (by rw [hfst]; exact hnodup _) (by rw [hfst]; exact hnodup _), hfst,
    Doc.HasExactly, hfst] at heq
  have hmem : name ∈ (others names fields'.members).map Prod.fst := by
    refine List.mem_map.mpr ⟨(name, .num notANumber), List.mem_filter.mpr ⟨?_, ?_⟩, rfl⟩
    · rw [h]
      exact List.mem_append_right _ (List.mem_singleton_self _)
    · simpa using hnames
  obtain ⟨member, hmember, hfst⟩ := List.mem_map.mp (heq.1.2 name hmem)
  exact hname (hfst ▸ List.mem_map_of_mem (List.mem_filter.mp hmember).1)

/-- What is read of a record by name -/
def readNames (kind : RecordKind) : List Text :=
  kind.selfFields ++ [RecordField.accountabilityOutcome, .authorizationEffect, .componentIdentity,
    .scope, .profileId, .inventoryId, .requiredSetId, .bindings, .parameterClass, .quantityKind,
    .unit, .experimentScope].map RecordField.name

theorem name_mem_readNames (kind : RecordKind) (field : RecordField) :
    field.name ∈ readNames kind := by
  refine List.mem_append_right _ (List.mem_map_of_mem ?_)
  cases field <;> simp

/-- Every record can be changed in a field that is not read. -/
theorem exists_tampered (kind : RecordKind) (record : Record) :
    ∃ record', Tampered kind record record' ∧ hashedTexts kind record' = [] ∧
      ∀ name ∈ readNames kind, ∀ missing,
        value (some record') name missing = value (some record) name missing := by
  have hself {name : Text} (h : name ∉ readNames kind) : name ∉ kind.selfFields :=
    fun hmem => h (List.mem_append_left _ hmem)
  have htexts {fields' : Fields} {members : List (Text × RecordValue)} {name : Text}
      (h : name ∉ readNames kind) (hmembers : fields'.members = members ++ [(name, .num notANumber)])
      {record' : Record} (hfields : record'.fields = some fields') :
      hashedTexts kind record' = [] := by
    have hnone (names : List Text) (hnames : name ∉ names) :
        recordText (some record') names = none := by
      rw [recordText, Option.bind_some, hfields, Option.bind_some, hmembers, dumps_extension hnames]
    rw [hashedTexts, hnone [] List.not_mem_nil, hnone _ (hself h)]
    rfl
  cases record with
  | mapping fields =>
    obtain ⟨fields', name, hreserved, hname, hmembers⟩ := exists_extension fields (readNames kind)
    have hvalue : ∀ name' ∈ readNames kind, ∀ missing, value (some (.mapping fields')) name' missing =
        value (some (.mapping fields)) name' missing := by
      intro name' hname' missing
      have hne : name' ≠ name := fun heq => hreserved (heq ▸ hname')
      rw [value, value, Record.attributes, Record.attributes, hmembers, lookupIn_append_of_ne hne]
    refine ⟨.mapping fields', ⟨fun name' hname' => hvalue name' (List.mem_append_left _ hname') _,
      ?_⟩, htexts hreserved hmembers rfl, hvalue⟩
    exact fun heq => canonical_extension_ne (hself hreserved) hname hmembers (Option.some.inj heq)
  | object attributes fields =>
    cases fields with
    | none =>
      obtain ⟨fields', name, hreserved, -, hmembers⟩ :=
        exists_extension ⟨[], by decide, by decide⟩ (readNames kind)
      exact ⟨.object attributes (some fields'), ⟨fun _ _ => rfl, nofun⟩,
        htexts hreserved hmembers rfl, fun _ _ _ => rfl⟩
    | some fields =>
      obtain ⟨fields', name, hreserved, hname, hmembers⟩ := exists_extension fields (readNames kind)
      refine ⟨.object attributes (some fields'), ⟨fun _ _ => rfl, ?_⟩,
        htexts hreserved hmembers rfl, fun _ _ _ => rfl⟩
      exact fun heq => canonical_extension_ne (hself hreserved) hname hmembers (Option.some.inj heq)

/-! ## Another record in the place of one -/

section Replaced

variable {containerText : RecordValue → Text} {resolvers : ConsensusParameterResolvers}
  {set : ConsensusParameterSet} {result : ValidationResult} {kind kind' : RecordKind}
  {id id' : Text} {record record' : Record}

theorem replaced_self : replaced resolvers kind id record kind id = some record := by
  rw [replaced, Function.update_self, Function.update_self]

theorem replaced_of_ne (h : ¬(kind' = kind ∧ id' = id)) :
    replaced resolvers kind id record kind' id' = resolvers kind' id' := by
  rw [replaced]
  by_cases hkind : kind' = kind
  · subst hkind
    rw [Function.update_self, Function.update_of_ne fun hid => h ⟨rfl, hid⟩]
  · rw [Function.update_of_ne hkind]

theorem declares_congr {expected : Text} (h : ∀ name ∈ kind.selfFields,
    value (some record') name (.str []) = value (some record) name (.str [])) :
    declares containerText (some record') expected kind.selfFields =
      declares containerText (some record) expected kind.selfFields := by
  rw [declares, declares, Bool.eq_iff_iff, List.any_eq_true, List.any_eq_true]
  exact exists_congr fun name => and_congr_right fun hname => by rw [h name hname]

theorem exists_hashedText {reference : Reference}
    (hrecord : resolvers reference.kind reference.id = some record)
    (h : Hashed resolvers reference) :
    ∃ t ∈ hashedTexts reference.kind record, sha256Id t = reference.expected := by
  rw [Hashed, hrecord] at h
  rcases h with h | h
  · obtain ⟨t, ht, hexpected⟩ := Option.map_eq_some_iff.mp h
    exact ⟨t, List.mem_append_left _ (Option.mem_toList.mpr ht), hexpected⟩
  · obtain ⟨t, ht, hexpected⟩ := Option.map_eq_some_iff.mp h
    exact ⟨t, List.mem_append_right _ (Option.mem_toList.mpr ht), hexpected⟩

/-- A record is hashed where it declares nothing: tampering with it is noticed. -/
theorem blocked_of_not_declared {reference : Reference} (hmem : reference ∈ set.references)
    (hresolves : resolves containerText resolvers reference = true)
    (hnot : ¬Declared containerText resolvers reference)
    (hrecord : resolvers reference.kind reference.id = some record)
    (htampered : Tampered reference.kind record record')
    (hcollision : NoCollision reference.kind record record')
    (hresult : set.validate containerText (replaced resolvers reference.kind reference.id record') =
      some result) : result.status = "blocked" := by
  have hself : replaced resolvers reference.kind reference.id record' reference.kind reference.id =
      some record' := replaced_self
  obtain ⟨required, hstatus⟩ := validate_eq_some hresult
  split_ifs at hstatus with hnil
  · have hresolves' := resolves_of_valid hresult hstatus reference hmem
    have hnot' : ¬Declared containerText
        (replaced resolvers reference.kind reference.id record') reference := by
      rw [Declared, hrecord] at hnot
      rwa [Declared, hself, declares_congr htampered.identity]
    obtain ⟨t, ht, hexpected⟩ := exists_hashedText hrecord (hashed_of_resolves hresolves hnot)
    obtain ⟨t', ht', hexpected'⟩ := exists_hashedText hself (hashed_of_resolves hresolves' hnot')
    obtain rfl := hcollision t ht t' ht' (hexpected.trans hexpected'.symm)
    exact absurd (otherFields_of_text ht ht') htampered.changed
  · exact hstatus

/-- Where every reference to a record is declared, a change of it is not noticed. -/
theorem sameReads_of_declared {reference : Reference}
    (hresolves : ∀ other ∈ set.references, resolves containerText resolvers other = true)
    (hrecord : resolvers reference.kind reference.id = some record)
    (hdeclared : ∀ other ∈ set.references, other.kind = reference.kind → other.id = reference.id →
      Declared containerText resolvers other)
    (hvalue : ∀ name ∈ readNames reference.kind, ∀ missing,
      value (some record') name missing = value (some record) name missing) :
    SameReads set containerText resolvers
      (replaced resolvers reference.kind reference.id record') := by
  have hself : replaced resolvers reference.kind reference.id record' reference.kind reference.id =
      some record' := replaced_self
  refine ⟨fun kind id => ?_, fun kind id field => ?_, fun other hother => ?_⟩
  · by_cases hsame : kind = reference.kind ∧ id = reference.id
    · rw [hsame.1, hsame.2, hself, hrecord]
      rfl
    · rw [replaced_of_ne hsame]
  · by_cases hsame : kind = reference.kind ∧ id = reference.id
    · rw [hsame.1, hsame.2, hself, hrecord]
      exact hvalue _ (name_mem_readNames _ field) _
    · rw [replaced_of_ne hsame]
  · by_cases hsame : other.kind = reference.kind ∧ other.id = reference.id
    · have hbefore := hresolves other hother
      have hdeclares := hdeclared other hother hsame.1 hsame.2
      rw [hbefore]
      rw [resolves, Bool.and_eq_true, matchesHash_iff] at hbefore ⊢
      rw [Declared, hsame.1, hsame.2, hrecord] at hdeclares
      rw [hsame.1, hsame.2, hself]
      refine ⟨rfl, hbefore.2.1, .inl ?_⟩
      rw [declares_congr fun name hname => hvalue name (List.mem_append_left _ hname) _]
      exact hdeclares
    · rw [resolves, resolves, replaced_of_ne hsame]

end Replaced

/-- A valid set is bound to the contents of the records that do not declare their digests. -/
theorem bound_of_valid {containerText : RecordValue → Text}
    {resolvers : ConsensusParameterResolvers} {set : ConsensusParameterSet}
    {result : ValidationResult} (h : set.validate containerText resolvers = some result)
    (hvalid : result.status = "valid") : BoundUnlessDeclared containerText resolvers set := by
  have hresolves := resolves_of_valid h hvalid
  refine ⟨fun reference hmem hnot => hashed_of_resolves (hresolves reference hmem) hnot, ?_⟩
  intro reference hmem hnot record record' hrecord htampered hcollision result' hresult'
  exact blocked_of_not_declared hmem (hresolves reference hmem) hnot hrecord htampered hcollision
    hresult'

/-- A valid set is bound to the contents of its records exactly if none declares its digest itself,
or it has this digest and another reference to it is not declared. -/
theorem boundToContents_iff {containerText : RecordValue → Text}
    {resolvers : ConsensusParameterResolvers} {set : ConsensusParameterSet}
    {result : ValidationResult} (h : set.validate containerText resolvers = some result)
    (hvalid : result.status = "valid") :
    BoundToContents containerText resolvers set ↔ NotDeclared containerText resolvers set := by
  have hresolves := resolves_of_valid h hvalid
  constructor
  · intro hbound reference hmem hdeclared
    refine ⟨hbound.hashed reference hmem, ?_⟩
    by_contra hnone
    have hall : ∀ other ∈ set.references, other.kind = reference.kind → other.id = reference.id →
        Declared containerText resolvers other := by
      intro other hother hkind hid
      by_contra hnot
      exact hnone ⟨other, hother, hkind, hid, hnot⟩
    have hsome := hresolves reference hmem
    rw [resolves, Bool.and_eq_true] at hsome
    obtain ⟨record, hrecord⟩ := Option.isSome_iff_exists.mp hsome.1
    obtain ⟨record', htampered, htexts, hvalue⟩ := exists_tampered reference.kind record
    have hsame := validate_congr (sameReads_of_declared hresolves hrecord hall hvalue)
    have hcollision : NoCollision reference.kind record record' := by
      intro t _ t' ht'
      exact absurd (htexts ▸ ht') List.not_mem_nil
    have hblocked := hbound.tampering reference hmem record record' hrecord htampered hcollision
      result (hsame.trans h)
    exact absurd (hvalid.symm.trans hblocked) (by decide)
  · intro hnot
    refine ⟨fun reference hmem => ?_, ?_⟩
    · by_cases hdeclared : Declared containerText resolvers reference
      · exact (hnot reference hmem hdeclared).1
      · exact hashed_of_resolves (hresolves reference hmem) hdeclared
    · intro reference hmem record record' hrecord htampered hcollision result' hresult'
      by_cases hdeclared : Declared containerText resolvers reference
      · -- another reference to the record is hashed
        obtain ⟨-, other, hother, hkind, hid, hundeclared⟩ := hnot reference hmem hdeclared
        rw [← hkind, ← hid] at hrecord hresult'
        rw [← hkind] at htampered hcollision
        exact blocked_of_not_declared hother (hresolves other hother) hundeclared hrecord htampered
          hcollision hresult'
      · exact blocked_of_not_declared hmem (hresolves reference hmem) hdeclared hrecord htampered
          hcollision hresult'

/-! ## A gate that declares its digest -/

/-- A record whose values are texts -/
def sampleFields (members : List (String × String)) : List (Text × RecordValue) :=
  members.map fun member => (text member.1, .str (text member.2))

def sampleMembers : RecordKind → List (Text × RecordValue)
  | .inventory => sampleFields [("inventory_id", "inventory:sentinel"),
      ("component_identity", "consensus-v2"), ("scope", "experiment:sentinel"),
      ("profile_id", "profile:sentinel")]
  | .requiredSet => sampleFields [("required_set_id", "required:sentinel"),
      ("inventory_id", "inventory:sentinel"), ("scope", "experiment:sentinel"),
      ("profile_id", "profile:sentinel"), ("component_identity", "consensus-v2")] ++
      [(text "bindings", .arr [.obj [(text "slot_id", .str (text "uncertainty")),
        (text "not_applicable", .bool false)]])]
  | .gateResult => (text "gate_result_id", .str (sampleId 1).val) ::
      sampleFields [("inventory_id", "inventory:sentinel"),
        ("required_set_id", "required:sentinel"), ("accountability_outcome", "accountable"),
        ("authorization_effect", "none")]
  | .parameterRevision => (text "revision_sha256", .str (sampleId 2).val) ::
      sampleFields [("parameter_class", "measured"), ("quantity_kind", "comparison_tolerance"),
        ("unit", "one"), ("profile_id", "profile:sentinel"),
        ("experiment_scope", "experiment:sentinel")]
  | .decisionRecord => [(text "record_sha256", .str (sampleId 3).val)]
  | .scientificFreeze => sampleFields [("freeze", "frozen")]
  | .partitionLock => [(text "content_sha256", .str (sampleId 4).val)]
  | .analysisPlan => [(text "content_sha256", .str (sampleId 5).val)]
  | .residualPolicy => [(text "content_sha256", .str (sampleId 6).val)]

def sampleRecord (kind : RecordKind) : Record :=
  .mapping ⟨sampleMembers kind, by cases kind <;> decide +kernel, by cases kind <;> decide +kernel⟩

def sampleResolvers : ConsensusParameterResolvers := fun kind _ => some (sampleRecord kind)

/-- The digest of a record of the sample -/
def sampleDigest (kind : RecordKind) : Text :=
  sha256Id (JsonText.render Python.escapeAscii
    ((Doc.obj (sampleMembers kind)).sortKeys.map RecordNumber.literal id))

def sampleSet : ConsensusParameterSet where
  schemaVersion := text "ConsensusParameterSet.v2"
  parameterSetId := text "set:sentinel"
  componentIdentity := text "consensus-v2"
  experimentScope := text "experiment:sentinel"
  profileId := text "profile:sentinel"
  comparisonBasisId := text "basis:current"
  comparisonBasisSchema := text "ComparisonBasis.v2"
  comparisonBasisSha256 := (sampleId 0).val
  comparisonBasisCanonicalBytesSha256 := (sampleId 0).val
  qualityPolicyId := text "quality:sentinel"
  numericInventoryId := text "inventory:sentinel"
  numericInventorySha256 := sampleDigest .inventory
  requiredParameterSetId := text "required:sentinel"
  requiredParameterSetSha256 := sampleDigest .requiredSet
  parameterGateResultId := text "gate:sentinel"
  parameterGateResultSha256 := (sampleId 1).val
  comparisonMode := text "same_profile_raw_current"
  residualPolicyId := text "policy:residual"
  residualPolicySchema := text "ResidualPolicy.v2"
  residualPolicySha256 := (sampleId 6).val
  residualPolicyCanonicalBytesSha256 := (sampleId 0).val
  residualPolicySlotIds := []
  residualPolicyUnits := []
  residualPolicyDimensions := []
  residualPolicyConformanceId := text "conformance:sentinel"
  analysisPlanId := text "plan:sentinel"
  analysisPlanSha256 := (sampleId 5).val
  sensitivityPlanId := text "sensitivity:sentinel"
  sensitivityPlanSha256 := (sampleId 0).val
  sensitivityAlternativeIds := [text "sensitivity:a"]
  selectedAlternativeId := text "primary"
  primaryDecisionId := text "decision:primary"
  primaryDecisionRecordSha256 := (sampleId 3).val
  scientificFreezeId := text "freeze:sentinel"
  scientificFreezeSha256 := sampleDigest .scientificFreeze
  partitionLockId := text "lock:sentinel"
  partitionLockSha256 := (sampleId 4).val
  slots := [⟨text "uncertainty", text "revision:uncertainty", (sampleId 2).val, text "measured",
    text "comparison_tolerance", text "one", text "one", text "profile:sentinel",
    text "experiment:sentinel", none, none⟩]
  authorizationEffect := text "none"

/-- The sample has no text of a list. -/
def noContainerText : RecordValue → Text := fun _ => []

/-- A record of the sample is hashed to its digest. -/
theorem resolves_sampleDigest {kind : RecordKind} {id : Text}
    (hprintable : (Doc.obj (sampleMembers kind)).All (·.printable = true) fun _ => True) :
    resolves noContainerText sampleResolvers ⟨kind, id, sampleDigest kind⟩ = true := by
  have hhash : recordHash (some (sampleRecord kind)) [] = some (sampleDigest kind) := by
    have htext : recordText (some (sampleRecord kind)) [] = dumps (sampleMembers kind) := by
      rw [recordText, Option.bind_some, sampleRecord, Record.fields, Option.bind_some, blank_nil]
    rw [recordHash, htext, dumps, if_pos hprintable]
    rfl
  rw [resolves, Bool.and_eq_true, matchesHash_iff]
  exact ⟨rfl, isImmutableId_sha256Id _, .inr (.inl hhash)⟩

theorem sampleSet_violations :
    sampleSet.violations noContainerText sampleResolvers [text "uncertainty"] = [] := by
  have hinventory : resolves noContainerText sampleResolvers sampleSet.inventory = true :=
    resolves_sampleDigest (by decide +kernel)
  have hrequired : resolves noContainerText sampleResolvers sampleSet.required = true :=
    resolves_sampleDigest (by decide +kernel)
  have hfreeze : resolves noContainerText sampleResolvers sampleSet.freeze = true :=
    resolves_sampleDigest (by decide +kernel)
  have hgate : resolves noContainerText sampleResolvers sampleSet.gate = true := by decide +kernel
  have hdigests : ∀ digest ∈ sampleSet.digests, isImmutableId digest.2 = true := by
    have hid (n : Fin 16) : isImmutableId (sampleId n).val = true := (sampleId n).property
    have hsha (kind : RecordKind) : isImmutableId (sampleDigest kind) = true :=
      isImmutableId_sha256Id _
    simp only [ConsensusParameterSet.digests, sampleSet, List.forall_mem_cons, hid, hsha, true_and]
    exact fun _ hmem => absurd hmem List.not_mem_nil
  have hdeclaration : sampleSet.declarationViolations = [] := by
    simp only [ConsensusParameterSet.declarationViolations, List.append_eq_nil_iff,
      List.flatMap_eq_nil_iff, failIf_eq_nil, Bool.not_eq_false']
    exact ⟨⟨⟨by decide +kernel, by decide +kernel⟩, by decide +kernel⟩, hdigests⟩
  have hgates : sampleSet.gateViolations noContainerText sampleResolvers = [] := by
    rw [ConsensusParameterSet.gateViolations, hgate]
    decide +kernel
  have hplan : sampleSet.planViolations noContainerText sampleResolvers = [] := by
    simp only [ConsensusParameterSet.planViolations, referenceViolations, hfreeze,
      List.append_eq_nil_iff, failIf_eq_nil]
    decide +kernel
  simp only [ConsensusParameterSet.violations, referenceViolations, hdeclaration, hgates, hplan,
    hinventory, hrequired, List.append_eq_nil_iff, failIf_eq_nil]
  decide +kernel

theorem sampleSet_valid : sampleSet.validate noContainerText sampleResolvers =
    some ⟨"valid", text "set:sentinel", [], "none"⟩ := by
  have hrequired : requiredSlots noContainerText sampleResolvers sampleSet.required =
      some [text "uncertainty"] := by
    decide +kernel
  rw [ConsensusParameterSet.validate, hrequired, Option.map_some, sampleSet_violations]
  rfl

/-- The gate of the sample is not hashed: whatever else it says, the sample stays valid. -/
theorem gate_tampered :
    sampleSet.validate noContainerText sampleResolvers =
        some ⟨"valid", text "set:sentinel", [], "none"⟩ ∧
      ¬BoundToContents noContainerText sampleResolvers sampleSet := by
  refine ⟨sampleSet_valid, fun hbound => ?_⟩
  have hmem : sampleSet.gate ∈ sampleSet.references := List.mem_append_left _ (by simp)
  have hrecord : sampleResolvers sampleSet.gate.kind sampleSet.gate.id =
      some (sampleRecord .gateResult) := rfl
  have hdeclared : ∀ other ∈ sampleSet.references, other.kind = .gateResult →
      other.id = sampleSet.gate.id → Declared noContainerText sampleResolvers other := by
    decide +kernel
  obtain ⟨record', htampered, htexts, hvalue⟩ :=
    exists_tampered .gateResult (sampleRecord .gateResult)
  have hsame := validate_congr (sameReads_of_declared
    (resolves_of_valid sampleSet_valid rfl) hrecord hdeclared hvalue)
  have hblocked := hbound.tampering _ hmem _ record' hrecord htampered
    (fun t _ t' ht' => absurd (htexts ▸ ht') List.not_mem_nil) _ (hsame.trans sampleSet_valid)
  exact absurd hblocked (by decide)

/-- The inventory, the required set and the freeze of the sample are hashed. -/
theorem sampleSet_bound : BoundUnlessDeclared noContainerText sampleResolvers sampleSet :=
  bound_of_valid sampleSet_valid rfl

end TruthFingerprint.ConsensusParameters
