import Mathlib
import TruthFingerprint.ConsensusV2.Contracts

/-!
# What the contracts accept

A validator of Consensus.v2 returns a record exactly on the values that are its document, up to the
order of members (`basis_eq_ok`, `input_eq_ok`, `decision_eq_ok`). So the records are the accepted
values, and what is proved of them holds of all of these.
-/

namespace TruthFingerprint.ConsensusV2

open Python

variable {F : Type}

/-! ## Checks -/

theorem raise_ne_ok {α : Type} {code : String} {a : α} : raise code ≠ .ok a := nofun

theorem ensure_eq_ok {p : Prop} [Decidable p] {code : String} {h : PLift p} :
    ensure p code = .ok h ↔ p := by
  rw [ensure]
  split
  · exact iff_of_true rfl h.down
  · exact iff_of_false nofun (by assumption)

theorem ensure_of {p : Prop} [Decidable p] {code : String} (h : p) :
    ensure p code = .ok ⟨h⟩ := ensure_eq_ok.mpr h

theorem isText_iff {value : Value F} {t : Text} : IsText value t ↔ value = .str t := by
  cases value <;> simp [IsText]

theorem closed_eq_ok {value : Value F} {names : List String} {code : String} {ms : Members F} :
    closed value names code = .ok ms ↔ value = .obj ms ∧ Doc.HasExactly ms (names.map text) := by
  cases value with
  | obj members =>
    rw [closed]
    split_ifs with h
    · constructor
      · rintro ⟨⟩
        exact ⟨rfl, h⟩
      · rintro ⟨⟨⟩, -⟩
        rfl
    · refine iff_of_false raise_ne_ok ?_
      rintro ⟨⟨⟩, hms⟩
      exact h hms
  | _ => exact iff_of_false raise_ne_ok (by simp)

theorem opaqueId_eq_ok {value : Value F} {code : String} {id : Digest} :
    opaqueId value code = .ok id ↔ value = idDoc id := by
  cases value with
  | str s =>
    rw [opaqueId, idDoc]
    split
    · rw [Except.ok.injEq, Doc.str.injEq, Subtype.ext_iff]
    · refine iff_of_false raise_ne_ok ?_
      rintro ⟨⟩
      exact absurd id.prop (by assumption)
  | _ => exact iff_of_false raise_ne_ok (by simp [idDoc])

theorem mapM_opaqueId_eq_ok {items : List (Value F)} {code : String} {ids : List Digest} :
    items.mapM (opaqueId · code) = .ok ids ↔ items = ids.map idDoc := by
  simp only [List.mapM_eq_ok_iff, opaqueId_eq_ok]
  rw [← List.forall₂_map_right_iff (R := Eq), List.forall₂_eq_eq_eq]

theorem orderedIds_eq_ok {value : Value F} {code : String} {nonempty : Bool}
    {ids : {ids : List Digest // ids.Pairwise (· < ·)}} :
    orderedIds value code nonempty = .ok ids ↔
      value = idsDoc ids.val ∧ (nonempty → ids.val ≠ []) := by
  obtain ⟨ids, hids⟩ := ids
  cases value with
  | arr items =>
    rw [orderedIds, idsDoc, Doc.arr.injEq]
    split_ifs with h
    · refine iff_of_false raise_ne_ok ?_
      simp only [Bool.and_eq_true, List.isEmpty_iff] at h
      rintro ⟨rfl, hne⟩
      exact hne h.1 (List.map_eq_nil_iff.mp h.2)
    · constructor
      · intro hok
        obtain ⟨ids', hmapM, hok⟩ := Except.bind_eq_ok.mp hok
        obtain ⟨⟨hsorted⟩, -, hok⟩ := Except.bind_eq_ok.mp hok
        obtain rfl : ids' = ids := congrArg Subtype.val (Except.ok.inj hok)
        obtain rfl := mapM_opaqueId_eq_ok.mp hmapM
        refine ⟨rfl, fun hnonempty hnil => h ?_⟩
        subst hnil
        simp [hnonempty]
      · rintro ⟨rfl, -⟩
        rw [mapM_opaqueId_eq_ok.mpr rfl]
        simp only [bind, Except.bind, ensure_of hids]
        rfl
  | _ => exact iff_of_false raise_ne_ok (by simp [idsDoc])

/-! ## Records -/

/-- An object is a record when it has its fields, with the documents of the record at each. -/
theorem sortKeys_eq_record_iff {value : Value F} (hvalue : value.UniqueNames)
    {rows : List (Text × Value F)} {names : List String} (code : String)
    (hnames : rows.map Prod.fst = names.map text) (hnodup : (names.map text).Nodup) :
    value.sortKeys = Doc.sortKeys (.obj rows) ↔ ∃ ms, closed value names code = .ok ms ∧
      ∀ row ∈ rows, (Doc.get ms row.1).sortKeys = row.2.sortKeys := by
  constructor
  · intro h
    obtain ⟨ms, rfl⟩ := Doc.exists_of_sortKeys_eq_obj h
    rw [Doc.sortKeys_obj_eq_iff (Doc.uniqueNames_obj.mp hvalue).1 (hnames ▸ hnodup), hnames] at h
    exact ⟨ms, closed_eq_ok.mpr ⟨rfl, h.1⟩, h.2⟩
  · rintro ⟨ms, hms, hrows⟩
    obtain ⟨rfl, hexactly⟩ := closed_eq_ok.mp hms
    rw [Doc.sortKeys_obj_eq_iff (Doc.uniqueNames_obj.mp hvalue).1 (hnames ▸ hnodup), hnames]
    exact ⟨hexactly, hrows⟩

@[simp] theorem sortKeys_eq_idDoc {value : Value F} {id : Digest} :
    value.sortKeys = Doc.sortKeys (idDoc id) ↔ value = idDoc id := Doc.sortKeys_eq_str

@[simp] theorem sortKeys_eq_idsDoc {value : Value F} {ids : List Digest} :
    value.sortKeys = Doc.sortKeys (idsDoc ids) ↔ value = idsDoc ids := by
  have htexts : (idsDoc ids : Value F) = .arr ((ids.map Subtype.val).map .str) := by
    rw [idsDoc, List.map_map]
    rfl
  have hsorted : Doc.sortKeys (idsDoc ids : Value F) = idsDoc ids := by
    rw [htexts, Doc.sortKeys_eq_texts]
  rw [hsorted, htexts, Doc.sortKeys_eq_texts]

@[simp] theorem idDoc_inj {identity identity' : Digest} :
    (idDoc identity : Value F) = idDoc identity' ↔ identity = identity' := by
  rw [idDoc, idDoc, Doc.str.injEq, Subtype.ext_iff]

@[simp] theorem idsDoc_inj {ids ids' : List Digest} :
    (idsDoc ids : Value F) = idsDoc ids' ↔ ids = ids' := by
  rw [idsDoc, idsDoc, Doc.arr.injEq, List.map_inj_right]
  exact fun _ _ h => Subtype.ext (Doc.str.inj h)

@[simp] theorem sortKeys_eq_strDoc {value : Value F} {s : Text} :
    value.sortKeys = Doc.sortKeys (.str s) ↔ value = .str s := Doc.sortKeys_eq_str

theorem basisKind_eq_ok {value : Value F} {kind : BasisKind} :
    basisKind value = .ok kind ↔ value = .str kind.name := by
  constructor
  · intro h
    obtain ⟨-, -, h⟩ := Except.bind_eq_ok.mp h
    split_ifs at h with h1 h2
    · obtain rfl := Except.ok.inj h
      exact isText_iff.mp h1
    · obtain rfl := Except.ok.inj h
      exact isText_iff.mp h2
    · exact absurd h raise_ne_ok
  · rintro rfl
    cases kind <;> rfl

theorem nodup_basisFields : (basisFields.map text).Nodup := by decide

/-- The contract of a basis accepts the documents of the bases. -/
theorem basis_eq_ok {value : Value F} (hvalue : value.UniqueNames) {b : ComparisonBasis} :
    basis value = .ok b ↔ value.sortKeys = b.doc.sortKeys := by
  rw [ComparisonBasis.doc,
    sortKeys_eq_record_iff hvalue "CV2_BASIS_FIELDS" rfl nodup_basisFields]
  simp only [List.forall_mem_cons, List.not_mem_nil, sortKeys_eq_idDoc, sortKeys_eq_idsDoc,
    sortKeys_eq_strDoc, false_imp_iff, implies_true, and_true]
  constructor
  · intro h
    obtain ⟨ms, hms, h⟩ := Except.bind_eq_ok.mp h
    obtain ⟨basisId, hid, h⟩ := Except.bind_eq_ok.mp h
    split at h
    · rename_i schemaVersion canonicalBytes hversion hbytes
      obtain ⟨⟨hne⟩, -, h⟩ := Except.bind_eq_ok.mp h
      obtain ⟨⟨hascii⟩, -, h⟩ := Except.bind_eq_ok.mp h
      obtain ⟨⟨hhash⟩, -, h⟩ := Except.bind_eq_ok.mp h
      obtain ⟨profiles, hprofiles, h⟩ := Except.bind_eq_ok.mp h
      obtain ⟨uncertainty, huncertainty, h⟩ := Except.bind_eq_ok.mp h
      obtain ⟨kind, hkind, h⟩ := Except.bind_eq_ok.mp h
      obtain ⟨⟨hunit, hclosure⟩, -, h⟩ := Except.bind_eq_ok.mp h
      obtain rfl := Except.ok.inj h
      exact ⟨ms, hms, opaqueId_eq_ok.mp hid, hversion, hbytes, isText_iff.mp hhash,
        basisKind_eq_ok.mp hkind, isText_iff.mp hunit, (orderedIds_eq_ok.mp hprofiles).1,
        (orderedIds_eq_ok.mp huncertainty).1⟩
    · exact absurd h raise_ne_ok
  · rintro ⟨ms, hms, hid, hversion, hbytes, hhash, hkind, hunit, hprofiles, huncertainty⟩
    obtain ⟨basisId, schemaVersion, canonicalBytes, kind, profiles, uncertainty, hne, hascii,
      hsortedp, hsortedu, hclosure⟩ := b
    have hpne : profiles ≠ [] := by
      rintro rfl
      cases kind <;> simp [BasisKind.Closure] at hclosure
    refine Except.bind_eq_ok.mpr ⟨ms, hms, Except.bind_eq_ok.mpr ⟨_, opaqueId_eq_ok.mpr hid, ?_⟩⟩
    simp only [field, hversion, hbytes]
    refine Except.bind_eq_ok.mpr ⟨_, ensure_of hne, Except.bind_eq_ok.mpr ⟨_, ensure_of hascii, ?_⟩⟩
    refine Except.bind_eq_ok.mpr ⟨_, ensure_of (isText_iff.mpr hhash), ?_⟩
    refine Except.bind_eq_ok.mpr
      ⟨⟨profiles, hsortedp⟩, orderedIds_eq_ok.mpr ⟨hprofiles, fun _ => hpne⟩, ?_⟩
    refine Except.bind_eq_ok.mpr
      ⟨⟨uncertainty, hsortedu⟩, orderedIds_eq_ok.mpr ⟨huncertainty, fun h => by cases h⟩, ?_⟩
    refine Except.bind_eq_ok.mpr ⟨kind, basisKind_eq_ok.mpr hkind, ?_⟩
    exact Except.bind_eq_ok.mpr ⟨_, ensure_of ⟨isText_iff.mpr hunit, hclosure⟩, rfl⟩

theorem nodup_observationFields : (observationFields.map text).Nodup := by decide

/-- The integer of a sequence number. -/
def intNumber (n : Nat) : Number F := .int n

@[simp] theorem sortKeys_eq_numDoc {value : Value F} {n : Number F} :
    value.sortKeys = Doc.sortKeys (.num n) ↔ value = .num n := Doc.sortKeys_eq_num

theorem observation_eq_ok {value : Value F} (hvalue : value.UniqueNames)
    {item : RoundObservation} :
    observation value = .ok item ↔ value.sortKeys = (item.doc intNumber).sortKeys := by
  rw [RoundObservation.doc,
    sortKeys_eq_record_iff hvalue "CV2_OBSERVATION_FIELDS" rfl nodup_observationFields]
  simp only [List.forall_mem_cons, List.not_mem_nil, sortKeys_eq_idDoc, sortKeys_eq_numDoc,
    sortKeys_eq_strDoc, false_imp_iff, implies_true, and_true]
  constructor
  · intro h
    obtain ⟨ms, hms, h⟩ := Except.bind_eq_ok.mp h
    obtain ⟨edgeId, hedge, h⟩ := Except.bind_eq_ok.mp h
    obtain ⟨observationId, hobservation, h⟩ := Except.bind_eq_ok.mp h
    obtain ⟨profileId, hprofile, h⟩ := Except.bind_eq_ok.mp h
    obtain ⟨correlationId, hcorrelation, h⟩ := Except.bind_eq_ok.mp h
    obtain ⟨canonicalHash, hhash, h⟩ := Except.bind_eq_ok.mp h
    split at h
    · rename_i sequence hsequence
      obtain ⟨⟨hpos⟩, -, h⟩ := Except.bind_eq_ok.mp h
      obtain ⟨⟨hunit⟩, -, h⟩ := Except.bind_eq_ok.mp h
      obtain rfl := Except.ok.inj h
      have htoNat : (sequence.toNat : Int) = sequence := Int.toNat_of_nonneg hpos.le
      refine ⟨ms, hms, opaqueId_eq_ok.mp hedge, opaqueId_eq_ok.mp hobservation,
        opaqueId_eq_ok.mp hhash, opaqueId_eq_ok.mp hprofile, ?_, opaqueId_eq_ok.mp hcorrelation,
        isText_iff.mp hunit⟩
      rw [intNumber, htoNat]
      exact hsequence
    · exact absurd h raise_ne_ok
  · rintro ⟨ms, hms, hedge, hobservation, hhash, hprofile, hsequence, hcorrelation, hunit⟩
    refine Except.bind_eq_ok.mpr ⟨ms, hms, ?_⟩
    refine Except.bind_eq_ok.mpr ⟨_, opaqueId_eq_ok.mpr hedge, ?_⟩
    refine Except.bind_eq_ok.mpr ⟨_, opaqueId_eq_ok.mpr hobservation, ?_⟩
    refine Except.bind_eq_ok.mpr ⟨_, opaqueId_eq_ok.mpr hprofile, ?_⟩
    refine Except.bind_eq_ok.mpr ⟨_, opaqueId_eq_ok.mpr hcorrelation, ?_⟩
    refine Except.bind_eq_ok.mpr ⟨_, opaqueId_eq_ok.mpr hhash, ?_⟩
    simp only [field, hsequence, intNumber]
    have hpos : (0 : Int) < item.sourceSequence := by exact_mod_cast item.sourceSequence_pos
    refine Except.bind_eq_ok.mpr ⟨_, ensure_of hpos, ?_⟩
    exact Except.bind_eq_ok.mpr ⟨_, ensure_of (isText_iff.mpr hunit), rfl⟩

/-- A loop over documents of records. -/
theorem mapM_eq_ok_iff_sortKeys {α : Type} {f : Value F → Result α} {doc : α → Value F}
    {items : List (Value F)} {as : List α}
    (hf : ∀ item ∈ items, ∀ a, f item = .ok a ↔ item.sortKeys = (doc a).sortKeys) :
    items.mapM f = .ok as ↔ items.map Doc.sortKeys = (as.map doc).map Doc.sortKeys := by
  rw [List.mapM_eq_ok_iff]
  induction items generalizing as with
  | nil => cases as <;> simp
  | cons item items ih =>
    obtain ⟨hitem, hitems⟩ := List.forall_mem_cons.mp hf
    cases as with
    | nil => simp
    | cons a as =>
      rw [List.forall₂_cons, hitem, ih hitems]
      simp

theorem sortKeys_arr_eq_iff {items docs : List (Value F)} :
    Doc.sortKeys (.arr items) = Doc.sortKeys (.arr docs) ↔
      items.map Doc.sortKeys = docs.map Doc.sortKeys := by
  rw [Doc.sortKeys_arr, Doc.sortKeys_arr, Doc.arr.injEq]

theorem sortKeys_ne_arr {value : Value F} (h : ∀ items, value ≠ .arr items)
    (docs : List (Value F)) : value.sortKeys ≠ Doc.sortKeys (.arr docs) := by
  rw [Doc.sortKeys_arr]
  intro heq
  obtain ⟨items, rfl, -⟩ := Doc.sortKeys_eq_arr.mp heq
  exact h items rfl

theorem observations_eq_ok {value : Value F} (hvalue : value.UniqueNames)
    {items : List RoundObservation} (hne : items ≠ []) :
    observations value = .ok items ↔
      value.sortKeys = Doc.sortKeys (.arr (items.map (·.doc intNumber))) := by
  cases value with
  | arr docs =>
    rw [sortKeys_arr_eq_iff]
    exact mapM_eq_ok_iff_sortKeys fun doc hdoc item =>
      observation_eq_ok (Doc.uniqueNames_arr.mp hvalue doc hdoc)
  | _ => exact iff_of_false (fun h => hne (Except.ok.inj h).symm) (sortKeys_ne_arr (by simp) _)

theorem arrayOf_eq_ok {α : Type} {f : Value F → Result α} {doc : α → Value F} {value : Value F}
    {code : String} {as : List α} (hvalue : value.UniqueNames)
    (hf : ∀ item : Value F, item.UniqueNames →
      ∀ a, f item = .ok a ↔ item.sortKeys = (doc a).sortKeys) :
    arrayOf f value code = .ok as ↔ value.sortKeys = Doc.sortKeys (.arr (as.map doc)) := by
  cases value with
  | arr docs =>
    rw [sortKeys_arr_eq_iff]
    exact mapM_eq_ok_iff_sortKeys fun item hitem =>
      hf item (Doc.uniqueNames_arr.mp hvalue item hitem)
  | _ => exact iff_of_false raise_ne_ok (sortKeys_ne_arr (by simp) _)

/-! ## Content identities -/

section Canonical

variable [FloatOps F]

theorem literal_intNumber : Number.literal (F := F) ∘ intNumber = DecimalText.natText := by
  funext n
  simp [intNumber, Number.literal, intText]

theorem canonicalText_roundMembers (round : ConsensusRoundInputV2) :
    canonicalText (F := F) (.obj (round.members intNumber)) = round.canonicalBytes := by
  rw [canonicalText, ← Doc.sortKeys_map, map_roundMembers, literal_intNumber]
  rfl

theorem canonicalText_decisionMembers (decision : ConsensusDecisionV2) :
    canonicalText (F := F) (.obj decision.members) = decision.canonicalBytes := by
  rw [canonicalText, ← Doc.sortKeys_map, map_decisionMembers]
  rfl

/-- Integers that Python writes as texts. -/
def ConsensusRoundInputV2.Printable (round : ConsensusRoundInputV2) : Prop :=
  ∀ item ∈ round.observations, item.sourceSequence < 10 ^ maxStrDigits

@[simp] theorem all_idsDoc {N : Type} {p : N → Prop} (ids : List Digest) :
    (idsDoc ids : Doc N).All p fun _ => True := by
  rw [idsDoc, Doc.all_arr]
  exact List.forall_mem_map.mpr fun _ _ => trivial

@[simp] theorem all_basisDoc {N : Type} {p : N → Prop} (b : ComparisonBasis) :
    (b.doc : Doc N).All p fun _ => True := by
  simp [ComparisonBasis.doc, idDoc]

theorem printable_roundMembers (round : ConsensusRoundInputV2) :
    Python.Printable (F := F) (.obj (round.members intNumber)) ↔ round.Printable := by
  have hobservation (item : RoundObservation) :
      (item.doc (intNumber (F := F))).All (·.printable) (fun _ => True) ↔
        item.sourceSequence < 10 ^ maxStrDigits := by
    simp [RoundObservation.doc, idDoc, intNumber, Number.printable]
  rw [Python.Printable, ConsensusRoundInputV2.members, Doc.all_obj]
  simp only [List.forall_mem_cons, List.not_mem_nil, false_imp_iff, implies_true, all_basisDoc,
    all_idsDoc, idDoc, Doc.all_str, true_and, and_true, Doc.all_arr, List.forall_mem_map,
    hobservation]
  rfl

theorem printable_decisionMembers (decision : ConsensusDecisionV2) :
    Python.Printable (F := F) (.obj decision.members) := by
  rw [Python.Printable, ConsensusDecisionV2.members, Doc.all_obj]
  simp only [List.forall_mem_cons, List.not_mem_nil, false_imp_iff, implies_true, all_basisDoc,
    all_idsDoc, idDoc, Exclusion.doc, Doc.all_str, Doc.all_obj, Doc.all_arr, List.forall_mem_map,
    and_self]

end Canonical

/-! ## Round inputs -/

theorem nodup_inputFields : (inputFields.map text).Nodup := by decide

/-- The identity is left out of what it is computed from. -/
theorem withoutKey_eq {ms : Members F} {rows : List (Text × Value F)} (names : List String)
    {name : String} (hms : (ms.map Prod.fst).Nodup) (hrows_names : rows.map Prod.fst = names.map text)
    (hnodup : ((names ++ [name]).map text).Nodup)
    (hexactly : Doc.HasExactly ms ((names ++ [name]).map text))
    (hrows : ∀ row ∈ rows, (Doc.get ms row.1).sortKeys = row.2.sortKeys) :
    (withoutKey ms name).sortKeys = Doc.sortKeys (.obj rows) := by
  have hnames : (rows ++ [(text name, Doc.get ms (text name))]).map Prod.fst =
      (names ++ [name]).map text := by
    rw [List.map_append, List.map_append, hrows_names]
    rfl
  have hsame : Doc.sortKeys (.obj ms) =
      Doc.sortKeys (.obj (rows ++ [(text name, Doc.get ms (text name))])) := by
    rw [Doc.sortKeys_obj_eq_iff hms (hnames ▸ hnodup), hnames]
    refine ⟨hexactly, fun row hrow => ?_⟩
    rcases List.mem_append.mp hrow with hrow | hrow
    · exact hrows row hrow
    · rw [List.mem_singleton.mp hrow]
  have hkeep : rows.filter (fun m => m.1 ≠ text name) = rows := by
    rw [List.filter_eq_self]
    intro m hm
    rw [List.map_append, List.nodup_append] at hnodup
    have hmem : m.1 ∈ names.map text := hrows_names ▸ List.mem_map_of_mem hm
    exact decide_eq_true (hnodup.2.2 _ hmem _ (by simp))
  rw [withoutKey, Doc.sortKeys_filter_eq hms (hnames ▸ hnodup) hsame fun n => n ≠ text name,
    List.filter_append, hkeep]
  simp

theorem dumps_withoutKey [FloatOps F] {ms : Members F} {rows : List (Text × Value F)}
    (names : List String) {name : String} {t : Text} (hms : (ms.map Prod.fst).Nodup)
    (hrows_names : rows.map Prod.fst = names.map text)
    (hnodup : ((names ++ [name]).map text).Nodup)
    (hexactly : Doc.HasExactly ms ((names ++ [name]).map text))
    (hrows : ∀ row ∈ rows, (Doc.get ms row.1).sortKeys = row.2.sortKeys) :
    dumps (ε := String) (withoutKey ms name) = .ok t ↔
      Python.Printable (.obj rows) ∧ canonicalText (.obj rows) = t := by
  have h := withoutKey_eq names hms hrows_names hnodup hexactly hrows
  rw [dumps_eq_ok, canonicalText_congr h, Python.Printable, ← Doc.all_sortKeys, h,
    Doc.all_sortKeys]
  rfl

theorem keys_of_edges {items : List RoundObservation}
    (h : (items.map (·.edgeId)).Pairwise (· < ·)) :
    (items.map (·.key)).Pairwise (· ≤ ·) ∧ (items.map (·.edgeId)).Nodup := by
  refine ⟨?_, h.imp ne_of_lt⟩
  rw [List.pairwise_map] at h ⊢
  exact h.imp fun hlt => Prod.Lex.le_iff.mpr (.inl hlt)

section Inputs

variable [FloatOps F]

/-- The contract of a round input accepts the documents of the round inputs, as far as Python writes
their integers. -/
theorem input_eq_ok {value : Value F} (hvalue : value.UniqueNames)
    {round : ConsensusRoundInputV2} :
    input value = .ok round ↔
      value.sortKeys = (round.doc intNumber).sortKeys ∧ round.Printable := by
  rw [ConsensusRoundInputV2.doc,
    sortKeys_eq_record_iff hvalue "CV2_INPUT_FIELDS" rfl nodup_inputFields]
  constructor
  · intro h
    obtain ⟨ms, hms, h⟩ := Except.bind_eq_ok.mp h
    obtain ⟨⟨hversion, hauthorization⟩, -, h⟩ := Except.bind_eq_ok.mp h
    obtain ⟨experimentId, hexperiment, h⟩ := Except.bind_eq_ok.mp h
    obtain ⟨runId, hrun, h⟩ := Except.bind_eq_ok.mp h
    obtain ⟨roundId, hround, h⟩ := Except.bind_eq_ok.mp h
    obtain ⟨qualificationId, hqualification, h⟩ := Except.bind_eq_ok.mp h
    obtain ⟨b, hb, h⟩ := Except.bind_eq_ok.mp h
    obtain ⟨⟨quality, hqsorted⟩, hquality, h⟩ := Except.bind_eq_ok.mp h
    obtain ⟨⟨hqne⟩, -, h⟩ := Except.bind_eq_ok.mp h
    obtain ⟨⟨parameters, hpsorted⟩, hparameters, h⟩ := Except.bind_eq_ok.mp h
    obtain ⟨items, hitems, h⟩ := Except.bind_eq_ok.mp h
    obtain ⟨⟨hne⟩, -, h⟩ := Except.bind_eq_ok.mp h
    obtain ⟨⟨hkeys, hedges⟩, -, h⟩ := Except.bind_eq_ok.mp h
    obtain ⟨⟨hprofile⟩, -, h⟩ := Except.bind_eq_ok.mp h
    obtain ⟨⟨hparameter⟩, -, h⟩ := Except.bind_eq_ok.mp h
    obtain ⟨contentId, hcontent, h⟩ := Except.bind_eq_ok.mp h
    obtain ⟨canonical, hcanonical, h⟩ := Except.bind_eq_ok.mp h
    obtain ⟨⟨hhash⟩, -, h⟩ := Except.bind_eq_ok.mp h
    have hrecord := Except.ok.inj h
    obtain ⟨rfl, hexactly⟩ := closed_eq_ok.mp hms
    have hunique := Doc.uniqueNames_get hvalue
    have hrows : ∀ row ∈ round.members intNumber, (Doc.get ms row.1).sortKeys = row.2.sortKeys := by
      subst hrecord
      simp only [ConsensusRoundInputV2.members, List.forall_mem_cons, List.not_mem_nil,
        sortKeys_eq_idDoc, sortKeys_eq_idsDoc, sortKeys_eq_strDoc, false_imp_iff, implies_true,
        and_true]
      exact ⟨isText_iff.mp hversion, opaqueId_eq_ok.mp hexperiment, opaqueId_eq_ok.mp hrun,
        opaqueId_eq_ok.mp hround, opaqueId_eq_ok.mp hqualification,
        (basis_eq_ok (hunique _)).mp hb, (orderedIds_eq_ok.mp hquality).1,
        (orderedIds_eq_ok.mp hparameters).1, (observations_eq_ok (hunique _) hne).mp hitems,
        isText_iff.mp hauthorization⟩
    obtain ⟨hprintable, htext⟩ := (dumps_withoutKey inputFields.dropLast
      (Doc.uniqueNames_obj.mp hvalue).1 rfl nodup_inputFields hexactly hrows).mp hcanonical
    refine ⟨⟨ms, hms, List.forall_mem_append.mpr ⟨hrows, List.forall_mem_singleton.mpr ?_⟩⟩,
      (printable_roundMembers round).mp hprintable⟩
    have hidentity : contentId = round.inputContentId := Subtype.ext (by
      rw [hhash, ← htext, canonicalText_roundMembers]
      rfl)
    rw [sortKeys_eq_idDoc, ← hidentity]
    exact opaqueId_eq_ok.mp hcontent
  · rintro ⟨⟨ms, hms, hrows⟩, hprintable⟩
    obtain ⟨hrows, hcontent⟩ := List.forall_mem_append.mp hrows
    rw [List.forall_mem_singleton, sortKeys_eq_idDoc] at hcontent
    obtain ⟨rfl, hexactly⟩ := closed_eq_ok.mp hms
    have hunique := Doc.uniqueNames_get hvalue
    have hcanonical : dumps (ε := String) (withoutKey ms "input_content_id") =
        .ok round.canonicalBytes :=
      (dumps_withoutKey inputFields.dropLast (Doc.uniqueNames_obj.mp hvalue).1 rfl
        nodup_inputFields hexactly hrows).mpr
        ⟨(printable_roundMembers round).mpr hprintable, canonicalText_roundMembers round⟩
    simp only [ConsensusRoundInputV2.members, List.forall_mem_cons, List.not_mem_nil,
      sortKeys_eq_idDoc, sortKeys_eq_idsDoc, sortKeys_eq_strDoc, false_imp_iff, implies_true,
      and_true] at hrows
    obtain ⟨hversion, hexperiment, hrun, hround, hqualification, hb, hquality, hparameters, hitems,
      hauthorization⟩ := hrows
    obtain ⟨hkeys, hedges⟩ := keys_of_edges round.edges_sorted
    refine Except.bind_eq_ok.mpr ⟨ms, hms, ?_⟩
    refine Except.bind_eq_ok.mpr
      ⟨_, ensure_of ⟨isText_iff.mpr hversion, isText_iff.mpr hauthorization⟩, ?_⟩
    refine Except.bind_eq_ok.mpr ⟨_, opaqueId_eq_ok.mpr hexperiment, ?_⟩
    refine Except.bind_eq_ok.mpr ⟨_, opaqueId_eq_ok.mpr hrun, ?_⟩
    refine Except.bind_eq_ok.mpr ⟨_, opaqueId_eq_ok.mpr hround, ?_⟩
    refine Except.bind_eq_ok.mpr ⟨_, opaqueId_eq_ok.mpr hqualification, ?_⟩
    refine Except.bind_eq_ok.mpr ⟨_, (basis_eq_ok (hunique _)).mpr hb, ?_⟩
    refine Except.bind_eq_ok.mpr ⟨⟨_, round.quality_sorted⟩,
      orderedIds_eq_ok.mpr ⟨hquality, fun _ => round.quality_ne⟩, ?_⟩
    refine Except.bind_eq_ok.mpr ⟨_, ensure_of round.quality_ne, ?_⟩
    refine Except.bind_eq_ok.mpr ⟨⟨_, round.parameters_sorted⟩,
      orderedIds_eq_ok.mpr ⟨hparameters, fun h => by cases h⟩, ?_⟩
    refine Except.bind_eq_ok.mpr
      ⟨_, (observations_eq_ok (hunique _) round.observations_ne).mpr hitems, ?_⟩
    refine Except.bind_eq_ok.mpr ⟨_, ensure_of round.observations_ne, ?_⟩
    refine Except.bind_eq_ok.mpr ⟨_, ensure_of ⟨hkeys, hedges⟩, ?_⟩
    refine Except.bind_eq_ok.mpr ⟨_, ensure_of round.profile_closure, ?_⟩
    refine Except.bind_eq_ok.mpr ⟨_, ensure_of round.parameter_closure, ?_⟩
    refine Except.bind_eq_ok.mpr ⟨_, opaqueId_eq_ok.mpr hcontent, ?_⟩
    refine Except.bind_eq_ok.mpr ⟨_, hcanonical, ?_⟩
    exact Except.bind_eq_ok.mpr ⟨_, ensure_of rfl, rfl⟩

end Inputs

/-! ## Decisions -/

theorem nodup_exclusionFields : (exclusionFields.map text).Nodup := by decide

theorem exclusion_eq_ok {value : Value F} (hvalue : value.UniqueNames) {row : Exclusion} :
    exclusion value = .ok row ↔ value.sortKeys = row.doc.sortKeys := by
  rw [Exclusion.doc,
    sortKeys_eq_record_iff hvalue "CV2_EXCLUSION_FIELDS" rfl nodup_exclusionFields]
  simp only [List.forall_mem_cons, List.not_mem_nil, sortKeys_eq_idDoc, sortKeys_eq_idsDoc,
    false_imp_iff, implies_true, and_true]
  constructor
  · intro h
    obtain ⟨ms, hms, h⟩ := Except.bind_eq_ok.mp h
    obtain ⟨edgeId, hedge, h⟩ := Except.bind_eq_ok.mp h
    obtain ⟨reasonId, hreason, h⟩ := Except.bind_eq_ok.mp h
    obtain ⟨⟨evidence, hsorted⟩, hevidence, h⟩ := Except.bind_eq_ok.mp h
    obtain ⟨⟨hne⟩, -, h⟩ := Except.bind_eq_ok.mp h
    obtain rfl := Except.ok.inj h
    exact ⟨ms, hms, opaqueId_eq_ok.mp hedge, opaqueId_eq_ok.mp hreason,
      (orderedIds_eq_ok.mp hevidence).1⟩
  · rintro ⟨ms, hms, hedge, hreason, hevidence⟩
    refine Except.bind_eq_ok.mpr ⟨ms, hms, ?_⟩
    refine Except.bind_eq_ok.mpr ⟨_, opaqueId_eq_ok.mpr hedge, ?_⟩
    refine Except.bind_eq_ok.mpr ⟨_, opaqueId_eq_ok.mpr hreason, ?_⟩
    refine Except.bind_eq_ok.mpr ⟨⟨_, row.evidence_sorted⟩,
      orderedIds_eq_ok.mpr ⟨hevidence, fun _ => row.evidence_ne⟩, ?_⟩
    exact Except.bind_eq_ok.mpr ⟨_, ensure_of row.evidence_ne, rfl⟩

theorem outcome_eq_ok {value : Value F} {o : ConsensusOutcomeV2} :
    outcome value = .ok o ↔ value = .str o.name := by
  constructor
  · intro h
    obtain ⟨-, -, h⟩ := Except.bind_eq_ok.mp h
    split_ifs at h with h1 h2
    · obtain rfl := Except.ok.inj h
      exact isText_iff.mp h1
    · obtain rfl := Except.ok.inj h
      exact isText_iff.mp h2
    · exact absurd h raise_ne_ok
  · rintro rfl
    cases o <;> rfl

theorem diagnosticText_eq_ok {value : Value F} {d : {diagnostic : Text // diagnostic ≠ []}} :
    diagnosticText value = .ok d ↔ value.sortKeys = Doc.sortKeys (.str d.val) := by
  rw [sortKeys_eq_strDoc]
  cases value with
  | str s =>
    rw [diagnosticText, Doc.str.injEq]
    split_ifs with h
    · rw [Except.ok.injEq, Subtype.ext_iff]
    · refine iff_of_false raise_ne_ok ?_
      rintro rfl
      exact h d.prop
  | _ => exact iff_of_false raise_ne_ok (by simp)

theorem nodup_decisionFields : (decisionFields.map text).Nodup := by decide

section Decisions

variable [FloatOps F]

/-- The contract of a decision accepts the documents of the decisions. -/
theorem decision_eq_ok {value : Value F} (hvalue : value.UniqueNames)
    {d : ConsensusDecisionV2} :
    decision value = .ok d ↔ value.sortKeys = d.doc.sortKeys := by
  rw [ConsensusDecisionV2.doc,
    sortKeys_eq_record_iff hvalue "CV2_DECISION_FIELDS" rfl nodup_decisionFields]
  constructor
  · intro h
    obtain ⟨ms, hms, h⟩ := Except.bind_eq_ok.mp h
    obtain ⟨⟨hversion, hauthorization⟩, -, h⟩ := Except.bind_eq_ok.mp h
    obtain ⟨inputId, hinput, h⟩ := Except.bind_eq_ok.mp h
    obtain ⟨inputHash, hinputHash, h⟩ := Except.bind_eq_ok.mp h
    obtain ⟨b, hb, h⟩ := Except.bind_eq_ok.mp h
    obtain ⟨⟨participants, hpsorted⟩, hparticipants, h⟩ := Except.bind_eq_ok.mp h
    obtain ⟨⟨hpne⟩, -, h⟩ := Except.bind_eq_ok.mp h
    obtain ⟨⟨included, hisorted⟩, hincluded, h⟩ := Except.bind_eq_ok.mp h
    obtain ⟨⟨hsubset⟩, -, h⟩ := Except.bind_eq_ok.mp h
    obtain ⟨excluded, hexcluded, h⟩ := Except.bind_eq_ok.mp h
    obtain ⟨⟨hesorted, hpartition, hdisjoint⟩, -, h⟩ := Except.bind_eq_ok.mp h
    obtain ⟨diagnostics, hdiagnostics, h⟩ := Except.bind_eq_ok.mp h
    obtain ⟨o, ho, h⟩ := Except.bind_eq_ok.mp h
    obtain ⟨⟨ranking, hrsorted⟩, hranking, h⟩ := Except.bind_eq_ok.mp h
    obtain ⟨⟨hsuccess⟩, -, h⟩ := Except.bind_eq_ok.mp h
    obtain ⟨⟨hfailure⟩, -, h⟩ := Except.bind_eq_ok.mp h
    obtain ⟨contentId, hcontent, h⟩ := Except.bind_eq_ok.mp h
    obtain ⟨canonical, hcanonical, h⟩ := Except.bind_eq_ok.mp h
    obtain ⟨⟨hhash⟩, -, h⟩ := Except.bind_eq_ok.mp h
    have hrecord := Except.ok.inj h
    obtain ⟨rfl, hexactly⟩ := closed_eq_ok.mp hms
    have hunique := Doc.uniqueNames_get hvalue
    have hrows : ∀ row ∈ d.members, (Doc.get ms row.1).sortKeys = row.2.sortKeys := by
      subst hrecord
      simp only [ConsensusDecisionV2.members, List.forall_mem_cons, List.not_mem_nil,
        sortKeys_eq_idDoc, sortKeys_eq_idsDoc, sortKeys_eq_strDoc, false_imp_iff, implies_true,
        and_true]
      exact ⟨isText_iff.mp hversion, opaqueId_eq_ok.mp hinput, opaqueId_eq_ok.mp hinputHash,
        (basis_eq_ok (hunique _)).mp hb, outcome_eq_ok.mp ho, (orderedIds_eq_ok.mp hparticipants).1,
        (orderedIds_eq_ok.mp hincluded).1,
        (arrayOf_eq_ok (hunique _) fun _ hitem _ => exclusion_eq_ok hitem).mp hexcluded,
        (orderedIds_eq_ok.mp hranking).1,
        (arrayOf_eq_ok (hunique _) fun _ _ _ => diagnosticText_eq_ok).mp hdiagnostics,
        isText_iff.mp hauthorization⟩
    obtain ⟨-, htext⟩ := (dumps_withoutKey decisionFields.dropLast
      (Doc.uniqueNames_obj.mp hvalue).1 rfl nodup_decisionFields hexactly hrows).mp hcanonical
    refine ⟨ms, hms, List.forall_mem_append.mpr ⟨hrows, List.forall_mem_singleton.mpr ?_⟩⟩
    have hidentity : contentId = d.decisionContentId := Subtype.ext (by
      rw [hhash, ← htext, canonicalText_decisionMembers]
      rfl)
    rw [sortKeys_eq_idDoc, ← hidentity]
    exact opaqueId_eq_ok.mp hcontent
  · rintro ⟨ms, hms, hrows⟩
    obtain ⟨hrows, hcontent⟩ := List.forall_mem_append.mp hrows
    rw [List.forall_mem_singleton, sortKeys_eq_idDoc] at hcontent
    obtain ⟨rfl, hexactly⟩ := closed_eq_ok.mp hms
    have hunique := Doc.uniqueNames_get hvalue
    have hcanonical : dumps (ε := String) (withoutKey ms "decision_content_id") =
        .ok d.canonicalBytes :=
      (dumps_withoutKey decisionFields.dropLast (Doc.uniqueNames_obj.mp hvalue).1 rfl
        nodup_decisionFields hexactly hrows).mpr
        ⟨printable_decisionMembers d, canonicalText_decisionMembers d⟩
    simp only [ConsensusDecisionV2.members, List.forall_mem_cons, List.not_mem_nil,
      sortKeys_eq_idDoc, sortKeys_eq_idsDoc, sortKeys_eq_strDoc, false_imp_iff, implies_true,
      and_true] at hrows
    obtain ⟨hversion, hinput, hinputHash, hb, ho, hparticipants, hincluded, hexcluded, hranking,
      hdiagnostics, hauthorization⟩ := hrows
    refine Except.bind_eq_ok.mpr ⟨ms, hms, ?_⟩
    refine Except.bind_eq_ok.mpr
      ⟨_, ensure_of ⟨isText_iff.mpr hversion, isText_iff.mpr hauthorization⟩, ?_⟩
    refine Except.bind_eq_ok.mpr ⟨_, opaqueId_eq_ok.mpr hinput, ?_⟩
    refine Except.bind_eq_ok.mpr ⟨_, opaqueId_eq_ok.mpr hinputHash, ?_⟩
    refine Except.bind_eq_ok.mpr ⟨_, (basis_eq_ok (hunique _)).mpr hb, ?_⟩
    refine Except.bind_eq_ok.mpr ⟨⟨_, d.participants_sorted⟩,
      orderedIds_eq_ok.mpr ⟨hparticipants, fun _ => d.participants_ne⟩, ?_⟩
    refine Except.bind_eq_ok.mpr ⟨_, ensure_of d.participants_ne, ?_⟩
    refine Except.bind_eq_ok.mpr ⟨⟨_, d.included_sorted⟩,
      orderedIds_eq_ok.mpr ⟨hincluded, fun h => by cases h⟩, ?_⟩
    refine Except.bind_eq_ok.mpr ⟨_, ensure_of d.included_subset, ?_⟩
    refine Except.bind_eq_ok.mpr ⟨_,
      (arrayOf_eq_ok (hunique _) fun _ hitem _ => exclusion_eq_ok hitem).mpr hexcluded, ?_⟩
    refine Except.bind_eq_ok.mpr
      ⟨_, ensure_of ⟨d.excluded_sorted, fun id _ => d.partition id, d.disjoint⟩, ?_⟩
    refine Except.bind_eq_ok.mpr ⟨_,
      (arrayOf_eq_ok (hunique _) fun _ _ _ => diagnosticText_eq_ok).mpr hdiagnostics, ?_⟩
    refine Except.bind_eq_ok.mpr ⟨_, outcome_eq_ok.mpr ho, ?_⟩
    refine Except.bind_eq_ok.mpr ⟨⟨_, d.ranking_sorted⟩,
      orderedIds_eq_ok.mpr ⟨hranking, fun h => by cases h⟩, ?_⟩
    refine Except.bind_eq_ok.mpr ⟨_, ensure_of fun h =>
      ⟨fun id _ => (d.success_ranking h).1 id, (d.success_ranking h).2⟩, ?_⟩
    refine Except.bind_eq_ok.mpr ⟨_, ensure_of d.failure_no_ranking, ?_⟩
    refine Except.bind_eq_ok.mpr ⟨_, opaqueId_eq_ok.mpr hcontent, ?_⟩
    refine Except.bind_eq_ok.mpr ⟨_, hcanonical, ?_⟩
    exact Except.bind_eq_ok.mpr ⟨_, ensure_of rfl, rfl⟩

end Decisions

end TruthFingerprint.ConsensusV2
