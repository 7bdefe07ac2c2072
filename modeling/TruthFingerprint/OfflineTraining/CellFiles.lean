import TruthFingerprint.OfflineTraining.CellPublication

/-!
# The files of a published cell

Where the files of a cell are, what the operations on them do, and that a manifest that was written
is read back (`exists_readAs`).
-/

namespace TruthFingerprint.OfflineTraining

open Python
open WriteOnce (Proc Store Extends)
open Evidence (bytesId)

/-! ## Names -/

section Names

/-- A part of a path that is no link to the parent -/
def IsName (t : Text) : Prop := Path.IsPart t ∧ t ≠ text ".."

theorem isName_append {t : Text} (ht : Path.slash ∉ t) {suffix : String}
    (hlength : 3 ≤ suffix.toList.length) (hsuffix : Path.slash ∉ text suffix) :
    IsName (t ++ text suffix) := by
  refine ⟨Path.isPart_append ht (by omega) hsuffix, fun hdots => ?_⟩
  have hsize := congrArg List.length hdots
  rw [List.length_append, text, List.length_map] at hsize
  change _ = 2 at hsize
  omega

theorem slash_notMem_hexDigest (content : Bytes) : Path.slash ∉ Sha256.hexDigest content := by
  intro h
  exact absurd (Sha256.hexDigest_isHex content _ h) (by decide)

/-- A path below a root -/
def Below (root path : Path) : Prop :=
  path.root = root.root ∧ ∃ parts, path.parts = root.parts ++ parts ∧ ∀ part ∈ parts, IsName part

theorem below_refl (root : Path) : Below root root :=
  ⟨rfl, [], (List.append_nil _).symm, fun _ h => absurd h List.not_mem_nil⟩

theorem Below.join {root path : Path} (h : Below root path) {t : Text} (ht : IsName t) :
    Below root (path.join t) := by
  obtain ⟨hroot, parts, hparts, hnames⟩ := h
  rw [Path.join_part path ht.1]
  refine ⟨hroot, parts ++ [t], ?_, ?_⟩
  · rw [hparts, List.append_assoc]
  · exact List.forall_mem_append.mpr ⟨hnames, fun part h => List.mem_singleton.mp h ▸ ht⟩

/-- The root is an absolute path, and neither it nor what is below it is a link. -/
structure Located (fs : FileNames) (root : Path) : Prop where
  normal : root.Normal
  resolve : ∀ path, Below root path → fs.resolve path = path

theorem Located.normal_below {fs : FileNames} {root path : Path} (h : Located fs root)
    (hpath : Below root path) : path.Normal := by
  obtain ⟨hroot, parts, hparts, hnames⟩ := hpath
  refine ⟨hroot.trans h.normal.root, ?_⟩
  rw [hparts]
  exact List.forall_mem_append.mpr ⟨h.normal.parts, fun part hpart => (hnames part hpart).1⟩

end Names

/-! ## Texts of paths -/

section Texts

open Evidence (isEncodable)

/-- The text of a path can be written. -/
def EncodablePath (path : Path) : Prop :=
  isEncodable path.root ∧ ∀ part ∈ path.parts, isEncodable part

theorem isEncodable_append {s t : Text} (hs : isEncodable s) (ht : isEncodable t) :
    isEncodable (s ++ t) := by
  rw [isEncodable, List.all_append, Bool.and_eq_true]
  exact ⟨hs, ht⟩

theorem EncodablePath.join {path : Path} (h : EncodablePath path) {t : Text}
    (ht : Path.IsPart t) (hencodable : isEncodable t) : EncodablePath (path.join t) := by
  rw [Path.join_part path ht]
  refine ⟨h.1, List.forall_mem_append.mpr ⟨h.2, fun part hpart => ?_⟩⟩
  exact List.mem_singleton.mp hpart ▸ hencodable

theorem EncodablePath.toText {path : Path} (h : EncodablePath path) : isEncodable path.toText := by
  obtain ⟨root, parts⟩ := path
  obtain ⟨hroot, hparts⟩ := h
  have hjoined : isEncodable ([Path.slash].intercalate parts) := by
    clear hroot
    induction parts with
    | nil => rfl
    | cons part parts ih =>
      obtain ⟨hpart, hparts⟩ := List.forall_mem_cons.mp hparts
      cases parts with
      | nil => simpa using hpart
      | cons next parts =>
        rw [List.intercalate_cons_cons]
        exact isEncodable_append (isEncodable_append hpart rfl) (ih hparts)
  rw [Path.toText]
  split_ifs
  · decide
  · exact isEncodable_append hroot hjoined

theorem isEncodable_hexDigest (content : Bytes) : isEncodable (Sha256.hexDigest content) := by
  have hid := Evidence.isEncodable_bytesId content
  rw [bytesId, isEncodable, List.all_append, Bool.and_eq_true] at hid
  exact hid.2

end Texts

section Keys

variable {root : Path} {phase : Phase} {cellId cellId' : Text} {payload payload' : Bytes}

theorem below_phase (root : Path) (phase : Phase) : Below root (phasePaths root phase).phase := by
  refine (below_refl root).join ?_
  cases phase <;> exact ⟨⟨by decide, by decide, by decide⟩, by decide⟩

theorem below_transactions (root : Path) (phase : Phase) :
    Below root (phasePaths root phase).transactions :=
  (below_phase root phase).join ⟨⟨by decide, by decide, by decide⟩, by decide⟩

theorem below_cells (root : Path) (phase : Phase) : Below root (phasePaths root phase).cells :=
  (below_phase root phase).join ⟨⟨by decide, by decide, by decide⟩, by decide⟩

theorem below_predictions (root : Path) (phase : Phase) :
    Below root (phasePaths root phase).predictions :=
  (below_phase root phase).join ⟨⟨by decide, by decide, by decide⟩, by decide⟩

variable (hcellId : Path.IsPart cellId)

include hcellId

theorem isName_manifest : IsName (cellId ++ text ".transaction.json") :=
  isName_append hcellId.2.2 (by decide) (by decide)

theorem isName_cell : IsName (cellId ++ text ".json") :=
  isName_append hcellId.2.2 (by decide) (by decide)

theorem isName_prediction : IsName (cellId ++ text ".jsonl") :=
  isName_append hcellId.2.2 (by decide) (by decide)

theorem isName_cellPayload (payload : Bytes) :
    IsName (cellId ++ text ".cell." ++ Sha256.hexDigest payload ++ text ".json") := by
  refine isName_append (fun h => ?_) (by decide) (by decide)
  rcases List.mem_append.mp h with h | h
  · exact (List.mem_append.mp h).elim hcellId.2.2 (by decide)
  · exact slash_notMem_hexDigest payload h

theorem isName_predictionPayload (payload : Bytes) :
    IsName (cellId ++ text ".prediction." ++ Sha256.hexDigest payload ++ text ".jsonl") := by
  refine isName_append (fun h => ?_) (by decide) (by decide)
  rcases List.mem_append.mp h with h | h
  · exact (List.mem_append.mp h).elim hcellId.2.2 (by decide)
  · exact slash_notMem_hexDigest payload h

omit hcellId in
theorem name_join {path : Path} {t : Text} (ht : Path.IsPart t) : (path.join t).name = t := by
  rw [Path.join_part path ht, Path.name, List.getLastD_concat]

omit hcellId in
/-- What ends like a manifest ends with this letter before its extension. -/
theorem getLast?_of_manifest {t : Text} (h : text ".transaction.json" <:+ t ++ text ".json") :
    t.getLast? = some 'n'.codePoint := by
  obtain ⟨u, hu⟩ := h
  have hsplit : text ".transaction.json" = text ".transaction" ++ text ".json" := by decide
  rw [hsplit, ← List.append_assoc] at hu
  rw [← List.append_cancel_right hu, List.getLast?_append]
  rfl

omit hcellId in
theorem not_manifest_cellPayload (payload : Bytes) : ¬text ".transaction.json" <:+
    cellId ++ text ".cell." ++ Sha256.hexDigest payload ++ text ".json" := by
  intro h
  have hlast := getLast?_of_manifest h
  have hdigest : Sha256.hexDigest payload ≠ [] := by
    intro hnil
    have hlength := Sha256.length_hexDigest payload
    rw [hnil] at hlength
    cases hlength
  rw [List.getLast?_append, List.getLast?_eq_some_getLast hdigest, Option.some_or] at hlast
  have hhex := Sha256.hexDigest_isHex payload _ (List.getLast_mem hdigest)
  rw [Option.some.inj hlast] at hhex
  exact absurd hhex (by decide)

omit hcellId in
theorem not_manifest_predictionPayload (payload : Bytes) : ¬text ".transaction.json" <:+
    cellId ++ text ".prediction." ++ Sha256.hexDigest payload ++ text ".jsonl" := by
  rintro ⟨u, hu⟩
  have hlast := congrArg List.getLast? hu
  rw [List.getLast?_append, List.getLast?_append,
    show (text ".transaction.json").getLast? = some 'n'.codePoint by decide,
    show (text ".jsonl").getLast? = some 'l'.codePoint by decide] at hlast
  exact absurd (Option.some.inj hlast) (by decide)

omit hcellId in
/-- The directories of a phase are different. -/
theorem directories_ne (root : Path) (phase : Phase) :
    (phasePaths root phase).cells ≠ (phasePaths root phase).transactions ∧
      (phasePaths root phase).predictions ≠ (phasePaths root phase).transactions ∧
      (phasePaths root phase).cells ≠ (phasePaths root phase).predictions := by
  have hne {t t' : Text} (ht : Path.IsPart t) (ht' : Path.IsPart t') (hne : t ≠ t') :
      (phasePaths root phase).phase.join t ≠ (phasePaths root phase).phase.join t' :=
    fun h => hne (Path.join_injective ht ht' h).2
  have hcells : Path.IsPart (text "cells") := ⟨by decide, by decide, by decide⟩
  have hpredictions : Path.IsPart (text "predictions") := ⟨by decide, by decide, by decide⟩
  have htransactions : Path.IsPart (text "transactions") := ⟨by decide, by decide, by decide⟩
  exact ⟨hne hcells htransactions (by decide), hne hpredictions htransactions (by decide),
    hne hcells hpredictions (by decide)⟩

end Keys

/-! ## Operations -/

namespace FileNames

section Operations

variable {fs : FileNames} {path : Path} {content payload : Bytes} {s : Store Path Bytes}

section Keeps

variable {inv : Store Path Bytes → Prop}

theorem keeps_readBytes : (fs.readBytes path).Keeps inv
    (fun content s' => s' (fs.resolve path) = some content) s := by
  intro s' _ _
  cases hread : s' (fs.resolve path) with
  | none => trivial
  | some content => exact hread

theorem keeps_isFile : (fs.isFile path).Keeps inv (fun _ _ => True) s :=
  fun _ _ _ => trivial

theorem keeps_fileSha256 : (fs.fileSha256 path).Keeps inv (fun _ _ => True) s :=
  keeps_readBytes.bind fun _ _ _ _ => trivial

theorem keeps_compareBytes {existing : Bytes} (h : s (fs.resolve path) = some existing) :
    (compareBytes path existing payload).Keeps inv
      (fun _ s' => s' (fs.resolve path) = some payload) s := by
  rw [compareBytes]
  split_ifs with heq
  · exact heq ▸ h
  · trivial

/-- What is written is there afterwards, whoever wrote it. -/
theorem keeps_atomicWrite (h : ∀ s', Extends s s' → inv s' → s' (fs.resolve path) = none →
      inv (WriteOnce.create s' (fs.resolve path) payload)) :
    (fs.atomicWrite path payload).Keeps inv
      (fun _ s' => s' (fs.resolve path) = some payload) s := by
  intro s' hs hinv
  cases hread : s' (fs.resolve path) with
  | some existing => exact keeps_compareBytes hread
  | none =>
    intro s'' hs' hinv'
    constructor
    · intro hnone
      exact ⟨h s'' (hs.trans hs') hinv' hnone, WriteOnce.create_self hnone⟩
    · intro w hw
      exact keeps_readBytes.bind fun _ _ _ hcontent => keeps_compareBytes hcontent

variable {F : Type} [Coercions F] [FloatEq F]

omit [FloatEq F] in
theorem keeps_readJson : (fs.readJson (F := F) path).Keeps inv
    (fun manifest s' => ∃ content value, s' (fs.resolve path) = some content ∧
      loadsBytes (F := F) content = some value ∧ mapping value = some manifest) s := by
  refine keeps_readBytes.bind fun content s' _ hcontent => ?_
  refine Proc.keeps_ofExcept_bind fun value hvalue => ?_
  refine Proc.keeps_ofExcept fun manifest hmanifest => ?_
  exact ⟨content, value, hcontent, orIssue_eq_ok.mp hvalue, orIssue_eq_ok.mp hmanifest⟩

omit [Coercions F] [FloatEq F] in
theorem keeps_checkPayload {paths : AcademicPaths} {expectedHash : Option (Value F)} :
    (fs.checkPayload paths path expectedHash).Keeps inv (fun _ _ => True) s := by
  refine Proc.keeps_ofExcept_bind fun _ _ => ?_
  refine keeps_isFile.bind fun _ _ _ _ => ?_
  refine Proc.keeps_ofExcept_bind fun _ _ => ?_
  exact keeps_fileSha256.bind fun _ _ _ _ => Proc.keeps_ofExcept fun _ _ => trivial

omit [Coercions F] [FloatEq F] in
theorem keeps_checkTarget {expectedHash : Option (Value F)} :
    (fs.checkTarget path expectedHash).Keeps inv (fun _ _ => True) s :=
  keeps_fileSha256.bind fun _ _ _ _ => Proc.keeps_ofExcept fun _ _ => trivial

end Keeps

section Achieves

theorem achieves_readBytes (h : s (fs.resolve path) = some content) :
    (fs.readBytes path).Achieves (fun content' s' => content' = content ∧ s' = s) s := by
  rw [readBytes, Proc.Achieves, h]
  exact ⟨rfl, rfl⟩

theorem achieves_isFile (h : s (fs.resolve path) = some content) :
    (fs.isFile path).Achieves (fun found s' => found = true ∧ s' = s) s := by
  rw [isFile, Proc.Achieves, h]
  exact ⟨rfl, rfl⟩

theorem achieves_fileSha256 (h : s (fs.resolve path) = some content) :
    (fs.fileSha256 path).Achieves (fun digest s' => digest = bytesId content ∧ s' = s) s := by
  refine (achieves_readBytes h).bind fun content' s' _ hread => ?_
  obtain ⟨rfl, rfl⟩ := hread
  exact ⟨rfl, rfl⟩

/-- Writing what is there, or where nothing is, changes no other file. -/
theorem achieves_atomicWrite (h : s (fs.resolve path) = none ∨ s (fs.resolve path) = some payload) :
    (fs.atomicWrite path payload).Achieves (fun _ s' => s' (fs.resolve path) = some payload ∧
      ∀ k, k ≠ fs.resolve path → s' k = s k) s := by
  rw [atomicWrite, Proc.Achieves]
  rcases h with hnone | hsome
  · rw [hnone]
    refine ⟨fun _ => ⟨WriteOnce.create_self hnone, fun k hk => WriteOnce.create_of_ne hk⟩,
      fun w hw => ?_⟩
    rw [hnone] at hw
    cases hw
  · rw [hsome]
    change (compareBytes path payload payload).Achieves _ s
    rw [compareBytes, if_pos rfl]
    exact ⟨hsome, fun _ _ => rfl⟩

variable {F : Type} [Coercions F] [FloatEq F]

omit [FloatEq F] in
theorem achieves_readJson {value : Value F} {manifest : Members F}
    (h : s (fs.resolve path) = some content) (hvalue : loadsBytes content = some value)
    (hmanifest : mapping value = some manifest) : (fs.readJson (F := F) path).Achieves
      (fun manifest' s' => manifest' = manifest ∧ s' = s) s := by
  refine (achieves_readBytes h).bind fun content' s' _ hread => ?_
  obtain ⟨rfl, rfl⟩ := hread
  refine Proc.achieves_ofExcept_bind (orIssue_eq_ok.mpr hvalue) ?_
  exact Proc.achieves_ofExcept (orIssue_eq_ok.mpr hmanifest) ⟨rfl, rfl⟩

omit [Coercions F] [FloatEq F] in
theorem achieves_checkPayload {paths : AcademicPaths} {expectedHash : Option (Value F)}
    (hparent : (fs.resolve path).parent = fs.resolve paths.transactions)
    (h : s (fs.resolve path) = some content) (hhash : isText expectedHash (bytesId content)) :
    (fs.checkPayload paths path expectedHash).Achieves (fun _ s' => s' = s) s := by
  refine Proc.achieves_ofExcept_bind (requires_eq_ok (u := ()).mpr hparent) ?_
  refine (achieves_isFile h).bind fun found s' _ hfound => ?_
  obtain ⟨hfound, rfl⟩ := hfound
  refine Proc.achieves_ofExcept_bind (requires_eq_ok (u := ()).mpr hfound) ?_
  refine (achieves_fileSha256 h).bind fun digest s' _ hdigest => ?_
  obtain ⟨rfl, rfl⟩ := hdigest
  exact Proc.achieves_ofExcept (requires_eq_ok (u := ()).mpr hhash) rfl

omit [Coercions F] [FloatEq F] in
theorem achieves_checkTarget {expectedHash : Option (Value F)}
    (h : s (fs.resolve path) = some content) (hhash : isText expectedHash (bytesId content)) :
    (fs.checkTarget path expectedHash).Achieves (fun _ s' => s' = s) s := by
  refine (achieves_fileSha256 h).bind fun digest s' _ hdigest => ?_
  obtain ⟨rfl, rfl⟩ := hdigest
  exact Proc.achieves_ofExcept (requires_eq_ok (u := ()).mpr hhash) rfl

end Achieves

end Operations

end FileNames

/-! ## What can be written -/

section Written

variable {F : Type} [Coercions F]

theorem exists_jsonBytes {value : Value F} (h : Evidence.Encodable (jsonSafe value)) :
    ∃ content, jsonBytes value = .ok content := by
  rw [jsonBytes, dumpsSafe, dumpsAt, if_pos h]
  exact ⟨_, rfl⟩

theorem exists_hashOf {members : Members F} (h : Hashable (.obj members)) :
    ∃ content, hashOf members = .ok (bytesId content) := by
  rw [hashOf, canonicalJsonHash, if_pos h]
  exact ⟨_, rfl⟩

end Written

/-! ## Manifests -/

section Manifests

variable {F : Type} {fs : FileNames} {paths : AcademicPaths} {p p' : CellPublication}
  {content : Bytes}

def manifestCoreNames : List Text :=
  [text "schema_version", text "state", text "transaction_id", text "cell_id",
    text "cell_target_path", text "cell_payload_path", text "cell_sha256",
    text "prediction_target_path", text "prediction_payload_path", text "prediction_sha256",
    text "prediction_rows"]

theorem nodup_manifest (identity : Text) :
    ((p.manifest (F := F) fs paths identity).map Prod.fst).Nodup := by
  change (manifestCoreNames ++ [text "identity"]).Nodup
  decide +kernel

theorem sortKeys_manifest (identity : Text) :
    Doc.sortKeys (.obj (p.manifest (F := F) fs paths identity)) =
      .obj (Doc.sortMembers (p.manifest fs paths identity)) :=
  Doc.sortKeys_obj _

theorem filter_manifest (identity : Text) :
    (p.manifest (F := F) fs paths identity).filter (fun member => member.1 ≠ text "identity") =
      p.manifestCore fs paths := by
  have hcore : text "identity" ∉ manifestCoreNames := by decide +kernel
  rw [CellPublication.manifest, List.filter_append, List.filter_eq_self.mpr]
  · exact List.append_nil _
  · intro member hmember
    refine decide_eq_true fun heq => hcore ?_
    have hname : member.1 ∈ (p.manifestCore (F := F) fs paths).map Prod.fst :=
      List.mem_map_of_mem hmember
    exact heq ▸ hname

variable [Coercions F]

theorem hashOf_congr {members rows : Members F}
    (h : Doc.sortKeys (.obj members) = Doc.sortKeys (.obj rows)) : hashOf members = hashOf rows := by
  have hhashable : Hashable (F := F) (.obj members) ↔ Hashable (F := F) (.obj rows) := by
    rw [Hashable, Hashable, ← Doc.all_sortKeys, h, Doc.all_sortKeys]
  rw [hashOf, hashOf, canonicalJsonHash, canonicalJsonHash, h]
  simp only [hhashable]

/-- What the manifest is read as -/
structure ReadAs (fs : FileNames) (paths : AcademicPaths) (p : CellPublication)
    (members : Members F) (identity : Text) : Prop where
  lookup : ∀ member ∈ p.manifest (F := F) fs paths identity,
    members.lookup member.1 = some member.2
  core : hashOf (members.filter fun member => member.1 ≠ text "identity") = .ok identity

theorem readAs_sortMembers {identity : Text}
    (h : hashOf (p.manifestCore (F := F) fs paths) = .ok identity) :
    ReadAs fs paths p (Doc.sortMembers (p.manifest (F := F) fs paths identity)) identity := by
  have hnodup := @nodup_manifest F fs paths p identity
  have hsame := @sortKeys_manifest F fs paths p identity
  have hsorted : ((Doc.sortMembers (p.manifest (F := F) fs paths identity)).map Prod.fst).Nodup :=
    (Doc.map_fst_sortMembers_perm _).nodup_iff.mpr hnodup
  constructor
  · intro member hmember
    exact (Dict.lookup_eq_some_iff hsorted).mpr (Doc.mem_sortMembers.mpr hmember)
  · -- the identity is that of the members without it, in whatever order they were read
    have hsorts : Doc.sortKeys (.obj (Doc.sortMembers (p.manifest (F := F) fs paths identity))) =
        Doc.sortKeys (.obj (p.manifest (F := F) fs paths identity)) := by
      rw [← hsame, Doc.sortKeys_sortKeys]
    have hcore := hashOf_congr (Doc.sortKeys_filter_eq hsorted hnodup hsorts
      fun name => name ≠ text "identity")
    rw [hcore, filter_manifest]
    exact h

/-- A manifest that was written is read back. -/
theorem exists_readAs (h : p.manifestBytes F fs paths = .ok content) :
    ∃ members identity, loadsBytes (F := F) content = some (.obj members) ∧
      ReadAs fs paths p members identity := by
  rw [CellPublication.manifestBytes] at h
  cases hidentity : hashOf (p.manifestCore (F := F) fs paths) with
  | error e =>
    rw [hidentity] at h
    cases h
  | ok identity =>
    rw [hidentity] at h
    change dumpsSafe (.indented 2) (.obj (p.manifest (F := F) fs paths identity)) = .ok content at h
    rw [dumpsSafe] at h
    cases hdumps : dumpsAt (.indented 2)
        (jsonSafe (.obj (p.manifest (F := F) fs paths identity))) with
    | none =>
      rw [hdumps] at h
      cases h
    | some t =>
      rw [hdumps] at h
      obtain rfl : (t ++ text "\n").utf8 = content := by cases h; rfl
      have hints : Doc.All IsInt (fun _ => True)
          (.obj (p.manifest (F := F) fs paths identity) : Value F) := by
        simp [CellPublication.manifest, CellPublication.manifestCore, IsInt]
      have hunique : Doc.UniqueNames (.obj (p.manifest (F := F) fs paths identity) : Value F) := by
        refine Doc.uniqueNames_obj.mpr ⟨nodup_manifest identity, ?_⟩
        simp [CellPublication.manifest, CellPublication.manifestCore]
      refine ⟨_, identity, ?_, readAs_sortMembers hidentity⟩
      rw [← sortKeys_manifest]
      refine loadsBytes_dumpsAt hdumps hints hunique ?_
      intro c hc
      obtain rfl := List.mem_singleton.mp hc
      rfl

end Manifests

end TruthFingerprint.OfflineTraining
