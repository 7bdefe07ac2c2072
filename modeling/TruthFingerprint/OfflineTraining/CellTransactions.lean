import TruthFingerprint.OfflineTraining.CellFiles

/-!
# Published cells

Calls that publish cells and calls that recover them run together on one evidence directory, and may
stop anywhere. What is found there afterwards is explained by manifests (`Sound`).
-/

namespace TruthFingerprint.OfflineTraining

open Python
open WriteOnce (Proc Store Extends)
open Evidence (bytesId)

/-! ## What is found -/

section Found

variable (F : Type) [Coercions F] (fs : FileNames) (paths : AcademicPaths)

/-- The manifest of a publication and its payloads are stored. -/
structure Committed (p : CellPublication) (s : Store Path Bytes) : Prop where
  manifest : ∃ content, p.manifestBytes F fs paths = .ok content ∧
    s (p.manifestPath paths) = some content
  cellPayload : s (p.cellPayloadPath paths) = some p.cellPayload
  predictionPayload : s (p.predictionPayloadPath paths) = some p.predictionPayload

omit [Coercions F] in
/-- The two files of a publication are stored. -/
def Published (p : CellPublication) (s : Store Path Bytes) : Prop :=
  s (paths.predictionTarget p.cellId) = some p.predictionPayload ∧
    s (paths.cellTarget p.cellId) = some p.cellPayload

/-- Every manifest commits to a publication, every file of predictions is that of a committed
publication, and so is every cell, whose predictions are stored too. -/
structure Sound (s : Store Path Bytes) : Prop where
  manifest : ∀ k, fs.isManifest paths k → s k ≠ none →
    ∃ p, k = p.manifestPath paths ∧ Committed F fs paths p s
  prediction : ∀ cellId content, Path.IsPart cellId →
    s (paths.predictionTarget cellId) = some content →
    ∃ p, p.cellId = cellId ∧ Committed F fs paths p s ∧ content = p.predictionPayload
  cell : ∀ cellId content, Path.IsPart cellId → s (paths.cellTarget cellId) = some content →
    ∃ p, p.cellId = cellId ∧ Committed F fs paths p s ∧ content = p.cellPayload ∧
      s (paths.predictionTarget cellId) = some p.predictionPayload

variable {F fs paths} {p p' : CellPublication} {s s' : Store Path Bytes}

theorem Committed.extend (h : Committed F fs paths p s) (hs : Extends s s') :
    Committed F fs paths p s' := by
  obtain ⟨⟨content, hcontent, hmanifest⟩, hcell, hprediction⟩ := h
  exact ⟨⟨content, hcontent, hs _ _ hmanifest⟩, hs _ _ hcell, hs _ _ hprediction⟩

omit [Coercions F] in
theorem Published.extend (h : Published paths p s) (hs : Extends s s') : Published paths p s' :=
  ⟨hs _ _ h.1, hs _ _ h.2⟩

/-- A new file has to be explained too. -/
theorem Sound.create {k : Path} {v : Bytes} (h : Sound F fs paths s)
    (hmanifest : fs.isManifest paths k →
      ∃ p, k = p.manifestPath paths ∧ Committed F fs paths p (WriteOnce.create s k v))
    (hprediction : ∀ cellId, Path.IsPart cellId → k = paths.predictionTarget cellId →
      ∃ p, p.cellId = cellId ∧ Committed F fs paths p s ∧ v = p.predictionPayload)
    (hcell : ∀ cellId, Path.IsPart cellId → k = paths.cellTarget cellId →
      ∃ p, p.cellId = cellId ∧ Committed F fs paths p s ∧ v = p.cellPayload ∧
        s (paths.predictionTarget cellId) = some p.predictionPayload) :
    Sound F fs paths (WriteOnce.create s k v) := by
  have hs := WriteOnce.extends_create s k v
  constructor
  · intro k' hk' hsome
    obtain ⟨v', hv'⟩ := Option.ne_none_iff_exists'.mp hsome
    rcases WriteOnce.create_cases hv' with hold | ⟨rfl, -⟩
    · obtain ⟨p, hp, hcommitted⟩ := h.manifest k' hk' (hold.trans_ne (Option.some_ne_none v'))
      exact ⟨p, hp, hcommitted.extend hs⟩
    · exact hmanifest hk'
  · intro cellId content hpart hcontent
    rcases WriteOnce.create_cases hcontent with hold | ⟨hk, rfl⟩
    · obtain ⟨p, hp, hcommitted, hpayload⟩ := h.prediction cellId content hpart hold
      exact ⟨p, hp, hcommitted.extend hs, hpayload⟩
    · obtain ⟨p, hp, hcommitted, hpayload⟩ := hprediction cellId hpart hk.symm
      exact ⟨p, hp, hcommitted.extend hs, hpayload⟩
  · intro cellId content hpart hcontent
    rcases WriteOnce.create_cases hcontent with hold | ⟨hk, rfl⟩
    · obtain ⟨p, hp, hcommitted, hpayload, htarget⟩ := h.cell cellId content hpart hold
      exact ⟨p, hp, hcommitted.extend hs, hpayload, hs _ _ htarget⟩
    · obtain ⟨p, hp, hcommitted, hpayload, htarget⟩ := hcell cellId hpart hk.symm
      exact ⟨p, hp, hcommitted.extend hs, hpayload, hs _ _ htarget⟩

/-! ### The files of a publication -/

section Located

variable {root : Path} {phase : Phase} (hlocated : Located fs root)

include hlocated

theorem resolve_manifestPath (p : CellPublication) :
    fs.resolve (p.manifestPath (phasePaths root phase)) = p.manifestPath (phasePaths root phase) :=
  hlocated.resolve _ ((below_transactions root phase).join (isName_manifest p.isPart))

theorem resolve_cellTarget {cellId : Text} (hcellId : Path.IsPart cellId) :
    fs.resolve ((phasePaths root phase).cellTarget cellId) =
      (phasePaths root phase).cellTarget cellId :=
  hlocated.resolve _ ((below_cells root phase).join (isName_cell hcellId))

theorem resolve_predictionTarget {cellId : Text} (hcellId : Path.IsPart cellId) :
    fs.resolve ((phasePaths root phase).predictionTarget cellId) =
      (phasePaths root phase).predictionTarget cellId :=
  hlocated.resolve _ ((below_predictions root phase).join (isName_prediction hcellId))

theorem resolve_cellPayloadPath (p : CellPublication) :
    fs.resolve (p.cellPayloadPath (phasePaths root phase)) =
      p.cellPayloadPath (phasePaths root phase) :=
  hlocated.resolve _ ((below_transactions root phase).join (isName_cellPayload p.isPart _))

theorem resolve_predictionPayloadPath (p : CellPublication) :
    fs.resolve (p.predictionPayloadPath (phasePaths root phase)) =
      p.predictionPayloadPath (phasePaths root phase) :=
  hlocated.resolve _ ((below_transactions root phase).join (isName_predictionPayload p.isPart _))

theorem parent_cellPayloadPath (p : CellPublication) :
    (fs.resolve (p.cellPayloadPath (phasePaths root phase))).parent =
      fs.resolve (phasePaths root phase).transactions := by
  rw [resolve_cellPayloadPath hlocated, hlocated.resolve _ (below_transactions root phase)]
  exact Path.parent_join _ (isName_cellPayload p.isPart p.cellPayload).1

theorem parent_predictionPayloadPath (p : CellPublication) :
    (fs.resolve (p.predictionPayloadPath (phasePaths root phase))).parent =
      fs.resolve (phasePaths root phase).transactions := by
  rw [resolve_predictionPayloadPath hlocated, hlocated.resolve _ (below_transactions root phase)]
  exact Path.parent_join _ (isName_predictionPayload p.isPart p.predictionPayload).1

theorem isManifest_iff {k : Path} : fs.isManifest (phasePaths root phase) k ↔
    k.parent = (phasePaths root phase).transactions ∧ text ".transaction.json" <:+ k.name := by
  rw [FileNames.isManifest, decide_eq_true_eq, hlocated.resolve _ (below_transactions root phase)]

omit hlocated in
theorem parent_cellTarget {cellId : Text} (hcellId : Path.IsPart cellId) :
    ((phasePaths root phase).cellTarget cellId).parent = (phasePaths root phase).cells :=
  Path.parent_join _ (isName_cell hcellId).1

omit hlocated in
theorem parent_predictionTarget {cellId : Text} (hcellId : Path.IsPart cellId) :
    ((phasePaths root phase).predictionTarget cellId).parent =
      (phasePaths root phase).predictions :=
  Path.parent_join _ (isName_prediction hcellId).1

omit hlocated in
/-- A file of the transactions is neither a cell nor a file of predictions. -/
theorem ne_target_of_transactions {k : Path}
    (hk : k.parent = (phasePaths root phase).transactions) {cellId : Text}
    (hcellId : Path.IsPart cellId) : k ≠ (phasePaths root phase).cellTarget cellId ∧
      k ≠ (phasePaths root phase).predictionTarget cellId := by
  obtain ⟨hcells, hpredictions, -⟩ := directories_ne root phase
  constructor
  · rintro rfl
    exact hcells ((parent_cellTarget hcellId).symm.trans hk)
  · rintro rfl
    exact hpredictions ((parent_predictionTarget hcellId).symm.trans hk)

/-- A payload may be stored before anything commits to it. -/
theorem Sound.create_payload {k : Path} {v : Bytes} (h : Sound F fs (phasePaths root phase) s)
    (hk : k.parent = (phasePaths root phase).transactions)
    (hname : ¬text ".transaction.json" <:+ k.name) :
    Sound F fs (phasePaths root phase) (WriteOnce.create s k v) := by
  apply h.create
  · exact fun hmanifest => absurd ((isManifest_iff hlocated).mp hmanifest).2 hname
  · exact fun cellId hpart heq => absurd heq (ne_target_of_transactions hk hpart).2
  · exact fun cellId hpart heq => absurd heq (ne_target_of_transactions hk hpart).1

theorem Sound.create_cellPayload (h : Sound F fs (phasePaths root phase) s)
    (p : CellPublication) : Sound F fs (phasePaths root phase)
      (WriteOnce.create s (p.cellPayloadPath (phasePaths root phase)) p.cellPayload) := by
  have hpart := (isName_cellPayload p.isPart p.cellPayload).1
  refine h.create_payload hlocated (Path.parent_join _ hpart) ?_
  rw [CellPublication.cellPayloadPath, AcademicPaths.cellPayloadPath, name_join hpart]
  exact not_manifest_cellPayload p.cellPayload

theorem Sound.create_predictionPayload (h : Sound F fs (phasePaths root phase) s)
    (p : CellPublication) : Sound F fs (phasePaths root phase)
      (WriteOnce.create s (p.predictionPayloadPath (phasePaths root phase))
        p.predictionPayload) := by
  have hpart := (isName_predictionPayload p.isPart p.predictionPayload).1
  refine h.create_payload hlocated (Path.parent_join _ hpart) ?_
  rw [CellPublication.predictionPayloadPath, AcademicPaths.predictionPayloadPath, name_join hpart]
  exact not_manifest_predictionPayload p.predictionPayload

omit hlocated in
/-- The manifest commits to payloads that are stored. -/
theorem Sound.create_manifest (h : Sound F fs (phasePaths root phase) s) {p : CellPublication}
    {content : Bytes} (hcontent : p.manifestBytes F fs (phasePaths root phase) = .ok content)
    (hnone : s (p.manifestPath (phasePaths root phase)) = none)
    (hcell : s (p.cellPayloadPath (phasePaths root phase)) = some p.cellPayload)
    (hprediction : s (p.predictionPayloadPath (phasePaths root phase)) =
      some p.predictionPayload) :
    Sound F fs (phasePaths root phase)
      (WriteOnce.create s (p.manifestPath (phasePaths root phase)) content) := by
  have hs := WriteOnce.extends_create s (p.manifestPath (phasePaths root phase)) content
  have hparent : (p.manifestPath (phasePaths root phase)).parent =
      (phasePaths root phase).transactions := Path.parent_join _ (isName_manifest p.isPart).1
  apply h.create
  · refine fun _ => ⟨p, rfl, ⟨content, hcontent, WriteOnce.create_self hnone⟩, ?_, ?_⟩
    · exact hs _ _ hcell
    · exact hs _ _ hprediction
  · exact fun cellId hpart heq => absurd heq (ne_target_of_transactions hparent hpart).2
  · exact fun cellId hpart heq => absurd heq (ne_target_of_transactions hparent hpart).1

theorem Sound.create_prediction (h : Sound F fs (phasePaths root phase) s) {p : CellPublication}
    (hcommitted : Committed F fs (phasePaths root phase) p s) :
    Sound F fs (phasePaths root phase)
      (WriteOnce.create s ((phasePaths root phase).predictionTarget p.cellId)
        p.predictionPayload) := by
  obtain ⟨-, hpredictions, hcells⟩ := directories_ne root phase
  apply h.create
  · intro hmanifest
    have hparent := ((isManifest_iff hlocated).mp hmanifest).1
    exact absurd ((parent_predictionTarget p.isPart).symm.trans hparent) hpredictions
  · intro cellId hpart heq
    have hname := (Path.join_injective (isName_prediction p.isPart).1 (isName_prediction hpart).1
      heq).2
    exact ⟨p, List.append_cancel_right hname, hcommitted, rfl⟩
  · intro cellId hpart heq
    have hparent := congrArg Path.parent heq
    rw [parent_predictionTarget p.isPart, parent_cellTarget hpart] at hparent
    exact absurd hparent.symm hcells

theorem Sound.create_cell (h : Sound F fs (phasePaths root phase) s) {p : CellPublication}
    (hcommitted : Committed F fs (phasePaths root phase) p s)
    (hprediction : s ((phasePaths root phase).predictionTarget p.cellId) =
      some p.predictionPayload) :
    Sound F fs (phasePaths root phase)
      (WriteOnce.create s ((phasePaths root phase).cellTarget p.cellId) p.cellPayload) := by
  obtain ⟨hcells, -, hpredictions⟩ := directories_ne root phase
  apply h.create
  · intro hmanifest
    have hparent := ((isManifest_iff hlocated).mp hmanifest).1
    exact absurd ((parent_cellTarget p.isPart).symm.trans hparent) hcells
  · intro cellId hpart heq
    have hparent := congrArg Path.parent heq
    rw [parent_cellTarget p.isPart, parent_predictionTarget hpart] at hparent
    exact absurd hparent hpredictions
  · intro cellId hpart heq
    have hname := (Path.join_injective (isName_cell p.isPart).1 (isName_cell hpart).1 heq).2
    obtain rfl : p.cellId = cellId := List.append_cancel_right hname
    exact ⟨p, rfl, hcommitted, rfl, hprediction⟩

/-! ### Reading a manifest -/

variable {members : Members F} {identity : Text}

omit hlocated in
theorem ReadAs.strAt_eq (h : ReadAs fs paths p members identity) {name t : Text}
    (hmember : (name, .str t) ∈ p.manifest (F := F) fs paths identity) :
    strAt members name [] = t := by
  rw [strAt, h.lookup _ hmember]
  rfl

omit hlocated in
theorem ReadAs.isText_lookup (h : ReadAs fs paths p members identity) {name t : Text}
    (hmember : (name, .str t) ∈ p.manifest (F := F) fs paths identity) :
    isText (members.lookup name) t := by
  rw [h.lookup _ hmember, isText, decide_eq_true_eq]

/-- What a manifest declares of a publication -/
structure Declares (fs : FileNames) (paths : AcademicPaths) (p : CellPublication)
    (members : Members F) (identity : Text) : Prop where
  schema : isText (members.lookup (text "schema_version")) transactionSchema
  state : isText (members.lookup (text "state")) (text "committed")
  transaction : isText (members.lookup (text "transaction_id")) (transactionId p.cellId)
  cellId : members.lookup (text "cell_id") = some (.str p.cellId)
  cellTarget : isText (members.lookup (text "cell_target_path"))
    (fs.resolve (paths.cellTarget p.cellId)).toText
  cellHash : isText (members.lookup (text "cell_sha256")) (bytesId p.cellPayload)
  predictionTarget : isText (members.lookup (text "prediction_target_path"))
    (fs.resolve (paths.predictionTarget p.cellId)).toText
  predictionHash : isText (members.lookup (text "prediction_sha256")) (bytesId p.predictionPayload)
  identity : isText (members.lookup (text "identity")) identity

omit hlocated in
theorem ReadAs.declares (h : ReadAs fs paths p members identity) :
    Declares fs paths p members identity where
  schema := h.isText_lookup (List.mem_of_getElem? (i := 0) rfl)
  state := h.isText_lookup (List.mem_of_getElem? (i := 1) rfl)
  transaction := h.isText_lookup (List.mem_of_getElem? (i := 2) rfl)
  cellId := h.lookup _ (List.mem_of_getElem? (i := 3) rfl)
  cellTarget := h.isText_lookup (List.mem_of_getElem? (i := 4) rfl)
  cellHash := h.isText_lookup (List.mem_of_getElem? (i := 6) rfl)
  predictionTarget := h.isText_lookup (List.mem_of_getElem? (i := 7) rfl)
  predictionHash := h.isText_lookup (List.mem_of_getElem? (i := 9) rfl)
  identity := h.isText_lookup (List.mem_of_getElem? (i := 11) rfl)

omit hlocated in
/-- A manifest that was written is accepted under its name. -/
theorem ReadAs.checkManifest_eq (h : ReadAs fs paths p members identity) :
    fs.checkManifest paths members (p.manifestPath paths) = .ok p.cellId := by
  have hdeclares := h.declares
  have hcommitted : FileNames.committedCellId members (paths.manifestPath p.cellId) =
      .ok p.cellId := by
    rw [FileNames.committedCellId, hdeclares.cellId]
    simp only [requires, hdeclares.state, hdeclares.transaction, and_self, if_true]
    rfl
  rw [FileNames.checkManifest, h.core]
  simp only [requires, hdeclares.schema, bind, Except.bind, if_true, hdeclares.identity, hcommitted,
    hdeclares.cellTarget, hdeclares.predictionTarget, and_self, CellPublication.manifestPath]

theorem ReadAs.cellPayloadPath_eq
    (h : ReadAs fs (phasePaths root phase) p members identity) :
    Path.ofText (strAt members (text "cell_payload_path") []) =
      p.cellPayloadPath (phasePaths root phase) := by
  rw [h.strAt_eq (List.mem_of_getElem? (i := 5) rfl), resolve_cellPayloadPath hlocated]
  exact Path.ofText_toText (hlocated.normal_below
    ((below_transactions root phase).join (isName_cellPayload p.isPart _)))

theorem ReadAs.predictionPayloadPath_eq
    (h : ReadAs fs (phasePaths root phase) p members identity) :
    Path.ofText (strAt members (text "prediction_payload_path") []) =
      p.predictionPayloadPath (phasePaths root phase) := by
  rw [h.strAt_eq (List.mem_of_getElem? (i := 8) rfl), resolve_predictionPayloadPath hlocated]
  exact Path.ofText_toText (hlocated.normal_below
    ((below_transactions root phase).join (isName_predictionPayload p.isPart _)))

omit hlocated in
/-- What a committed manifest is read as -/
theorem Committed.readAs (h : Committed F fs paths p s) {content : Bytes} {value : Value F}
    (hcontent : s (p.manifestPath paths) = some content) (hvalue : loadsBytes content = some value)
    (hmembers : mapping value = some members) : ∃ identity, ReadAs fs paths p members identity := by
  obtain ⟨content', hbytes, hcontent'⟩ := h.manifest
  obtain rfl := Option.some.inj (hcontent.symm.trans hcontent')
  obtain ⟨members', identity, hread, hreadAs⟩ := exists_readAs hbytes
  obtain rfl := Option.some.inj (hvalue.symm.trans hread)
  obtain rfl := Option.some.inj hmembers
  exact ⟨identity, hreadAs⟩

/-- Publications of one cell whose manifests are stored have the same payloads. -/
theorem Committed.unique (h : Committed F fs (phasePaths root phase) p s)
    (h' : Committed F fs (phasePaths root phase) p' s) (hcellId : p.cellId = p'.cellId) :
    p.cellPayload = p'.cellPayload ∧ p.predictionPayload = p'.predictionPayload := by
  obtain ⟨content, hbytes, hcontent⟩ := h.manifest
  obtain ⟨members, identity, hread, hreadAs⟩ := exists_readAs hbytes
  have hpath : p.manifestPath (phasePaths root phase) = p'.manifestPath (phasePaths root phase) :=
    congrArg (phasePaths root phase).manifestPath hcellId
  obtain ⟨identity', hreadAs'⟩ := h'.readAs (hpath ▸ hcontent) hread rfl
  -- both payloads are where the one manifest says
  have hcell := (hreadAs.cellPayloadPath_eq hlocated).symm.trans
    (hreadAs'.cellPayloadPath_eq hlocated)
  have hprediction := (hreadAs.predictionPayloadPath_eq hlocated).symm.trans
    (hreadAs'.predictionPayloadPath_eq hlocated)
  constructor
  · exact Option.some.inj (h.cellPayload.symm.trans (hcell ▸ h'.cellPayload))
  · exact Option.some.inj (h.predictionPayload.symm.trans (hprediction ▸ h'.predictionPayload))

/-- Predictions that are stored for a committed publication are its predictions. -/
theorem Sound.prediction_cases (h : Sound F fs (phasePaths root phase) s)
    (hcommitted : Committed F fs (phasePaths root phase) p s) :
    s ((phasePaths root phase).predictionTarget p.cellId) = none ∨
      s ((phasePaths root phase).predictionTarget p.cellId) = some p.predictionPayload := by
  cases hstored : s ((phasePaths root phase).predictionTarget p.cellId) with
  | none => exact .inl rfl
  | some content =>
    obtain ⟨p', hcellId, hcommitted', rfl⟩ := h.prediction p.cellId content p.isPart hstored
    exact .inr (congrArg some (hcommitted'.unique hlocated hcommitted hcellId).2)

theorem Sound.cell_cases (h : Sound F fs (phasePaths root phase) s)
    (hcommitted : Committed F fs (phasePaths root phase) p s) :
    s ((phasePaths root phase).cellTarget p.cellId) = none ∨
      s ((phasePaths root phase).cellTarget p.cellId) = some p.cellPayload := by
  cases hstored : s ((phasePaths root phase).cellTarget p.cellId) with
  | none => exact .inl rfl
  | some content =>
    obtain ⟨p', hcellId, hcommitted', rfl, -⟩ := h.cell p.cellId content p.isPart hstored
    exact .inr (congrArg some (hcommitted'.unique hlocated hcommitted hcellId).1)

/-! ### Recovery -/

theorem keeps_writePrediction (hcommitted : Committed F fs (phasePaths root phase) p s) :
    (fs.atomicWrite ((phasePaths root phase).predictionTarget p.cellId) p.predictionPayload).Keeps
      (Sound F fs (phasePaths root phase)) (fun _ s' =>
        s' ((phasePaths root phase).predictionTarget p.cellId) = some p.predictionPayload) s := by
  have hresolve := @resolve_predictionTarget fs root phase hlocated p.cellId p.isPart
  refine (FileNames.keeps_atomicWrite fun s' hs hsound _ => ?_).mono fun _ s' _ hwritten => ?_
  · rw [hresolve]
    exact hsound.create_prediction hlocated (hcommitted.extend hs)
  · rwa [hresolve] at hwritten

theorem keeps_writeCell (hcommitted : Committed F fs (phasePaths root phase) p s)
    (hprediction : s ((phasePaths root phase).predictionTarget p.cellId) =
      some p.predictionPayload) :
    (fs.atomicWrite ((phasePaths root phase).cellTarget p.cellId) p.cellPayload).Keeps
      (Sound F fs (phasePaths root phase)) (fun _ => Published (phasePaths root phase) p) s := by
  have hresolve := @resolve_cellTarget fs root phase hlocated p.cellId p.isPart
  refine (FileNames.keeps_atomicWrite fun s' hs hsound _ => ?_).mono fun _ s' hs hwritten => ?_
  · rw [hresolve]
    exact hsound.create_cell hlocated (hcommitted.extend hs) (hs _ _ hprediction)
  · rw [hresolve] at hwritten
    exact ⟨hs _ _ hprediction, hwritten⟩

/-- Recovery of a committed publication keeps what is found explained. -/
theorem keeps_recoverCellTransaction {p : CellPublication}
    (hcommitted : Committed F fs (phasePaths root phase) p s) :
    (fs.recoverCellTransaction (F := F) (phasePaths root phase)
      (p.manifestPath (phasePaths root phase))).Keeps (Sound F fs (phasePaths root phase))
      (fun _ => Published (phasePaths root phase) p) s := by
  refine FileNames.keeps_readJson.bind fun members s₁ hs₁ hread => ?_
  obtain ⟨content, value, hcontent, hvalue, hmembers⟩ := hread
  replace hcommitted := hcommitted.extend hs₁
  rw [resolve_manifestPath hlocated] at hcontent
  obtain ⟨identity, hreadAs⟩ := hcommitted.readAs hcontent hvalue hmembers
  refine Proc.keeps_ofExcept_bind fun cellId hcellId => ?_
  obtain rfl := Except.ok.inj (hreadAs.checkManifest_eq.symm.trans hcellId)
  simp only [hreadAs.cellPayloadPath_eq hlocated, hreadAs.predictionPayloadPath_eq hlocated]
  refine FileNames.keeps_checkPayload.bind fun _ s₂ hs₂ _ => ?_
  refine FileNames.keeps_checkPayload.bind fun _ s₃ hs₃ _ => ?_
  replace hcommitted := hcommitted.extend (hs₂.trans hs₃)
  refine FileNames.keeps_readBytes.bind fun predictions s₄ hs₄ hpredictions => ?_
  rw [resolve_predictionPayloadPath hlocated] at hpredictions
  obtain rfl := Option.some.inj
    (hpredictions.symm.trans (hcommitted.extend hs₄).predictionPayload)
  replace hcommitted := hcommitted.extend hs₄
  refine (keeps_writePrediction hlocated hcommitted).bind fun _ s₅ hs₅ hprediction => ?_
  replace hcommitted := hcommitted.extend hs₅
  refine FileNames.keeps_readBytes.bind fun cell s₆ hs₆ hcell => ?_
  rw [resolve_cellPayloadPath hlocated] at hcell
  obtain rfl := Option.some.inj (hcell.symm.trans (hcommitted.extend hs₆).cellPayload)
  replace hcommitted := hcommitted.extend hs₆
  replace hprediction := hs₆ _ _ hprediction
  refine (keeps_writeCell hlocated hcommitted hprediction).bind fun _ s₇ _ hpublished => ?_
  refine FileNames.keeps_checkTarget.bind fun _ s₈ hs₈ _ => ?_
  refine FileNames.keeps_checkTarget.mono fun _ s₉ hs₉ _ => ?_
  exact hpublished.extend (hs₈.trans hs₉)

/-- Recovery of a committed publication stores its files when they are not stored yet. -/
theorem achieves_recoverCellTransaction {p : CellPublication}
    (hcommitted : Committed F fs (phasePaths root phase) p s)
    (hsound : Sound F fs (phasePaths root phase) s) :
    (fs.recoverCellTransaction (F := F) (phasePaths root phase)
      (p.manifestPath (phasePaths root phase))).Achieves
      (fun _ => Published (phasePaths root phase) p) s := by
  obtain ⟨content, hbytes, hcontent⟩ := hcommitted.manifest
  obtain ⟨members, identity, hvalue, hreadAs⟩ := exists_readAs hbytes
  rw [← resolve_manifestPath hlocated] at hcontent
  refine (FileNames.achieves_readJson hcontent hvalue rfl).bind fun members' s' _ hread => ?_
  obtain ⟨rfl, rfl⟩ := hread
  refine Proc.achieves_ofExcept_bind hreadAs.checkManifest_eq ?_
  simp only [hreadAs.cellPayloadPath_eq hlocated, hreadAs.predictionPayloadPath_eq hlocated]
  have hcellHash := hreadAs.declares.cellHash
  have hpredictionHash := hreadAs.declares.predictionHash
  have hcellParent := @parent_cellPayloadPath fs root phase hlocated p
  have hpredictionParent := @parent_predictionPayloadPath fs root phase hlocated p
  have hcell := hcommitted.cellPayload
  have hprediction := hcommitted.predictionPayload
  rw [← resolve_cellPayloadPath hlocated] at hcell
  rw [← resolve_predictionPayloadPath hlocated] at hprediction
  refine (FileNames.achieves_checkPayload hcellParent hcell hcellHash).bind fun _ s' _ hs' => ?_
  obtain rfl := hs'
  refine (FileNames.achieves_checkPayload hpredictionParent hprediction hpredictionHash).bind
    fun _ s' _ hs' => ?_
  obtain rfl := hs'
  refine (FileNames.achieves_readBytes hprediction).bind fun predictions s' _ hread => ?_
  obtain ⟨rfl, rfl⟩ := hread
  -- the predictions are written before the cell
  have hresolve := @resolve_predictionTarget fs root phase hlocated p.cellId p.isPart
  refine ((FileNames.achieves_atomicWrite ?_).and_keeps (keeps_writePrediction hlocated hcommitted)
    hsound).bind fun _ s₁ hs₁ hwritten => ?_
  · rw [hresolve]
    exact hsound.prediction_cases hlocated hcommitted
  obtain ⟨-, hprediction₁, hsound₁⟩ := hwritten
  have hcommitted₁ := hcommitted.extend hs₁
  refine (FileNames.achieves_readBytes (hs₁ _ _ hcell)).bind fun cell s' _ hread => ?_
  obtain ⟨rfl, rfl⟩ := hread
  have hresolve' := @resolve_cellTarget fs root phase hlocated p.cellId p.isPart
  refine ((FileNames.achieves_atomicWrite ?_).and_keeps
    (keeps_writeCell hlocated hcommitted₁ hprediction₁) hsound₁).bind fun _ s₂ _ hwritten => ?_
  · rw [hresolve']
    exact hsound₁.cell_cases hlocated hcommitted₁
  obtain ⟨-, hpublished, -⟩ := hwritten
  refine (FileNames.achieves_checkTarget (hresolve.symm ▸ hpublished.1) hpredictionHash).bind
    fun _ s' _ hs' => ?_
  obtain rfl := hs'
  refine (FileNames.achieves_checkTarget (hresolve'.symm ▸ hpublished.2) hcellHash).mono
    fun _ s' _ hs' => ?_
  exact hs' ▸ hpublished

theorem keeps_recoverCellTransactions :
    (fs.recoverCellTransactions (F := F) (phasePaths root phase)).Keeps
      (Sound F fs (phasePaths root phase)) (fun _ _ => True) s := by
  intro s' manifests hs hsound hlists
  refine Proc.keeps_forM (fun _ _ => trivial) fun k hk s'' hs' => ?_
  obtain ⟨hmanifest, hsome⟩ := (hlists.2 k).mp ((List.mem_insertionSort _).mp hk)
  obtain ⟨p, rfl, hcommitted⟩ := hsound.manifest k hmanifest hsome
  exact (keeps_recoverCellTransaction hlocated (hcommitted.extend hs')).mono fun _ _ _ _ => trivial

omit hlocated in
theorem cellId_eq_of_manifestPath_eq {p p' : CellPublication}
    (h : p.manifestPath (phasePaths root phase) = p'.manifestPath (phasePaths root phase)) :
    p.cellId = p'.cellId :=
  List.append_cancel_right (Path.join_injective (isName_manifest p.isPart).1
    (isName_manifest p'.isPart).1 h).2

/-- Recovery alone stores the files of every publication that is committed. -/
theorem achieves_recoverCellTransactions (hsound : Sound F fs (phasePaths root phase) s) :
    (fs.recoverCellTransactions (F := F) (phasePaths root phase)).Achieves
      (fun _ s' => ∀ p, Committed F fs (phasePaths root phase) p s →
        Published (phasePaths root phase) p s') s := by
  intro manifests hlists
  have hdone := @Proc.achieves_forM Path Bytes Text Path _ s (Sound F fs (phasePaths root phase))
    (fs.recoverCellTransaction (F := F) (phasePaths root phase))
    (fun k s' => ∀ p, Committed F fs (phasePaths root phase) p s →
      k = p.manifestPath (phasePaths root phase) → Published (phasePaths root phase) p s')
    (manifests.insertionSort (·.name ≤ ·.name)) hsound
    (fun k _ s₁ s₂ hs h p hp hk => (h p hp hk).extend hs)
    (fun k hk s' hs hsound' => ?_)
  · refine hdone.mono fun _ s' _ hall p hp => ?_
    obtain ⟨content, -, hcontent⟩ := hp.manifest
    have hmanifest : fs.isManifest (phasePaths root phase)
        (p.manifestPath (phasePaths root phase)) := by
      refine (isManifest_iff hlocated).mpr ⟨Path.parent_join _ (isName_manifest p.isPart).1, ?_⟩
      rw [CellPublication.manifestPath, AcademicPaths.manifestPath,
        name_join (isName_manifest p.isPart).1]
      exact List.suffix_append _ _
    refine hall (p.manifestPath (phasePaths root phase)) ?_ p hp rfl
    exact (List.mem_insertionSort _).mpr
      ((hlists.2 _).mpr ⟨hmanifest, hcontent.trans_ne (Option.some_ne_none content)⟩)
  · obtain ⟨hmanifest, hsome⟩ := (hlists.2 k).mp ((List.mem_insertionSort _).mp hk)
    obtain ⟨p, rfl, hcommitted⟩ := hsound.manifest k hmanifest hsome
    have hcommitted' := hcommitted.extend hs
    refine ((achieves_recoverCellTransaction hlocated hcommitted' hsound').and_keeps
      (keeps_recoverCellTransaction hlocated hcommitted') hsound').mono fun _ s'' _ h => ?_
    obtain ⟨hpublished, -, hsound''⟩ := h
    refine ⟨fun p' hp' hpath => ?_, hsound''⟩
    have hcellId := cellId_eq_of_manifestPath_eq hpath
    obtain ⟨hcell, hprediction⟩ := hcommitted.unique hlocated hp' hcellId
    rw [Published, ← hcellId, ← hcell, ← hprediction]
    exact hpublished

/-! ### Publication -/

theorem keeps_writePredictionPayload (p : CellPublication) :
    (fs.atomicWrite (p.predictionPayloadPath (phasePaths root phase)) p.predictionPayload).Keeps
      (Sound F fs (phasePaths root phase)) (fun _ s' =>
        s' (p.predictionPayloadPath (phasePaths root phase)) = some p.predictionPayload) s := by
  have hresolve := @resolve_predictionPayloadPath fs root phase hlocated p
  refine (FileNames.keeps_atomicWrite fun s' _ hsound _ => ?_).mono fun _ s' _ hwritten => ?_
  · rw [hresolve]
    exact hsound.create_predictionPayload hlocated p
  · rwa [hresolve] at hwritten

theorem keeps_writeCellPayload (p : CellPublication) :
    (fs.atomicWrite (p.cellPayloadPath (phasePaths root phase)) p.cellPayload).Keeps
      (Sound F fs (phasePaths root phase)) (fun _ s' =>
        s' (p.cellPayloadPath (phasePaths root phase)) = some p.cellPayload) s := by
  have hresolve := @resolve_cellPayloadPath fs root phase hlocated p
  refine (FileNames.keeps_atomicWrite fun s' _ hsound _ => ?_).mono fun _ s' _ hwritten => ?_
  · rw [hresolve]
    exact hsound.create_cellPayload hlocated p
  · rwa [hresolve] at hwritten

/-- The manifest is what commits. -/
theorem keeps_writeManifest {content : Bytes}
    (hcontent : p.manifestBytes F fs (phasePaths root phase) = .ok content)
    (hcell : s (p.cellPayloadPath (phasePaths root phase)) = some p.cellPayload)
    (hprediction : s (p.predictionPayloadPath (phasePaths root phase)) =
      some p.predictionPayload) :
    (fs.atomicWrite (p.manifestPath (phasePaths root phase)) content).Keeps
      (Sound F fs (phasePaths root phase))
      (fun _ => Committed F fs (phasePaths root phase) p) s := by
  have hresolve := @resolve_manifestPath fs root phase hlocated p
  refine (FileNames.keeps_atomicWrite fun s' hs hsound hnone => ?_).mono
    fun _ s' hs hwritten => ?_
  · rw [hresolve] at hnone ⊢
    exact hsound.create_manifest hcontent hnone (hs _ _ hcell) (hs _ _ hprediction)
  · rw [hresolve] at hwritten
    exact ⟨⟨content, hcontent, hwritten⟩, hs _ _ hcell, hs _ _ hprediction⟩

/-- The manifest of a publication can be written when the names of its files can. -/
theorem exists_manifestBytes (hroot : EncodablePath root) {p : CellPublication}
    (hcellId : Evidence.isEncodable p.cellId) (hrows : p.predictionRows < 10 ^ maxStrDigits) :
    ∃ content, p.manifestBytes F fs (phasePaths root phase) = .ok content := by
  have hphase : EncodablePath (phasePaths root phase).phase := by
    refine hroot.join ?_ ?_
    · cases phase <;> exact ⟨by decide, by decide, by decide⟩
    · cases phase <;> exact Evidence.isEncodable_text _
  have hdirectory {name : String} (hname : Path.IsPart (text name)) :
      EncodablePath ((phasePaths root phase).phase.join (text name)) :=
    hphase.join hname (Evidence.isEncodable_text name)
  have htransactions : EncodablePath (phasePaths root phase).transactions :=
    hdirectory ⟨by decide, by decide, by decide⟩
  have hname {suffix : String} : Evidence.isEncodable (p.cellId ++ text suffix) :=
    isEncodable_append hcellId (Evidence.isEncodable_text suffix)
  have hcell : EncodablePath ((phasePaths root phase).cellTarget p.cellId) :=
    (hdirectory ⟨by decide, by decide, by decide⟩).join (isName_cell p.isPart).1 hname
  have hprediction : EncodablePath ((phasePaths root phase).predictionTarget p.cellId) :=
    (hdirectory ⟨by decide, by decide, by decide⟩).join (isName_prediction p.isPart).1 hname
  have hcellPayload : EncodablePath (p.cellPayloadPath (phasePaths root phase)) :=
    htransactions.join (isName_cellPayload p.isPart _).1
      (isEncodable_append (isEncodable_append hname (isEncodable_hexDigest _))
        (Evidence.isEncodable_text _))
  have hpredictionPayload : EncodablePath (p.predictionPayloadPath (phasePaths root phase)) :=
    htransactions.join (isName_predictionPayload p.isPart _).1
      (isEncodable_append (isEncodable_append hname (isEncodable_hexDigest _))
        (Evidence.isEncodable_text _))
  have hcore : Doc.All (· = Number.int p.predictionRows) (Evidence.isEncodable ·)
      (.obj (p.manifestCore (F := F) fs (phasePaths root phase)) : Value F) := by
    simp only [CellPublication.manifestCore, Doc.all_obj, List.forall_mem_cons, Doc.all_str,
      Doc.all_num, Evidence.isEncodable_text, true_and, resolve_cellTarget hlocated p.isPart,
      resolve_predictionTarget hlocated p.isPart, resolve_cellPayloadPath hlocated,
      resolve_predictionPayloadPath hlocated, transactionSchema, transactionId, hcellId,
      isEncodable_append (Evidence.isEncodable_text _) hcellId, Evidence.isEncodable_bytesId,
      hcell.toText, hprediction.toText, hcellPayload.toText, hpredictionPayload.toText]
    exact fun _ h => absurd h List.not_mem_nil
  have hprintable : (Number.int p.predictionRows : Number F).printable := by
    rw [Number.printable, decide_eq_true_eq, Int.natAbs_natCast]
    exact hrows
  have hhashable : Hashable (F := F) (.obj (p.manifestCore fs (phasePaths root phase))) :=
    Doc.All.imp (fun n hn => hn ▸ hprintable) (fun _ h => h) _ hcore
  obtain ⟨hashed, hidentity⟩ := exists_hashOf hhashable
  have hmanifest : Evidence.Encodable (F := F)
      (.obj (p.manifest fs (phasePaths root phase) (bytesId hashed))) := by
    rw [Doc.all_obj] at hcore
    refine Doc.all_obj.mpr (List.forall_mem_append.mpr ⟨fun m hm => ?_, fun m hm => ?_⟩)
    · obtain ⟨hname, hvalue⟩ := hcore m hm
      exact ⟨hname, Doc.All.imp (fun n hn => hn ▸ hprintable) (fun _ h => h) _ hvalue⟩
    · obtain rfl := List.mem_singleton.mp hm
      exact ⟨Evidence.isEncodable_text _, Evidence.isEncodable_bytesId hashed⟩
  rw [CellPublication.manifestBytes, hidentity]
  exact exists_jsonBytes hmanifest

theorem keeps_publish [FloatEq F] (p : CellPublication) :
    (fs.publish F (phasePaths root phase) p).Keeps (Sound F fs (phasePaths root phase))
      (fun _ s' => Committed F fs (phasePaths root phase) p s' ∧
        Published (phasePaths root phase) p s') s := by
  refine (keeps_writePredictionPayload hlocated p).bind fun _ s₁ _ hprediction => ?_
  refine (keeps_writeCellPayload hlocated p).bind fun _ s₂ hs₂ hcell => ?_
  refine Proc.keeps_ofExcept_bind fun content hcontent => ?_
  refine (keeps_writeManifest hlocated hcontent hcell (hs₂ _ _ hprediction)).bind
    fun _ s₃ _ hcommitted => ?_
  refine (keeps_recoverCellTransaction hlocated hcommitted).mono fun _ s' hs' hpublished => ?_
  exact ⟨hcommitted.extend hs', hpublished⟩

end Located

end Found

end TruthFingerprint.OfflineTraining
