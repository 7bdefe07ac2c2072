import Mathlib
import TruthFingerprint.Lib.WriteOnce
import TruthFingerprint.Evidence.ManifestBytes

/-!
# Manifest-last publication

A publication writes its subject and its manifest, verifies both and the objects that it refers to,
and writes a receipt last. The receipt is the only sign of completeness: when one is present, a call
has verified everything that the receipt stands for (`published_of_receipt`). This holds as long as
no call writes its subject or manifest under the key of a receipt. A call that is repeated succeeds
when the objects that it refers to are present and nothing conflicts with it (`retry_succeeds`).
-/

namespace TruthFingerprint.Evidence

open Document (record)
open WriteOnce (Op Store World Publishing Extends)

/-! ## Receipts -/

structure PublicationReceipt where
  receiptId : Text
  manifestRevisionId : Text
  manifestSerializedSha256 : Text
  repositorySnapshotId : Text
deriving DecidableEq

def PublicationReceipt.fields (receipt : PublicationReceipt) : List (String × Text) :=
  [("receipt_id", receipt.receiptId), ("manifest_revision_id", receipt.manifestRevisionId),
    ("manifest_serialized_sha256", receipt.manifestSerializedSha256),
    ("repository_snapshot_id", receipt.repositorySnapshotId),
    ("authorization_effect", text "none")]

def PublicationReceipt.toDict (receipt : PublicationReceipt) : Document :=
  record (receipt.fields.map fun field => (field.1, .str field.2))

/-- `publication_receipt_identity` -/
def publicationReceiptIdentity (receipt : PublicationReceipt) : Option Text :=
  (canonicalManifestBytes { receipt with receiptId := [] }.toDict).map bytesId

/-- `receipt_id.removeprefix("sha256:")` -/
def receiptKey (receipt : PublicationReceipt) : Text :=
  text "receipts/sha256-" ++
    (if text "sha256:" <+: receipt.receiptId then receipt.receiptId.drop 7 else receipt.receiptId)

/-! ## `publish_manifest_last` -/

/-- The arguments of a call -/
structure Publication where
  snapshotId : Text
  subjectKey : Text
  subjectBytes : Bytes
  manifestKey : Text
  manifestBytes : Bytes
  manifestRevisionId : Text
  referencedObjects : List (Text × Bytes)
deriving DecidableEq

namespace Publication

def unsignedReceipt (call : Publication) : PublicationReceipt :=
  ⟨[], call.manifestRevisionId, bytesId call.manifestBytes, call.snapshotId⟩

/-- The receipt of a call, unless its identity cannot be computed. -/
def receipt (call : Publication) : Option PublicationReceipt :=
  (publicationReceiptIdentity call.unsignedReceipt).map fun receiptId =>
    { call.unsignedReceipt with receiptId := receiptId }

/-- The object of the receipt: its key and its bytes. -/
def receiptObject (call : Publication) : Option (Text × Bytes) := do
  let receipt ← call.receipt
  let content ← canonicalManifestBytes receipt.toDict
  some (receiptKey receipt, content)

/-- The subject, the manifest and the objects that it refers to. -/
def objects (call : Publication) : List (Text × Bytes) :=
  (call.subjectKey, call.subjectBytes) :: (call.manifestKey, call.manifestBytes) ::
    call.referencedObjects

/-- `write_then_verify` -/
def writeThenVerify (object : Text × Bytes) : List (Op Text Bytes) :=
  [.create object.1 object.2, .verify object.1 object.2]

/-- What a call does before its receipt -/
def preparation (call : Publication) : List (Op Text Bytes) :=
  writeThenVerify (call.subjectKey, call.subjectBytes) ++
    writeThenVerify (call.manifestKey, call.manifestBytes) ++
    call.objects.map fun object => .verify object.1 object.2

/-- The operations of a call on a repository with this snapshot. -/
def operations (repositorySnapshot : Text) (call : Publication) : List (Op Text Bytes) :=
  if call.snapshotId ≠ repositorySnapshot then []
  else call.preparation ++ (call.receiptObject.map writeThenVerify).getD []

end Publication

inductive PublicationError where
  | repositoryUnqualified
  | conflict
  | readbackFailed
  | unencodable
deriving DecidableEq

/-- What a call has returned or raised, if it has come to its end. -/
def outcome (repositorySnapshot : Text) (call : Publication) :
    WriteOnce.Progress Text Bytes → Option (Except PublicationError PublicationReceipt)
  | .running _ (_ :: _) => none
  | .running _ [] =>
    if call.snapshotId ≠ repositorySnapshot then some (.error .repositoryUnqualified)
    else some (call.receipt.elim (.error .unencodable) .ok)
  | .failed _ (.create _ _) => some (.error .conflict)
  | .failed _ (.verify _ _) => some (.error .readbackFailed)

variable {ι : Type} [DecidableEq ι]

/-- Calls on a repository, none of which has done anything. -/
def startCalls (repositorySnapshot : Text) (calls : ι → Publication) (store : Store Text Bytes) :
    WriteOnce.Publishers Text Bytes ι :=
  WriteOnce.start store fun i => (calls i).operations repositorySnapshot

/-! ## What a receipt stands for -/

/-- An object under the key of a receipt that is the receipt. -/
def ReceiptPresent (s : Store Text Bytes) (receipt : PublicationReceipt) : Prop :=
  ∃ content, canonicalManifestBytes receipt.toDict = some content ∧
    s (receiptKey receipt) = some content

/-- The subject, the manifest and the objects that it refers to are present as the call supplied
them. -/
def Published (s : Store Text Bytes) (call : Publication) : Prop :=
  ∀ object ∈ call.objects, s object.1 = some object.2

def IsReceiptKey (key : Text) : Prop := text "receipts/sha256-" <+: key

instance : DecidablePred IsReceiptKey := fun _ => inferInstanceAs (Decidable (_ <+: _))

theorem isReceiptKey_receiptKey (receipt : PublicationReceipt) :
    IsReceiptKey (receiptKey receipt) :=
  List.prefix_append _ _

/-- A document whose fields are strings, with their texts as literals. -/
theorem literals_record (fields : List (String × Text)) :
    (record (fields.map fun field => (field.1, .str field.2))).map Python.Number.literal id =
      (.obj (fields.map fun field => (text field.1, .str field.2)) : Doc Text) := by
  simp only [record, Doc.map_obj, List.map_map]
  rfl

theorem encodable_record {fields : List (String × Text)} :
    Encodable (record (fields.map fun field => (field.1, .str field.2))) ↔
      ∀ field ∈ fields, isEncodable (text field.1) ∧ isEncodable field.2 := by
  simp only [Encodable, record, List.map_map, Doc.all_obj, List.forall_mem_map,
    Function.comp_apply, Doc.all_str]

theorem noSplitPair_of_isEncodable {s : Text} (h : isEncodable s) : JsonText.NoSplitPair s :=
  JsonText.noSplitPair_of_no_surrogate fun c hc => by simpa using List.all_eq_true.mp h c hc

theorem noSplitPair_of_encodable {fields : List (String × Text)}
    (h : Encodable (record (fields.map fun field => (field.1, .str field.2)))) :
    (.obj (fields.map fun field => (text field.1, .str field.2)) : Doc Text).All
      JsonText.IsLiteral JsonText.NoSplitPair := by
  rw [encodable_record] at h
  simp only [Doc.all_obj, List.forall_mem_map, Doc.all_str]
  intro field hfield
  exact ⟨noSplitPair_of_isEncodable (h field hfield).1,
    noSplitPair_of_isEncodable (h field hfield).2⟩

/-- The bytes of a receipt determine it. -/
theorem receipt_of_bytes {receipt receipt' : PublicationReceipt} {content : Bytes}
    (h : canonicalManifestBytes receipt.toDict = some content)
    (h' : canonicalManifestBytes receipt'.toDict = some content) : receipt = receipt' := by
  rw [canonicalManifestBytes] at h h'
  split_ifs at h with hencodable
  split_ifs at h' with hencodable'
  have htexts : canonicalManifestText receipt.toDict = canonicalManifestText receipt'.toDict :=
    Utf8.utf8_injective (Option.some.inj (h.trans h'.symm))
  have hrender := List.append_cancel_right htexts
  rw [← Doc.sortKeys_map, ← Doc.sortKeys_map, PublicationReceipt.toDict, PublicationReceipt.toDict,
    literals_record, literals_record] at hrender
  have hsorted := JsonText.render_injective (fun c hc => of_decide_eq_true hc)
    ((Doc.all_sortKeys _).mpr (noSplitPair_of_encodable hencodable))
    ((Doc.all_sortKeys _).mpr (noSplitPair_of_encodable hencodable')) hrender
  have hnodup : (receipt.fields.map fun field => text field.1).Nodup := by
    change [text "receipt_id", text "manifest_revision_id", text "manifest_serialized_sha256",
      text "repository_snapshot_id", text "authorization_effect"].Nodup
    decide +kernel
  have hvalues := (Doc.sortKeys_obj_eq_iff_map (by rw [List.map_map]; rfl)
    (by rw [List.map_map]; rfl) hnodup).mp hsorted
  simp only [PublicationReceipt.fields, List.map_cons, List.map_nil, List.cons.injEq,
    Doc.sortKeys, Doc.str.injEq] at hvalues
  obtain ⟨hid, hrevision, hdigest, hsnapshot, -⟩ := hvalues
  cases receipt
  cases receipt'
  simp_all

namespace Publication

variable {call : Publication} {repositorySnapshot : Text}

theorem create_mem_preparation {key : Text} {content : Bytes}
    (h : .create key content ∈ call.preparation) :
    key = call.subjectKey ∨ key = call.manifestKey := by
  rw [preparation, List.mem_append, List.mem_append, List.mem_map] at h
  rcases h with (h | h) | ⟨object, -, h⟩
  · rcases List.mem_pair.mp h with h | h
    · exact .inl (Op.create.inj h).1
    · cases h
  · rcases List.mem_pair.mp h with h | h
    · exact .inr (Op.create.inj h).1
    · cases h
  · cases h

/-- Whatever a call does besides its preparation concerns its receipt. -/
theorem receiptObject_of_mem {op : Op Text Bytes} (h : op ∈ call.operations repositorySnapshot)
    (hop : op ∉ call.preparation) :
    ∃ object, call.receiptObject = some object ∧ op ∈ writeThenVerify object := by
  rw [operations] at h
  split_ifs at h with hsnapshot
  · cases h
  · rcases List.mem_append.mp h with h | h
    · exact absurd h hop
    · cases hobject : call.receiptObject with
      | none =>
        rw [hobject] at h
        cases h
      | some object =>
        rw [hobject] at h
        exact ⟨object, rfl, h⟩

/-- A call that has done more than a part of its preparation has done all of it. -/
theorem preparation_of_done {done : List (Op Text Bytes)} {op : Op Text Bytes}
    (hdone : done <+: call.operations repositorySnapshot) (hmem : op ∈ done)
    (hop : op ∉ call.preparation) : call.preparation <+: done := by
  have hall : call.preparation <+: call.operations repositorySnapshot := by
    have hops := hdone.subset hmem
    rw [operations] at hops ⊢
    split_ifs at hops ⊢ with hsnapshot
    · cases hops
    · exact List.prefix_append _ _
  rcases List.prefix_or_prefix_of_prefix hall hdone with h | h
  · exact h
  · exact absurd (h.subset hmem) hop

theorem verify_mem_preparation {object : Text × Bytes} (h : object ∈ call.objects) :
    .verify object.1 object.2 ∈ call.preparation :=
  List.mem_append_right _ (List.mem_map_of_mem h)

end Publication

namespace Publication

variable {call : Publication} {repositorySnapshot : Text}

theorem receiptObject_eq_some {object : Text × Bytes} (h : call.receiptObject = some object) :
    ∃ receipt, call.receipt = some receipt ∧ receiptKey receipt = object.1 ∧
      canonicalManifestBytes receipt.toDict = some object.2 := by
  rw [receiptObject, Option.bind_eq_bind, Option.bind_eq_some_iff] at h
  obtain ⟨receipt, hreceipt, h⟩ := h
  obtain ⟨content, hcontent, h⟩ := Option.bind_eq_some_iff.mp h
  obtain rfl := Option.some.inj h
  exact ⟨receipt, hreceipt, rfl, hcontent⟩

theorem digest_of_receipt {receipt : PublicationReceipt} (h : call.receipt = some receipt) :
    receipt.manifestSerializedSha256 = bytesId call.manifestBytes := by
  obtain ⟨receiptId, -, rfl⟩ := Option.map_eq_some_iff.mp h
  rfl

end Publication

/-- When a receipt is present, a call with the manifest that it names has published everything. It
takes that no receipt was there before, and that no call writes its subject or its manifest under
the key of a receipt. -/
theorem published_of_receipt {repositorySnapshot : Text} {calls : ι → Publication}
    {store : Store Text Bytes} {w : WriteOnce.Publishers Text Bytes ι}
    (hstore : ∀ receipt, ¬ReceiptPresent store receipt)
    (hkeys : ∀ i, ¬IsReceiptKey (calls i).subjectKey ∧ ¬IsReceiptKey (calls i).manifestKey)
    (h : Publishing (startCalls repositorySnapshot calls store) w) {receipt : PublicationReceipt}
    (hreceipt : ReceiptPresent w.store receipt) :
    ∃ i, bytesId (calls i).manifestBytes = receipt.manifestSerializedSha256 ∧
      Published w.store (calls i) := by
  obtain ⟨content, hcontent, hpresent⟩ := hreceipt
  rcases WriteOnce.authored h hpresent with hinit | ⟨i, hdone⟩
  · exact absurd ⟨content, hcontent, hinit⟩ (hstore receipt)
  · have hknows := WriteOnce.knows h i
    have hop : .create (receiptKey receipt) content ∉ (calls i).preparation := by
      intro hmem
      have hkey := isReceiptKey_receiptKey receipt
      rcases Publication.create_mem_preparation hmem with heq | heq
      · exact (hkeys i).1 (heq ▸ hkey)
      · exact (hkeys i).2 (heq ▸ hkey)
    have hprepared := Publication.preparation_of_done hknows.follows hdone hop
    obtain ⟨object, hobject, hwritten⟩ :=
      Publication.receiptObject_of_mem (hknows.follows.subset hdone) hop
    refine ⟨i, ?_, fun object hmem => ?_⟩
    · obtain ⟨receipt', hreceipt', -, hcontent'⟩ := Publication.receiptObject_eq_some hobject
      have heq : content = object.2 := by
        rcases List.mem_pair.mp hwritten with hwritten | hwritten
        · exact (Op.create.inj hwritten).2
        · cases hwritten
      rw [receipt_of_bytes hcontent (heq ▸ hcontent'), Publication.digest_of_receipt hreceipt']
    · exact hknows.stored _ _ (hprepared.subset (Publication.verify_mem_preparation hmem))

/-! ## Calls that are repeated -/

namespace Publication

variable {call : Publication} {repositorySnapshot : Text}

/-- Everything that a call writes or reads. -/
def allObjects (call : Publication) : List (Text × Bytes) :=
  call.objects ++ call.receiptObject.toList

/-- There is no object with another content under a key of the call, which has one content for each
key itself. -/
def NoConflict (call : Publication) (s : Store Text Bytes) : Prop :=
  ∀ object ∈ call.allObjects, (∀ content, s object.1 = some content → content = object.2) ∧
    ∀ object' ∈ call.allObjects, object.1 = object'.1 → object.2 = object'.2

/-- Every operation is about one of the objects. -/
theorem mem_allObjects {op : Op Text Bytes} (h : op ∈ call.operations repositorySnapshot) :
    (op.key, op.value) ∈ call.allObjects := by
  by_cases hop : op ∈ call.preparation
  · rw [preparation, List.mem_append, List.mem_append, List.mem_map] at hop
    apply List.mem_append_left
    rcases hop with (hop | hop) | ⟨object, hobject, rfl⟩
    · rcases List.mem_pair.mp hop with rfl | rfl <;> exact List.mem_cons_self
    · rcases List.mem_pair.mp hop with rfl | rfl <;>
        exact List.mem_cons_of_mem _ List.mem_cons_self
    · exact hobject
  · obtain ⟨object, hobject, hwritten⟩ := receiptObject_of_mem h hop
    apply List.mem_append_right
    rw [hobject]
    rcases List.mem_pair.mp hwritten with rfl | rfl <;> exact List.mem_singleton_self _

theorem agrees_of_noConflict {s : Store Text Bytes} (h : call.NoConflict s) :
    WriteOnce.Agrees (call.operations repositorySnapshot) s :=
  fun _ hop => (h _ (mem_allObjects hop)).1

theorem consistent_of_noConflict {s : Store Text Bytes} (h : call.NoConflict s) :
    WriteOnce.Consistent (call.operations repositorySnapshot) :=
  fun _ hop _ hop' => (h _ (mem_allObjects hop)).2 _ (mem_allObjects hop')

/-- A call verifies what it has written, and the objects that it refers to. -/
theorem supported_operations {s : Store Text Bytes}
    (h : ∀ object ∈ call.referencedObjects, s object.1 = some object.2) :
    WriteOnce.Supported (call.operations repositorySnapshot) s := by
  rw [operations]
  split_ifs with hsnapshot
  · exact WriteOnce.supported_nil s
  · have hwritten : WriteOnce.Supported (writeThenVerify (call.subjectKey, call.subjectBytes) ++
        writeThenVerify (call.manifestKey, call.manifestBytes)) s :=
      ((WriteOnce.supported_nil s).append_write _ _).append_write _ _
    have hprepared : WriteOnce.Supported call.preparation s := by
      refine hwritten.append_verify fun object hobject => ?_
      rcases List.mem_cons.mp hobject with rfl | hobject
      · exact .inl (by simp [writeThenVerify])
      · rcases List.mem_cons.mp hobject with rfl | hobject
        · exact .inl (by simp [writeThenVerify])
        · exact .inr (h object hobject)
    cases call.receiptObject with
    | none =>
      change WriteOnce.Supported (call.preparation ++ []) s
      rwa [List.append_nil]
    | some object => exact hprepared.append_write _ _

end Publication

/-- A call that is made when the objects that it refers to are present, and that nothing conflicts
with, returns its receipt: at no time has it ended otherwise, and it can always come to its end by
itself. -/
theorem retry_succeeds {repositorySnapshot : Text} {calls : ι → Publication}
    {w w' : WriteOnce.Publishers Text Bytes ι} {i : ι} {receipt : PublicationReceipt}
    (hsnapshot : (calls i).snapshotId = repositorySnapshot)
    (hreceipt : (calls i).receipt = some receipt)
    (hcalled : w.clients i = .running [] ((calls i).operations repositorySnapshot))
    (hreferenced : ∀ object ∈ (calls i).referencedObjects, w.store object.1 = some object.2)
    (h : Publishing w w') (hconflict : (calls i).NoConflict w'.store) :
    (∀ result, outcome repositorySnapshot (calls i) (w'.clients i) = some result →
      result = .ok receipt) ∧
    ∃ w'', Publishing w' w'' ∧
      outcome repositorySnapshot (calls i) (w''.clients i) = some (.ok receipt) := by
  have hknows : WriteOnce.Knows ((calls i).operations repositorySnapshot) w.store (w.clients i) :=
    hcalled ▸ WriteOnce.knows_start _ _
  have hsupported : WriteOnce.Supported ((calls i).operations repositorySnapshot) w.store :=
    Publication.supported_operations hreferenced
  have hagrees : WriteOnce.Agrees ((calls i).operations repositorySnapshot) w'.store :=
    Publication.agrees_of_noConflict hconflict
  have hnotFailed := WriteOnce.not_failed_of_agrees hcalled hknows hsupported h hagrees
  have hfinished (done : List (Op Text Bytes)) :
      outcome repositorySnapshot (calls i) (.running done []) = some (.ok receipt) := by
    rw [outcome, if_neg (not_not.mpr hsnapshot), hreceipt, Option.elim_some]
  cases hprogress : w'.clients i with
  | failed done op => exact absurd hprogress (hnotFailed done op)
  | running done todo =>
    constructor
    · intro result hresult
      cases todo with
      | nil => exact (Option.some.inj (hresult.symm.trans (hfinished done)))
      | cons => cases hresult
    · have hstore := WriteOnce.store_extends (fun _ _ _ => WriteOnce.extends_of_move) h
      obtain ⟨w'', hrun, hend⟩ := WriteOnce.exists_finished hprogress
        (WriteOnce.knows_of_run hknows h) (hsupported.extend hstore) hagrees
        (Publication.consistent_of_noConflict hconflict)
      exact ⟨w'', hrun, hend ▸ hfinished _⟩

/-- Both parts of the protocol, for every run: what a receipt stands for, and that a call can be
repeated. -/
theorem publish_manifestLast {repositorySnapshot : Text} {calls : ι → Publication}
    {store : Store Text Bytes} {w : WriteOnce.Publishers Text Bytes ι}
    (h : Publishing (startCalls repositorySnapshot calls store) w) :
    ((∀ receipt, ¬ReceiptPresent store receipt) →
      (∀ i, ¬IsReceiptKey (calls i).subjectKey ∧ ¬IsReceiptKey (calls i).manifestKey) →
      ∀ receipt, ReceiptPresent w.store receipt →
        ∃ i, bytesId (calls i).manifestBytes = receipt.manifestSerializedSha256 ∧
          Published w.store (calls i)) ∧
    ∀ i receipt w', (calls i).snapshotId = repositorySnapshot → (calls i).receipt = some receipt →
      w.clients i = .running [] ((calls i).operations repositorySnapshot) →
      (∀ object ∈ (calls i).referencedObjects, w.store object.1 = some object.2) →
      Publishing w w' → (calls i).NoConflict w'.store →
        (∀ result, outcome repositorySnapshot (calls i) (w'.clients i) = some result →
          result = .ok receipt) ∧
        ∃ w'', Publishing w' w'' ∧
          outcome repositorySnapshot (calls i) (w''.clients i) = some (.ok receipt) :=
  ⟨fun hstore hkeys _ hreceipt => published_of_receipt hstore hkeys h hreceipt,
    fun _ _ _ hsnapshot hreceipt hcalled hreferenced hrun hconflict =>
      retry_succeeds hsnapshot hreceipt hcalled hreferenced hrun hconflict⟩

/-! ## A forged receipt, and a call that cannot be repeated -/

/-- A call with one object that it refers to. -/
def sampleCall (referencedObjects : List (Text × Bytes)) : Publication :=
  ⟨text "snapshot", text "subject", [0x61], text "manifest", [0x62], (sampleId 1).val,
    referencedObjects⟩

/-- A receipt without its identity, of a manifest that nobody has written. -/
def unsignedForgery : PublicationReceipt :=
  ⟨[], (sampleId 1).val, bytesId [0x63], text "snapshot"⟩

def forgedReceipt : PublicationReceipt :=
  { unsignedForgery with
    receiptId := bytesId (canonicalManifestText unsignedForgery.toDict).utf8 }

/-- A call whose subject is the receipt. -/
def forgingCall : Publication :=
  { sampleCall [] with
    subjectKey := receiptKey forgedReceipt
    subjectBytes := (canonicalManifestText forgedReceipt.toDict).utf8 }

theorem encodable_toDict (receipt : PublicationReceipt) (hid : isEncodable receipt.receiptId)
    (hrevision : isEncodable receipt.manifestRevisionId)
    (hdigest : isEncodable receipt.manifestSerializedSha256)
    (hsnapshot : isEncodable receipt.repositorySnapshotId) : Encodable receipt.toDict := by
  refine encodable_record.mpr fun field hfield => ?_
  simp only [PublicationReceipt.fields, List.mem_cons, List.not_mem_nil, or_false] at hfield
  rcases hfield with rfl | rfl | rfl | rfl | rfl
  · exact ⟨isEncodable_text _, hid⟩
  · exact ⟨isEncodable_text _, hrevision⟩
  · exact ⟨isEncodable_text _, hdigest⟩
  · exact ⟨isEncodable_text _, hsnapshot⟩
  · exact ⟨isEncodable_text _, isEncodable_text _⟩

theorem encodable_forgery {receiptId : Text} (hid : isEncodable receiptId) :
    Encodable { unsignedForgery with receiptId := receiptId }.toDict :=
  have hrevision : isEncodable unsignedForgery.manifestRevisionId := by decide +kernel
  encodable_toDict _ hid hrevision (isEncodable_bytesId _) (isEncodable_text _)

/-- A receipt that identifies itself is present, and the only call has another manifest. -/
theorem forged_receipt_present :
    ∃ w, Publishing (startCalls (text "snapshot") (fun _ : Unit => forgingCall) fun _ => none) w ∧
      publicationReceiptIdentity { forgedReceipt with receiptId := [] } =
        some forgedReceipt.receiptId ∧
      ReceiptPresent w.store forgedReceipt ∧
      bytesId forgingCall.manifestBytes ≠ forgedReceipt.manifestSerializedSha256 := by
  obtain ⟨todo, hops⟩ : ∃ todo, forgingCall.operations (text "snapshot") =
      .create forgingCall.subjectKey forgingCall.subjectBytes :: todo :=
    ⟨_, if_neg (not_not.mpr rfl)⟩
  refine ⟨⟨WriteOnce.create (fun _ => none) forgingCall.subjectKey forgingCall.subjectBytes, _⟩,
    .single ⟨(), _, .running [.create forgingCall.subjectKey forgingCall.subjectBytes] todo, ?_,
      rfl⟩, ?_, ⟨_, if_pos ?_, ?_⟩, ?_⟩
  · change WriteOnce.Move (_, .running [] (forgingCall.operations (text "snapshot"))) _
    rw [hops]
    exact .created rfl
  · have hencodable : Encodable unsignedForgery.toDict :=
      encodable_forgery (show isEncodable [] from rfl)
    change (canonicalManifestBytes unsignedForgery.toDict).map bytesId = _
    rw [canonicalManifestBytes, if_pos hencodable]
    rfl
  · exact encodable_forgery (isEncodable_bytesId _)
  · have hkey : receiptKey forgedReceipt = forgingCall.subjectKey := by rw [forgingCall]
    have hbytes : (canonicalManifestText forgedReceipt.toDict).utf8 = forgingCall.subjectBytes := by
      rw [forgingCall]
    rw [hkey, hbytes]
    dsimp only
    exact WriteOnce.create_self rfl
  · decide +kernel

/-- A call whose objects have different keys, and a store with nothing but these objects. -/
theorem noConflict_of_nodup {call : Publication} {s : Store Text Bytes}
    (hnodup : (call.allObjects.map Prod.fst).Nodup)
    (hs : ∀ key content, s key = some content → (key, content) ∈ call.allObjects) :
    call.NoConflict s := by
  refine fun object hobject => ⟨fun content hcontent => ?_, fun object' hobject' hkey => ?_⟩
  · have heq := List.inj_on_of_nodup_map hnodup (hs _ _ hcontent) hobject rfl
    rw [← heq]
  · rw [List.inj_on_of_nodup_map hnodup hobject hobject' hkey]

/-- The key of the receipt is none of the other keys. -/
theorem nodup_allObjects {call : Publication} (hnodup : (call.objects.map Prod.fst).Nodup)
    (hkeys : ∀ key ∈ call.objects.map Prod.fst, ¬IsReceiptKey key) :
    (call.allObjects.map Prod.fst).Nodup := by
  rw [Publication.allObjects, List.map_append, List.nodup_append]
  refine ⟨hnodup, ?_, fun key hkey key' hkey' heq => ?_⟩
  · cases call.receiptObject with
    | none => exact List.nodup_nil
    | some object => exact List.nodup_singleton _
  · obtain ⟨object, hobject, rfl⟩ := List.mem_map.mp hkey'
    obtain ⟨receipt, -, hreceipt, -⟩ :=
      Publication.receiptObject_eq_some (Option.mem_toList.mp hobject)
    exact hkeys key hkey (heq ▸ hreceipt ▸ isReceiptKey_receiptKey receipt)

/-- A call whose reference nobody has written. -/
def danglingCall : Publication := sampleCall [(text "reference", [0x64])]

/-- What is stored when the repeated call fails. -/
def crashedStore : Store Text Bytes := WriteOnce.create (fun _ => none) (text "subject") [0x61]

def repeatedStore : Store Text Bytes := WriteOnce.create crashedStore (text "manifest") [0x62]

theorem noConflict_danglingCall : danglingCall.NoConflict repeatedStore := by
  refine noConflict_of_nodup (nodup_allObjects (by decide +kernel) (by decide +kernel))
    fun key content hcontent => ?_
  apply List.mem_append_left
  rcases WriteOnce.create_cases hcontent with hcontent | ⟨rfl, rfl⟩
  · rcases WriteOnce.create_cases hcontent with hcontent | ⟨rfl, rfl⟩
    · cases hcontent
    · exact List.mem_cons_self
  · exact List.mem_cons_of_mem _ List.mem_cons_self

/-- The moves of the repeated call. -/
theorem moves_danglingCall : ∃ done, Relation.ReflTransGen WriteOnce.Move
    (crashedStore, .running [] (danglingCall.operations (text "snapshot")))
    (repeatedStore, .failed done (.verify (text "reference") [0x64])) := by
  obtain ⟨todo, hops⟩ : ∃ todo, danglingCall.operations (text "snapshot") =
      danglingCall.preparation ++ todo := ⟨_, if_neg (not_not.mpr rfl)⟩
  have hsubject : crashedStore (text "subject") = some [0x61] := WriteOnce.create_self rfl
  have hmanifest : crashedStore (text "manifest") = none := WriteOnce.create_of_ne (by decide)
  have hsubject' : repeatedStore (text "subject") = some [0x61] :=
    WriteOnce.extends_create _ _ _ _ _ hsubject
  have hmanifest' : repeatedStore (text "manifest") = some [0x62] :=
    WriteOnce.create_self hmanifest
  have hreference : repeatedStore (text "reference") = none :=
    (WriteOnce.create_of_ne (by decide)).trans (WriteOnce.create_of_ne (by decide))
  rw [hops]
  exact ⟨_, .head (.existed hsubject) <| .head (.verified hsubject) <|
    .head (.created hmanifest) <| .head (.verified hmanifest') <| .head (.verified hsubject') <|
    .head (.verified hmanifest') <|
    .single (.mismatched (hreference.trans_ne (Option.some_ne_none _).symm))⟩

/-- A call has stopped after its first operation. It is repeated, nothing conflicts with it, and it
fails. -/
theorem retry_fails :
    ∃ w w' todo, Publishing (startCalls (text "snapshot") (fun _ : Bool => danglingCall)
        fun _ => none) w ∧
      w.clients true = .running [.create (text "subject") [0x61]] todo ∧ Publishing w w' ∧
      danglingCall.NoConflict w'.store ∧
      outcome (text "snapshot") danglingCall (w'.clients false) =
        some (.error .readbackFailed) := by
  obtain ⟨todo, hops⟩ : ∃ todo, danglingCall.operations (text "snapshot") =
      .create (text "subject") [0x61] :: todo := ⟨_, if_neg (not_not.mpr rfl)⟩
  obtain ⟨done, hmoves⟩ := moves_danglingCall
  refine ⟨⟨crashedStore, _⟩, _, todo, .single ⟨true, _, .running [_] todo, ?_, rfl⟩, rfl,
    WriteOnce.run_of_moves (i := false) hmoves, noConflict_danglingCall, rfl⟩
  change WriteOnce.Move (_, .running [] (danglingCall.operations (text "snapshot"))) _
  rw [hops]
  exact .created rfl

/-- The receipt of a call without surrogates is the last object that it writes. -/
theorem exists_receipt (call : Publication) (hrevision : isEncodable call.manifestRevisionId)
    (hsnapshot : isEncodable call.snapshotId) :
    ∃ receipt content, call.receipt = some receipt ∧
      canonicalManifestBytes receipt.toDict = some content ∧
      call.receiptObject = some (receiptKey receipt, content) := by
  obtain ⟨receiptId, hidentity, hid⟩ : ∃ receiptId,
      publicationReceiptIdentity call.unsignedReceipt = some receiptId ∧ isEncodable receiptId :=
    ⟨_, congrArg (Option.map bytesId) (if_pos (encodable_toDict call.unsignedReceipt rfl hrevision
      (isEncodable_bytesId _) hsnapshot)), isEncodable_bytesId _⟩
  have hreceipt : call.receipt = some { call.unsignedReceipt with receiptId := receiptId } := by
    rw [Publication.receipt, hidentity, Option.map_some]
  obtain ⟨content, hcontent⟩ := exists_canonicalManifestBytes (encodable_toDict
    { call.unsignedReceipt with receiptId := receiptId } hid hrevision (isEncodable_bytesId _)
    hsnapshot)
  refine ⟨_, content, hreceipt, hcontent, ?_⟩
  rw [Publication.receiptObject, hreceipt, Option.bind_eq_bind, Option.bind_some, hcontent,
    Option.bind_eq_bind, Option.bind_some]

/-- A call that has returned its receipt has written it. -/
theorem receiptPresent_of_outcome {repositorySnapshot : Text} {call : Publication}
    {s : Store Text Bytes} {p : WriteOnce.Progress Text Bytes} {receipt : PublicationReceipt}
    {content : Bytes} (hknows : WriteOnce.Knows (call.operations repositorySnapshot) s p)
    (houtcome : outcome repositorySnapshot call p = some (.ok receipt))
    (hcontent : canonicalManifestBytes receipt.toDict = some content)
    (hobject : call.receiptObject = some (receiptKey receipt, content)) :
    ReceiptPresent s receipt := by
  match p, hknows, houtcome with
  | .running done [], hknows, houtcome =>
    rw [outcome] at houtcome
    split_ifs at houtcome with hsnapshot
    · cases houtcome
    · have hdone := hknows.remains done [] rfl
      rw [List.append_nil] at hdone
      refine ⟨content, hcontent, hknows.stored _ _ ?_⟩
      rw [WriteOnce.Progress.done, ← hdone, Publication.operations, if_neg hsnapshot, hobject]
      exact List.mem_append_right _ (List.mem_cons_of_mem _ (List.mem_singleton_self _))
  | .failed _ (.create _ _), _, houtcome => cases houtcome
  | .failed _ (.verify _ _), _, houtcome => cases houtcome

/-- A call without references publishes everything, from an empty repository. -/
theorem sampleCall_published :
    ∃ w receipt, Publishing (startCalls (text "snapshot") (fun _ : Unit => sampleCall [])
        fun _ => none) w ∧ ReceiptPresent w.store receipt ∧ Published w.store (sampleCall []) := by
  have hempty (receipt : PublicationReceipt) : ¬ReceiptPresent (fun _ => none) receipt := by
    rintro ⟨content, -, hcontent⟩
    cases hcontent
  have hconflict : (sampleCall []).NoConflict fun _ => none :=
    noConflict_of_nodup (nodup_allObjects (by decide +kernel) (by decide +kernel))
      fun _ _ hcontent => nomatch hcontent
  obtain ⟨receipt, content, hreceipt, hcontent, hobject⟩ :=
    exists_receipt (sampleCall []) (by decide +kernel) (isEncodable_text _)
  have hstart : Publishing (startCalls (text "snapshot") (fun _ : Unit => sampleCall [])
      fun _ => none) (startCalls (text "snapshot") (fun _ : Unit => sampleCall [])
      fun _ => none) := .refl
  obtain ⟨-, w, hrun, hend⟩ := (publish_manifestLast hstart).2 () receipt _ rfl hreceipt rfl
    (fun _ hobject => (nomatch hobject)) .refl hconflict
  have hpresent : ReceiptPresent w.store receipt :=
    receiptPresent_of_outcome (WriteOnce.knows hrun ()) hend hcontent hobject
  have hkeys : ¬IsReceiptKey (sampleCall []).subjectKey ∧
      ¬IsReceiptKey (sampleCall []).manifestKey := by
    decide +kernel
  obtain ⟨i, -, hpublished⟩ :=
    (publish_manifestLast hrun).1 hempty (fun _ => hkeys) receipt hpresent
  exact ⟨w, receipt, hrun, hpresent, hpublished⟩

/-- The protocol does not hold for every call: a receipt can be forged, and a call whose reference
is missing cannot be repeated. -/
theorem publication_limits :
    (∃ w, Publishing (startCalls (text "snapshot") (fun _ : Unit => forgingCall) fun _ => none) w ∧
      publicationReceiptIdentity { forgedReceipt with receiptId := [] } =
        some forgedReceipt.receiptId ∧
      ReceiptPresent w.store forgedReceipt ∧
      bytesId forgingCall.manifestBytes ≠ forgedReceipt.manifestSerializedSha256) ∧
    ∃ w w' todo, Publishing (startCalls (text "snapshot") (fun _ : Bool => danglingCall)
        fun _ => none) w ∧
      w.clients true = .running [.create (text "subject") [0x61]] todo ∧ Publishing w w' ∧
      danglingCall.NoConflict w'.store ∧
      outcome (text "snapshot") danglingCall (w'.clients false) =
        some (.error .readbackFailed) :=
  ⟨forged_receipt_present, retry_fails⟩

end TruthFingerprint.Evidence
