import Mathlib
import TruthFingerprint.Lib.Sha256
import TruthFingerprint.Lib.WriteOnce

/-!
# The formal evidence store

Objects are created under a key made of the prefix of their access class, their role and the digest
of their content, with one conditional put that the content is read back after. The put may store
the object although its response is lost, and any call of the backend may fail. Whatever happens, a
result that is returned tells the truth: the key holds the content (`create_writeOnce`).
-/

namespace TruthFingerprint.Persistence

open WriteOnce (Store World Run Extends)

inductive AccessClass where
  | detectorFacing
  | evaluatorRestricted
  | publicReference
deriving DecidableEq

def AccessClass.value : AccessClass → Text
  | .detectorFacing => text "detector_facing"
  | .evaluatorRestricted => text "evaluator_restricted"
  | .publicReference => text "public_reference"

inductive RolePrefixPolicy where
  | detectorFacing
  | evaluatorRestricted
  | publicReference
deriving DecidableEq

/-- `_PREFIXES` -/
def prefixes : List (Text × RolePrefixPolicy × Text) :=
  [(AccessClass.detectorFacing.value, .detectorFacing, text "detector-facing"),
    (AccessClass.evaluatorRestricted.value, .evaluatorRestricted, text "evaluator-restricted"),
    (AccessClass.publicReference.value, .publicReference, text "public-reference")]

/-- `_OBJECT_ROLES` -/
def objectRoles : List Text :=
  [text "artifact", text "manifest", text "receipt", text "snapshot"]

/-- The arguments of `create` -/
structure CreateCall where
  accessClass : Text
  objectRole : Text
  content : Bytes

/-- What a key is for: the prefix of the access class and the role, where they are known. -/
def CreateCall.namespaceOf (call : CreateCall) : Option (RolePrefixPolicy × Text) :=
  if call.objectRole ∈ objectRoles then prefixes.lookup call.accessClass else none

def CreateCall.accessPrefix (call : CreateCall) : Option Text := call.namespaceOf.map Prod.snd

def digestName (content : Bytes) : Text := text "sha256:" ++ Sha256.hexDigest content

/-- The key in a namespace -/
def keyIn (accessPrefix objectRole : Text) (content : Bytes) : Text :=
  text "formal/v1/" ++ (accessPrefix ++ text "/" ++ objectRole ++ text "/sha256-") ++
    Sha256.hexDigest content

/-- `key_for`, which raises for an unknown access class or role -/
def CreateCall.keyFor (call : CreateCall) : Option Text :=
  call.namespaceOf.map fun space => keyIn space.2 call.objectRole call.content

structure FormalWriteResult where
  created : Bool
  immutableKey : Text
  contentSha256 : Text
  byteSize : Nat
  backendVersionId : Option Text
  backendEtag : Option Text
  rolePrefixPolicy : RolePrefixPolicy
deriving DecidableEq

inductive StoreError where
  | namespaceInvalid
  | conflict (message : String)
  | unavailable (message : String)
deriving DecidableEq

/-! ## The backend -/

structure StoredObject where
  content : Bytes
  versionId : Option Text
  etag : Option Text

/-- The text of an exception, and the code of its response where it has one. -/
structure BackendError where
  message : Text
  code : Option Text

/-- `casefold`, as far as the words that are searched for can tell -/
def foldCase (t : Text) : Text :=
  t.map fun c =>
    if 'A'.codePoint ≤ c && c ≤ 'Z'.codePoint then Fin.ofNat _ (c.val + 0x20) else c

/-- `_is_precondition_failure` -/
def BackendError.isPreconditionFailure (error : BackendError) : Bool :=
  text "precondition" <:+: foldCase error.message ||
    foldCase (error.code.getD []) ∈ [text "preconditionfailed", text "412"]

inductive PutReply where
  | response (versionId etag : Option Text)
  | failure (error : BackendError)

/-- `put_object` with `IfNoneMatch='*'`. It stores where there is nothing, and may fail in any
state; where it has stored, its response may still be lost. -/
inductive Put (key : Text) (content : Bytes) (s : Store Text StoredObject) :
    PutReply → Store Text StoredObject → Prop
  | stored (versionId etag : Option Text) (h : s key = none) :
      Put key content s (.response versionId etag)
        (WriteOnce.create s key ⟨content, versionId, etag⟩)
  | lost (versionId etag : Option Text) (error : BackendError) (h : s key = none) :
      Put key content s (.failure error) (WriteOnce.create s key ⟨content, versionId, etag⟩)
  | failed (error : BackendError) : Put key content s (.failure error) s

inductive GetReply where
  | object (object : StoredObject)
  | failure (error : BackendError)

/-- `get_object`, of a version where one is given -/
inductive Get (key : Text) (versionId : Option Text) (s : Store Text StoredObject) :
    GetReply → Prop
  | found (object : StoredObject) (h : s key = some object)
      (hversion : ∀ version ∈ versionId, object.versionId = some version) :
      Get key versionId s (.object object)
  | failed (error : BackendError) : Get key versionId s (.failure error)

/-! ## `create` -/

/-- Where a call stands between two calls of the backend. The response is that of the put, where it
answered. -/
inductive Progress where
  | called
  | readingBack (response : Option (Option Text × Option Text))
  | returned (result : FormalWriteResult)
  | raised (error : StoreError)

/-- What follows the put -/
def afterPut : PutReply → Progress
  | .response versionId etag => .readingBack (some (versionId, etag))
  | .failure error =>
    if error.isPreconditionFailure then .readingBack none
    else .raised (.unavailable "STORAGE-CONDITIONAL-CREATE-UNAVAILABLE")

/-- `_readback` after the put answered, and `_existing_or_conflict` after it failed -/
def afterGet (call : CreateCall) (key : Text) (policy : RolePrefixPolicy)
    (response : Option (Option Text × Option Text)) : GetReply → Progress
  | .failure _ =>
    .raised (.unavailable (if response.isSome then "STORAGE-READBACK-UNAVAILABLE"
      else "STORAGE-CONFLICT-AMBIGUOUS"))
  | .object object =>
    if object.content ≠ call.content ∨ digestName object.content ≠ digestName call.content then
      .raised (.conflict "STORAGE-CONFLICT-CONTENT-MISMATCH")
    else
      let metadata := response.getD (object.versionId, object.etag)
      .returned ⟨response.isSome, key, digestName call.content, object.content.length, metadata.1,
        metadata.2, policy⟩

/-- The version that is read back: an empty one is none. -/
def readVersion (response : Option (Option Text × Option Text)) : Option Text :=
  (response.bind Prod.fst).filter (· ≠ [])

/-- One call of the backend, and what `create` does with the reply. -/
inductive Move (call : CreateCall) :
    Store Text StoredObject × Progress → Store Text StoredObject × Progress → Prop
  | invalid {s} (h : call.namespaceOf = none) :
      Move call (s, .called) (s, .raised .namespaceInvalid)
  | put {s s' space reply} (h : call.namespaceOf = some space)
      (hput : Put (keyIn space.2 call.objectRole call.content) call.content s reply s') :
      Move call (s, .called) (s', afterPut reply)
  | get {s space response reply} (h : call.namespaceOf = some space)
      (hget : Get (keyIn space.2 call.objectRole call.content) (readVersion response) s reply) :
      Move call (s, .readingBack response)
        (s, afterGet call (keyIn space.2 call.objectRole call.content) space.1 response reply)

variable {ι : Type} [DecidableEq ι]

abbrev Calls (ι : Type) := World Text StoredObject ι Progress

abbrev Creates (calls : ι → CreateCall) : Calls ι → Calls ι → Prop := Run fun i => Move (calls i)

/-- Calls that have not asked the backend yet. -/
def Calls.start (store : Store Text StoredObject) : Calls ι := ⟨store, fun _ => .called⟩

/-! ## What a call knows -/

/-- The key holds the content. -/
def Holds (s : Store Text StoredObject) (key : Text) (content : Bytes) : Prop :=
  ∃ object, s key = some object ∧ object.content = content

theorem Holds.extend {s s' : Store Text StoredObject} {key : Text} {content : Bytes}
    (h : Holds s key content) (hs : Extends s s') : Holds s' key content := by
  obtain ⟨object, hobject, hcontent⟩ := h
  exact ⟨object, hs key object hobject, hcontent⟩

theorem Holds.unique {s : Store Text StoredObject} {key : Text} {content content' : Bytes}
    (h : Holds s key content) (h' : Holds s key content') : content = content' := by
  obtain ⟨object, hobject, rfl⟩ := h
  obtain ⟨object', hobject', rfl⟩ := h'
  rw [Option.some.inj (hobject.symm.trans hobject')]

/-- The put of a call has answered, or the call has returned that it created the object. -/
def Progress.Creating : Progress → Prop
  | .readingBack response => response.isSome
  | .returned result => result.created
  | .called | .raised _ => False

/-- Where the put has answered or the call has returned, the key holds the content. -/
def Truthful (call : CreateCall) (s : Store Text StoredObject) (p : Progress) : Prop :=
  (∀ response, p = .readingBack (some response) →
    ∃ key, call.keyFor = some key ∧ Holds s key call.content) ∧
  ∀ result, p = .returned result →
    call.keyFor = some result.immutableKey ∧ Holds s result.immutableKey call.content

theorem truthful_called (call : CreateCall) (s : Store Text StoredObject) :
    Truthful call s .called :=
  ⟨fun _ heq => (nomatch heq), fun _ heq => (nomatch heq)⟩

theorem keyFor_of_namespaceOf {call : CreateCall} {space : RolePrefixPolicy × Text}
    (h : call.namespaceOf = some space) :
    call.keyFor = some (keyIn space.2 call.objectRole call.content) := by
  rw [CreateCall.keyFor, h, Option.map_some]

theorem extends_of_put {key : Text} {content : Bytes} {s s' : Store Text StoredObject}
    {reply : PutReply} (h : Put key content s reply s') : Extends s s' := by
  cases h with
  | stored | lost => exact WriteOnce.extends_create _ _ _
  | failed => exact Extends.refl _

theorem extends_of_move {call : CreateCall} {c c' : Store Text StoredObject × Progress}
    (h : Move call c c') : Extends c.1 c'.1 := by
  cases h with
  | invalid | get => exact Extends.refl _
  | put _ hput => exact extends_of_put hput

theorem Truthful.extend {call : CreateCall} {s s' : Store Text StoredObject} {p : Progress}
    (h : Truthful call s p) (hs : Extends s s') : Truthful call s' p := by
  refine ⟨fun response heq => ?_, fun result heq => ?_⟩
  · obtain ⟨key, hkey, hholds⟩ := h.1 response heq
    exact ⟨key, hkey, hholds.extend hs⟩
  · obtain ⟨hkey, hholds⟩ := h.2 result heq
    exact ⟨hkey, hholds.extend hs⟩

/-- A put that answers has stored the content. -/
theorem holds_of_put {key : Text} {content : Bytes} {s s' : Store Text StoredObject}
    {reply : PutReply} {response : Option Text × Option Text} (h : Put key content s reply s')
    (hreply : afterPut reply = .readingBack (some response)) :
    s key = none ∧ Holds s' key content := by
  cases h with
  | stored versionId etag hnone => exact ⟨hnone, _, WriteOnce.create_self hnone, rfl⟩
  | lost | failed =>
    rw [afterPut] at hreply
    split at hreply <;> cases hreply

theorem not_returned_of_put {reply : PutReply} {result : FormalWriteResult} :
    afterPut reply ≠ .returned result := by
  intro h
  cases reply with
  | response versionId etag => cases h
  | failure error =>
    rw [afterPut] at h
    split at h <;> cases h

theorem not_readingBack_of_get {call : CreateCall} {key : Text} {policy : RolePrefixPolicy}
    {response response' : Option (Option Text × Option Text)} {reply : GetReply} :
    afterGet call key policy response reply ≠ .readingBack response' := by
  intro h
  cases reply with
  | object object =>
    rw [afterGet] at h
    split_ifs at h
  | failure error => cases h

/-- A call that returns has read its content back. -/
theorem result_of_get {call : CreateCall} {key : Text} {policy : RolePrefixPolicy}
    {response : Option (Option Text × Option Text)} {version : Option Text}
    {s : Store Text StoredObject} {reply : GetReply} {result : FormalWriteResult}
    (h : Get key version s reply) (hreply : afterGet call key policy response reply = .returned result) :
    result.immutableKey = key ∧ result.created = response.isSome ∧ Holds s key call.content := by
  cases h with
  | found object hobject hversion =>
    rw [afterGet] at hreply
    split_ifs at hreply with hcontent
    rw [not_or, not_not] at hcontent
    obtain rfl := Progress.returned.inj hreply
    exact ⟨rfl, rfl, object, hobject, hcontent.1⟩
  | failed error => cases hreply

theorem truthful_of_move {call : CreateCall} {c c' : Store Text StoredObject × Progress}
    (h : Move call c c') : Truthful call c'.1 c'.2 := by
  cases h with
  | invalid => exact ⟨fun _ heq => (nomatch heq), fun _ heq => (nomatch heq)⟩
  | put hspace hput =>
    refine ⟨fun response heq => ?_, fun result heq => absurd heq not_returned_of_put⟩
    exact ⟨_, keyFor_of_namespaceOf hspace, (holds_of_put hput heq).2⟩
  | get hspace hget =>
    refine ⟨fun response heq => ?_, fun result heq => ?_⟩
    · exact absurd heq not_readingBack_of_get
    · obtain ⟨hkey, -, hholds⟩ := result_of_get hget heq
      rw [hkey]
      exact ⟨keyFor_of_namespaceOf hspace, hholds⟩

/-- A call that is creating was creating before, or has found nothing under its key. -/
theorem creating_of_move {call : CreateCall} {c c' : Store Text StoredObject × Progress}
    (h : Move call c c') (hcreating : c'.2.Creating) :
    c.2.Creating ∨ ∃ key, call.keyFor = some key ∧ c.1 key = none := by
  cases h with
  | invalid => cases hcreating
  | @put s s' space reply hspace hput =>
    generalize hp : afterPut reply = p at hcreating
    cases p with
    | called | raised => cases hcreating
    | returned => exact absurd hp not_returned_of_put
    | readingBack response =>
      obtain ⟨response, rfl⟩ := Option.isSome_iff_exists.mp hcreating
      exact .inr ⟨_, keyFor_of_namespaceOf hspace, (holds_of_put hput hp).1⟩
  | @get s space response reply hspace hget =>
    generalize hp : afterGet call (keyIn space.2 call.objectRole call.content) space.1 response
      reply = p at hcreating
    cases p with
    | called | raised => cases hcreating
    | readingBack => exact absurd hp not_readingBack_of_get
    | returned =>
      obtain ⟨-, hcreated, -⟩ := result_of_get hget hp
      exact .inl (hcreated.symm.trans hcreating)

theorem Truthful.holds_of_creating {call : CreateCall} {s : Store Text StoredObject}
    {p : Progress} (h : Truthful call s p) (hcreating : p.Creating) {key : Text}
    (hkey : call.keyFor = some key) : Holds s key call.content := by
  cases p with
  | called | raised => cases hcreating
  | readingBack response =>
    obtain ⟨response, rfl⟩ := Option.isSome_iff_exists.mp hcreating
    obtain ⟨key', hkey', hholds⟩ := h.1 response rfl
    rwa [Option.some.inj (hkey.symm.trans hkey')]
  | returned result =>
    obtain ⟨hkey', hholds⟩ := h.2 result rfl
    rwa [Option.some.inj (hkey.symm.trans hkey')]

/-! ## Runs -/

section Runs

variable {calls : ι → CreateCall} {w w' : Calls ι}

theorem truthful_of_run {store : Store Text StoredObject} (h : Creates calls (.start store) w)
    (i : ι) : Truthful (calls i) w.store (w.clients i) := by
  refine WriteOnce.client_invariant (Truthful (calls i)) ?_ ?_ ?_ ?_ h
  · exact fun _ _ _ => extends_of_move
  · exact fun _ _ _ hs htruthful => htruthful.extend hs
  · exact fun _ _ hmove _ => truthful_of_move hmove
  · exact truthful_called (calls i) store

/-- No two calls are creating one key. -/
def OneCreator (calls : ι → CreateCall) (w : Calls ι) : Prop :=
  ∀ i j key, (w.clients i).Creating → (w.clients j).Creating → (calls i).keyFor = some key →
    (calls j).keyFor = some key → i = j

theorem oneCreator_of_run {store : Store Text StoredObject}
    (h : Creates calls (.start store) w) : OneCreator calls w := by
  induction h with
  | refl => exact fun i j key hi => hi.elim
  | @tail w₁ _ hrun hstep ih =>
    obtain ⟨m, s', p, hmove, rfl⟩ := hstep
    have htruthful := truthful_of_run hrun
    -- A creating call other than the one that moves keeps it from creating the same key.
    have hother {j : ι} {key : Text} (hj : j ≠ m) (hcreating : (w₁.clients j).Creating)
        (hp : p.Creating) (hkey : (calls j).keyFor = some key)
        (hkeym : (calls m).keyFor = some key) : j = m := by
      rcases creating_of_move hmove hp with hm | ⟨key', hkey', hnone⟩
      · exact ih j m key hcreating hm hkey hkeym
      · obtain rfl := Option.some.inj (hkeym.symm.trans hkey')
        obtain ⟨object, hobject, -⟩ := (htruthful j).holds_of_creating hcreating hkey
        exact absurd (hnone.symm.trans hobject) (Option.some_ne_none _).symm
    intro i j key hi hj hkeyi hkeyj
    change (Function.update w₁.clients m p i).Creating at hi
    change (Function.update w₁.clients m p j).Creating at hj
    by_cases him : i = m
    · subst him
      by_cases hjm : j = i
      · exact hjm.symm
      · rw [Function.update_of_ne hjm] at hj
        rw [Function.update_self] at hi
        exact (hother hjm hj hi hkeyj hkeyi).symm
    · rw [Function.update_of_ne him] at hi
      by_cases hjm : j = m
      · subst hjm
        rw [Function.update_self] at hj
        exact hother him hi hj hkeyi hkeyj
      · rw [Function.update_of_ne hjm] at hj
        exact ih i j key hi hj hkeyi hkeyj

end Runs

/-! ## Keys -/

/-- The namespaces that the known access classes and roles have. -/
def namespaces : List (Text × Text) :=
  (prefixes.map (·.2.2)).product objectRoles

theorem mem_namespaces {call : CreateCall} {space : RolePrefixPolicy × Text}
    (h : call.namespaceOf = some space) : (space.2, call.objectRole) ∈ namespaces := by
  rw [CreateCall.namespaceOf] at h
  split_ifs at h with hrole
  obtain ⟨before, after, hprefixes, -⟩ := List.lookup_eq_some_iff.mp h
  refine List.mem_product.mpr ⟨?_, hrole⟩
  rw [hprefixes]
  simp

/-- The keys of two calls are equal only in one namespace. -/
theorem space_of_keyIn_eq {space space' : Text × Text} {content content' : Bytes}
    (hspace : space ∈ namespaces) (hspace' : space' ∈ namespaces)
    (h : keyIn space.1 space.2 content = keyIn space'.1 space'.2 content') : space = space' := by
  have hlength : (Sha256.hexDigest content).length = (Sha256.hexDigest content').length := by
    rw [Sha256.length_hexDigest, Sha256.length_hexDigest]
  have hmiddle := List.append_cancel_left (List.append_inj' h hlength).1
  have hall : ∀ x ∈ namespaces, ∀ y ∈ namespaces,
      x.1 ++ text "/" ++ x.2 ++ text "/sha256-" = y.1 ++ text "/" ++ y.2 ++ text "/sha256-" →
        x = y := by
    decide +kernel
  exact hall space hspace space' hspace' hmiddle

/-- Whatever the calls of a run return is true and stays true: the key of a result holds the
content, no two calls have created one key, and calls with one key agree on the prefix of the
access class, the role and the content. -/
theorem create_writeOnce {calls : ι → CreateCall} {store : Store Text StoredObject} {w : Calls ι}
    (h : Creates calls (.start store) w) :
    (∀ i result, w.clients i = .returned result → ∀ w', Creates calls w w' →
      Holds w'.store result.immutableKey (calls i).content) ∧
    (∀ i j result result', w.clients i = .returned result → w.clients j = .returned result' →
      result.created → result'.created → result.immutableKey = result'.immutableKey → i = j) ∧
    ∀ i j result result', w.clients i = .returned result → w.clients j = .returned result' →
      result.immutableKey = result'.immutableKey →
        (calls i).accessPrefix = (calls j).accessPrefix ∧
          (calls i).objectRole = (calls j).objectRole ∧ (calls i).content = (calls j).content := by
  refine ⟨fun i result hi w' hrun => ?_, fun i j result result' hi hj hcreated hcreated' hkey => ?_,
    fun i j result result' hi hj hkey => ?_⟩
  · exact ((truthful_of_run h i).2 result hi).2.extend
      (WriteOnce.store_extends (fun _ _ _ => extends_of_move) hrun)
  · have hcreatingi : (w.clients i).Creating := hi ▸ hcreated
    have hcreatingj : (w.clients j).Creating := hj ▸ hcreated'
    exact oneCreator_of_run h i j _ hcreatingi hcreatingj ((truthful_of_run h i).2 result hi).1
      (hkey ▸ ((truthful_of_run h j).2 result' hj).1)
  · obtain ⟨hkeyi, hholdsi⟩ := (truthful_of_run h i).2 result hi
    obtain ⟨hkeyj, hholdsj⟩ := (truthful_of_run h j).2 result' hj
    rw [← hkey] at hkeyj hholdsj
    obtain ⟨spacei, hspacei, hkeyIni⟩ := Option.map_eq_some_iff.mp hkeyi
    obtain ⟨spacej, hspacej, hkeyInj⟩ := Option.map_eq_some_iff.mp hkeyj
    have hspace := space_of_keyIn_eq (mem_namespaces hspacei) (mem_namespaces hspacej)
      (hkeyIni.trans hkeyInj.symm)
    obtain ⟨hstart, hrole⟩ := Prod.mk.inj hspace
    refine ⟨?_, hrole, hholdsi.unique hholdsj⟩
    rw [CreateCall.accessPrefix, CreateCall.accessPrefix, hspacei, hspacej, Option.map_some,
      Option.map_some, hstart]

/-! ## Two calls for one object -/

def sampleCall : CreateCall := ⟨AccessClass.publicReference.value, text "artifact", [0x61]⟩

def sampleKey : Text := keyIn (text "public-reference") (text "artifact") [0x61]

/-- What the two calls return: the first has created the object, the second has found it. -/
def sampleResult (created : Bool) : FormalWriteResult :=
  ⟨created, sampleKey, digestName [0x61], 1, none, none, .publicReference⟩

def sampleStore : Store Text StoredObject :=
  WriteOnce.create (fun _ => none) sampleKey ⟨[0x61], none, none⟩

/-- Both calls have put the object; the second was told that it exists. -/
def sampleRaced : Calls Bool :=
  ⟨sampleStore,
    Function.update (Function.update (fun _ => .called) true (.readingBack (some (none, none))))
      false (.readingBack none)⟩

def sampleEnd : Calls Bool :=
  ⟨sampleStore, Function.update (Function.update sampleRaced.clients false
    (.returned (sampleResult false))) true (.returned (sampleResult true))⟩

theorem sampleRun : Creates (fun _ => sampleCall) (.start fun _ => none) sampleEnd := by
  have hspace : sampleCall.namespaceOf = some (.publicReference, text "public-reference") := by
    decide +kernel
  have hstored : sampleStore sampleKey = some ⟨[0x61], none, none⟩ := WriteOnce.create_self rfl
  have hput : Creates (fun _ => sampleCall) (.start fun _ => none) sampleRaced := by
    refine .tail (.single ⟨true, _, _, .put hspace (.stored none none rfl), rfl⟩) ?_
    have hprecondition : afterPut (.failure ⟨text "PreconditionFailed", none⟩) =
        .readingBack none := by
      rw [afterPut, if_pos (by decide +kernel)]
    refine ⟨false, _, _, .put hspace (.failed ⟨text "PreconditionFailed", none⟩), ?_⟩
    rw [hprecondition]
    rfl
  have hget (response : Option (Option Text × Option Text))
      (hversion : readVersion response = none) : Get sampleKey (readVersion response)
        sampleStore (.object ⟨[0x61], none, none⟩) :=
    .found _ hstored fun version hmem => by rw [hversion] at hmem; cases hmem
  refine .tail (.tail hput ⟨false, _, _, .get hspace (hget none rfl), rfl⟩) ?_
  exact ⟨true, _, _, .get hspace (hget (some (none, none)) rfl), rfl⟩

theorem sampleRun_holds : Holds sampleEnd.store sampleKey [0x61] :=
  (create_writeOnce sampleRun).1 true (sampleResult true) rfl sampleEnd .refl

end TruthFingerprint.Persistence
