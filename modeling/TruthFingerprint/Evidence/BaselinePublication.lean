import TruthFingerprint.Lib.DecimalText
import TruthFingerprint.Lib.LinkedFiles
import TruthFingerprint.Evidence.ConfigurationIdentity
import TruthFingerprint.Evidence.Publication

/-!
# Publication of baselines

A baseline is published under its identity: its bytes are written to a staging file, a directory is
made for the identity, and the file is linked into it. Calls run interleaved, one file operation
after the other, and may stop anywhere.
-/

namespace TruthFingerprint.Evidence

namespace Baseline

open TruthFingerprint.Evidence.Configuration (canonicalJsonBytes)
open LinkedFiles (Files)

/-! ## Manifests -/

/-- The v1 evidence baseline manifest, with what `to_dict` makes of its repository and entries. -/
structure V1BaselineManifest where
  schemaVersion : Text
  baselineId : Option Text
  observedAt : Text
  repository : Python.Value Unit
  entries : List (Python.Value Unit)
  authorizationEffect : Text

namespace V1BaselineManifest

variable (manifest : V1BaselineManifest)

/-- `to_identity_dict` -/
def toIdentityDict : Python.Members Unit :=
  [(text "schema_version", .str manifest.schemaVersion),
    (text "observed_at", .str manifest.observedAt),
    (text "repository", manifest.repository),
    (text "entries", .arr manifest.entries),
    (text "authorization_effect", .str manifest.authorizationEffect)]

def identityNames : List Text :=
  [text "schema_version", text "observed_at", text "repository", text "entries",
    text "authorization_effect"]

/-- `to_dict` -/
def toDict : Python.Members Unit :=
  manifest.toIdentityDict ++
    [(text "baseline_id", match manifest.baselineId with
      | none => .null
      | some baselineId => .str baselineId)]

/-- `_sha256_bytes(canonical_json_bytes(manifest.to_identity_dict()))` -/
def derivedId : Option Text := (canonicalJsonBytes (.obj manifest.toIdentityDict)).map bytesId

end V1BaselineManifest

/-- A call of `publish_manifest` that has passed the checks of the manifest and its identity, with
the name that it draws for its staging file. `validate_manifest` checks more of a manifest than its
identity; that is a parameter. -/
structure Publication (validateManifest : V1BaselineManifest → Bool) where
  manifest : V1BaselineManifest
  staging : Text
  valid : validateManifest manifest
  identified : manifest.baselineId.isSome
  derived : manifest.derivedId = manifest.baselineId
  encoded : (canonicalJsonBytes (.obj manifest.toDict)).isSome

namespace Publication

variable {validateManifest : V1BaselineManifest → Bool}

/-- What `publish_manifest` does before it looks at files -/
def prepare (validateManifest : V1BaselineManifest → Bool) (manifest : V1BaselineManifest)
    (staging : Text) : Option (Publication validateManifest) :=
  if h : validateManifest manifest ∧ manifest.baselineId.isSome ∧
      manifest.derivedId = manifest.baselineId ∧
      (canonicalJsonBytes (.obj manifest.toDict)).isSome then
    some ⟨manifest, staging, h.1, h.2.1, h.2.2.1, h.2.2.2⟩
  else none

variable (call : Publication validateManifest)

/-- The directory of the baseline: `sha256-` and the digest in its identity -/
def baselineId : Text := call.manifest.baselineId.get call.identified

def payload : Bytes := (canonicalJsonBytes (.obj call.manifest.toDict)).get call.encoded

theorem baselineId_congr {call other : Publication validateManifest}
    (h : call.manifest = other.manifest) : call.baselineId = other.baselineId := by
  simp only [baselineId, h]

end Publication

/-! ## One call -/

inductive Progress where
  /-- Nothing is done. -/
  | checking
  /-- There is no file of this identity. -/
  | absent
  | writing (rest : Bytes)
  /-- The staging file is complete. -/
  | staged
  /-- The directory is made. -/
  | claimed
  | linked
  /-- Another call has made the directory. -/
  | yielding
  | comparing (message : String)
  /-- The link was refused. -/
  | withdrawing
  | discarding
  | returned
  | raised (message : String)
  | stopped
deriving DecidableEq

/-- Staging names are drawn, directories stand for identities, and a file is known by the call that
has created it. -/
abbrev BaselineFiles (ι : Type) := Files Text Text ι UInt8

section Call

variable {validateManifest : V1BaselineManifest → Bool} {ι : Type} [DecidableEq ι] (self : ι)
  (call : Publication validateManifest)

/-- The next file operation of `publish_manifest`, and what the call does after it. Links are not
made here, and directories above are made where they are missing. -/
def advance (fs : BaselineFiles ι) : Progress → Option (BaselineFiles ι × Progress)
  | .checking =>
    if (fs.final call.baselineId).isSome then
      some (fs, .comparing "existing finalized baseline cannot be overwritten")
    else some (fs, .absent)
  | .absent =>
    if (fs.staging call.staging).isSome then some (fs, .raised "File exists")
    else some (fs.create call.staging self, .writing call.payload)
  | .writing [] => some (fs, .staged)
  | .writing (b :: rest) => some (fs.append self b, .writing rest)
  | .staged =>
    if fs.directory call.baselineId then some (fs, .yielding)
    else some (fs.mkdir call.baselineId, .claimed)
  | .claimed =>
    match fs.staging call.staging with
    | some file =>
      if fs.directory call.baselineId && (fs.final call.baselineId).isNone then
        some (fs.link file call.baselineId, .linked)
      else some (fs, .withdrawing)
    | none => some (fs, .withdrawing)
  | .linked => some (fs.unlink call.staging, .returned)
  | .yielding =>
    some (fs.unlink call.staging,
      .comparing "final baseline identity already has incomplete or different content")
  | .comparing message =>
    if fs.read call.baselineId = some call.payload then some (fs, .returned)
    else some (fs, .raised message)
  | .withdrawing =>
    if (fs.final call.baselineId).isSome then some (fs, .discarding)
    else some (fs.rmdir call.baselineId, .discarding)
  | .discarding =>
    some (fs.unlink call.staging,
      .raised "atomic no-overwrite final publication is unavailable")
  | .returned | .raised _ | .stopped => none

/-- A call makes its next operation. The repository or an entry may have changed, the link may be
refused, and the call may stop. -/
inductive Moves : BaselineFiles ι × Progress → BaselineFiles ι × Progress → Prop
  | operation {fs p next} (h : advance self call fs p = some next) : Moves (fs, p) next
  | changed {fs} (message : String) : Moves (fs, .absent) (fs, .raised message)
  | refused {fs} : Moves (fs, .claimed) (fs, .withdrawing)
  | stop {fs p} (h : (advance self call fs p).isSome) : Moves (fs, p) (fs, .stopped)

end Call

/-! ## What a call knows -/

namespace Progress

/-- No staging file was made yet. -/
def isEarly : Progress → Bool
  | .checking | .absent => true
  | _ => false

/-- The staging name is the call's. -/
def owns : Progress → Bool
  | .writing _ | .staged | .claimed | .linked | .yielding | .withdrawing | .discarding => true
  | _ => false

/-- The file may still be written to. -/
def mayWrite : Progress → Bool
  | .checking | .absent | .writing _ => true
  | _ => false

/-- The call has made the directory and no file is in it. -/
def isHalfMade : Progress → Bool
  | .claimed | .withdrawing => true
  | _ => false

end Progress

section Knows

variable {validateManifest : V1BaselineManifest → Bool} {ι : Type} [DecidableEq ι] {i j : ι}
  {call other : Publication validateManifest} {fs fs' : BaselineFiles ι} {p p' : Progress}

/-- What is true of the files while a call has come so far. -/
structure Knows (i : ι) (call : Publication validateManifest) (fs : BaselineFiles ι)
    (p : Progress) : Prop where
  fresh : p.isEarly → fs.staging call.staging = none
  owned : p.owns → fs.staging call.staging = some i
  writing : ∀ rest, p = .writing rest → fs.content i ++ rest = call.payload
  complete : p.owns → p.mayWrite = false → fs.content i = call.payload
  claimed : p.isHalfMade → fs.directory call.baselineId ∧ fs.final call.baselineId = none

namespace Knows

omit [DecidableEq ι]

/-- A call that has no file any more knows nothing. -/
theorem ended (hearly : p.isEarly = false) (howns : p.owns = false) : Knows i call fs p where
  fresh hp := by simp [hearly] at hp
  owned hp := by simp [howns] at hp
  writing rest hp := by simp [hp, Progress.owns] at howns
  complete hp := by simp [howns] at hp
  claimed hp := by cases p <;> simp [Progress.isHalfMade, Progress.owns] at hp howns

theorem early (hearly : p.isEarly) (h : fs.staging call.staging = none) : Knows i call fs p where
  fresh _ := h
  owned hp := by cases p <;> simp [Progress.isEarly, Progress.owns] at hp hearly
  writing rest hp := by simp [hp, Progress.isEarly] at hearly
  complete hp := by cases p <;> simp [Progress.isEarly, Progress.owns] at hp hearly
  claimed hp := by cases p <;> simp [Progress.isEarly, Progress.isHalfMade] at hp hearly

/-- The staging file is complete. -/
theorem written (howns : p.owns) (hwrites : p.mayWrite = false)
    (hstaging : fs.staging call.staging = some i) (hcontent : fs.content i = call.payload)
    (hclaimed : p.isHalfMade → fs.directory call.baselineId ∧ fs.final call.baselineId = none) :
    Knows i call fs p where
  fresh hp := by cases p <;> simp [Progress.isEarly, Progress.owns] at hp howns
  owned _ := hstaging
  writing rest hp := by simp [hp, Progress.mayWrite] at hwrites
  complete _ _ := hcontent
  claimed := hclaimed

theorem started {rest : Bytes} (hstaging : fs.staging call.staging = some i)
    (hcontent : fs.content i ++ rest = call.payload) : Knows i call fs (.writing rest) where
  fresh hp := by cases hp
  owned _ := hstaging
  writing rest' hp := by
    cases hp
    exact hcontent
  complete _ hp := by cases hp
  claimed hp := by cases hp

end Knows

theorem Knows.advance (hknows : Knows i call fs p)
    (hdirectory : (fs.final call.baselineId).isSome → fs.directory call.baselineId)
    (h : advance i call fs p = some (fs', p')) : Knows i call fs' p' := by
  cases p with
  | checking =>
    simp only [Baseline.advance] at h
    split_ifs at h
    · cases h
      exact .ended rfl rfl
    · cases h
      exact .early rfl (hknows.fresh rfl)
  | absent =>
    simp only [Baseline.advance] at h
    split_ifs at h
    · cases h
      exact .ended rfl rfl
    · cases h
      exact .started (fs.create_staging_self) (by simp)
  | writing rest =>
    have hwriting := hknows.writing rest rfl
    have howned := hknows.owned rfl
    cases rest with
    | nil =>
      cases h
      exact .written rfl rfl howned (by simpa using hwriting) (fun hp => nomatch hp)
    | cons b rest =>
      cases h
      exact .started howned (by simpa using hwriting)
  | staged =>
    have howned := hknows.owned rfl
    have hcomplete := hknows.complete rfl rfl
    simp only [Baseline.advance] at h
    split_ifs at h with hmade
    · cases h
      exact .written rfl rfl howned hcomplete (fun hp => nomatch hp)
    · cases h
      refine .written rfl rfl howned hcomplete fun _ => ⟨fs.mkdir_directory_self, ?_⟩
      rw [Files.mkdir_final]
      exact Option.not_isSome_iff_eq_none.mp fun hsome => hmade (hdirectory hsome)
  | claimed =>
    have howned := hknows.owned rfl
    have hcomplete := hknows.complete rfl rfl
    simp only [Baseline.advance, howned] at h
    split_ifs at h
    · cases h
      exact .written rfl rfl howned hcomplete (fun hp => nomatch hp)
    · cases h
      exact .written rfl rfl howned hcomplete hknows.claimed
  | withdrawing =>
    have howned := hknows.owned rfl
    have hcomplete := hknows.complete rfl rfl
    simp only [Baseline.advance] at h
    split_ifs at h
    · cases h
      exact .written rfl rfl howned hcomplete (fun hp => nomatch hp)
    · cases h
      exact .written rfl rfl howned hcomplete (fun hp => nomatch hp)
  | comparing message =>
    simp only [Baseline.advance] at h
    split_ifs at h
    · cases h
      exact .ended rfl rfl
    · cases h
      exact .ended rfl rfl
  | linked | yielding | discarding =>
    cases h
    exact .ended rfl rfl
  | returned | raised | stopped => cases h

theorem Knows.moves (hknows : Knows i call fs p)
    (hdirectory : (fs.final call.baselineId).isSome → fs.directory call.baselineId)
    (h : Moves i call (fs, p) (fs', p')) : Knows i call fs' p' := by
  cases h with
  | operation h => exact hknows.advance hdirectory h
  | changed => exact .ended rfl rfl
  | refused =>
    exact .written rfl rfl (hknows.owned rfl) (hknows.complete rfl rfl) fun _ => hknows.claimed rfl
  | stop => exact .ended rfl rfl

end Knows

/-! ## What a move changes -/

section Effect

variable {validateManifest : V1BaselineManifest → Bool} {ι : Type} [DecidableEq ι] {i j : ι}
  {call other : Publication validateManifest} {fs fs' : BaselineFiles ι} {p p' q : Progress}

/-- A call writes to no file but its own and removes no name but its own. It makes the directory of
its identity where there is none, removes it while it has no file, and links a file into it while
it has none. -/
structure Effect (j : ι) (other : Publication validateManifest) (fs : BaselineFiles ι)
    (p : Progress) (fs' : BaselineFiles ι) (p' : Progress) : Prop where
  staging : ∀ n ≠ other.staging, fs'.staging n = fs.staging n
  content : ∀ f ≠ j, fs'.content f = fs.content f
  written : p.mayWrite = false → fs'.content j = fs.content j ∧ p'.mayWrite = false
  directory : ∀ d, fs'.directory d = fs.directory d ∨ d = other.baselineId ∧
    (p = .staged ∧ p' = .claimed ∧ fs.directory d = false ∧ fs'.directory d = true ∨
      p = .withdrawing ∧ p' = .discarding ∧ fs.final d = none)
  final : ∀ d, fs'.final d = fs.final d ∨ d = other.baselineId ∧ p = .claimed ∧ p' = .linked ∧
    fs.directory d ∧ fs.final d = none ∧ fs'.final d = fs.staging other.staging
  halfMade : p'.isHalfMade → p.isHalfMade ∨ p = .staged ∧ fs.directory other.baselineId = false

omit [DecidableEq ι] in
/-- A move that changes no file -/
theorem Effect.idle (hwrites : p.mayWrite = false → p'.mayWrite = false)
    (hhalf : p'.isHalfMade → p.isHalfMade) : Effect j other fs p fs p' where
  staging _ _ := rfl
  content _ _ := rfl
  written h := ⟨rfl, hwrites h⟩
  directory _ := .inl rfl
  final _ := .inl rfl
  halfMade h := .inl (hhalf h)

omit [DecidableEq ι] in
theorem Effect.unlink (hwrites : p'.mayWrite = false) (hhalf : p'.isHalfMade = false) :
    Effect j other fs p (fs.unlink other.staging) p' where
  staging _ hn := fs.unlink_staging_of_ne hn
  content _ _ := rfl
  written _ := ⟨rfl, hwrites⟩
  directory _ := .inl rfl
  final _ := .inl rfl
  halfMade h := by simp [hhalf] at h

theorem effect_of_advance (h : advance j other fs p = some (fs', p')) :
    Effect j other fs p fs' p' := by
  cases p with
  | checking =>
    simp only [advance] at h
    split_ifs at h
    · cases h
      exact .idle (fun _ => rfl) fun h => nomatch h
    · cases h
      exact .idle (fun h => nomatch h) fun h => nomatch h
  | absent =>
    simp only [advance] at h
    split_ifs at h
    · cases h
      exact .idle (fun _ => rfl) fun h => nomatch h
    · cases h
      exact ⟨fun n hn => fs.create_staging_of_ne hn, fun f hf => fs.create_content_of_ne hf,
        (fun h => nomatch h), fun d => .inl rfl, fun d => .inl rfl, (fun h => nomatch h)⟩
  | writing rest =>
    cases rest with
    | nil =>
      cases h
      exact .idle (fun _ => rfl) fun h => nomatch h
    | cons b rest =>
      cases h
      exact ⟨fun n hn => rfl, fun f hf => fs.append_content_of_ne hf, (fun h => nomatch h),
        fun d => .inl rfl, fun d => .inl rfl, (fun h => nomatch h)⟩
  | staged =>
    simp only [advance] at h
    split_ifs at h with hmade
    · cases h
      exact .idle (fun _ => rfl) fun h => nomatch h
    · cases h
      have hnot : fs.directory other.baselineId = false := Bool.eq_false_iff.mpr hmade
      refine ⟨fun n hn => rfl, fun f hf => rfl, fun _ => ⟨rfl, rfl⟩, fun d => ?_, fun d => .inl rfl,
        fun _ => .inr ⟨rfl, hnot⟩⟩
      by_cases hd : d = other.baselineId
      · subst hd
        exact .inr ⟨rfl, .inl ⟨rfl, rfl, hnot, fs.mkdir_directory_self⟩⟩
      · exact .inl (fs.mkdir_directory_of_ne hd)
  | claimed =>
    simp only [advance] at h
    cases hstaging : fs.staging other.staging with
    | none =>
      simp only [hstaging] at h
      cases h
      exact .idle (fun _ => rfl) fun _ => rfl
    | some file =>
      simp only [hstaging] at h
      split_ifs at h with hfree
      · cases h
        rw [Bool.and_eq_true, Option.isNone_iff_eq_none] at hfree
        refine ⟨fun n hn => rfl, fun f hf => rfl, fun _ => ⟨rfl, rfl⟩, fun d => .inl rfl,
          fun d => ?_, fun h => nomatch h⟩
        by_cases hd : d = other.baselineId
        · subst hd
          refine .inr ⟨rfl, rfl, rfl, hfree.1, hfree.2, ?_⟩
          rw [hstaging]
          exact fs.link_final_self
        · exact .inl (fs.link_final_of_ne hd)
      · cases h
        exact .idle (fun _ => rfl) fun _ => rfl
  | withdrawing =>
    simp only [advance] at h
    split_ifs at h with hlinked
    · cases h
      exact .idle (fun _ => rfl) fun h => nomatch h
    · cases h
      refine ⟨fun n hn => rfl, fun f hf => rfl, fun _ => ⟨rfl, rfl⟩, fun d => ?_, fun d => .inl rfl,
        fun h => nomatch h⟩
      by_cases hd : d = other.baselineId
      · subst hd
        exact .inr ⟨rfl, .inr ⟨rfl, rfl, Option.not_isSome_iff_eq_none.mp hlinked⟩⟩
      · exact .inl (fs.rmdir_directory_of_ne hd)
  | comparing message =>
    simp only [advance] at h
    split_ifs at h
    · cases h
      exact .idle (fun _ => rfl) fun h => nomatch h
    · cases h
      exact .idle (fun _ => rfl) fun h => nomatch h
  | linked | yielding | discarding =>
    cases h
    exact .unlink rfl rfl
  | returned | raised | stopped => cases h

theorem Moves.effect (h : Moves j other (fs, p) (fs', p')) : Effect j other fs p fs' p' := by
  cases h with
  | operation h => exact effect_of_advance h
  | changed => exact .idle (fun _ => rfl) fun h => nomatch h
  | refused => exact .idle (fun _ => rfl) fun _ => rfl
  | stop => exact .idle (fun _ => rfl) fun h => nomatch h

omit [DecidableEq ι] in
/-- What a call knows stays true while another call moves. -/
theorem Knows.frame (hknows : Knows i call fs q) (h : Effect j other fs p fs' p') (hij : i ≠ j)
    (hnames : call.staging ≠ other.staging)
    (hexclusive : q.isHalfMade → p.isHalfMade → call.baselineId ≠ other.baselineId) :
    Knows i call fs' q where
  fresh hq := (h.staging _ hnames).trans (hknows.fresh hq)
  owned hq := (h.staging _ hnames).trans (hknows.owned hq)
  writing rest hq := by
    rw [h.content i hij]
    exact hknows.writing rest hq
  complete hq hq' := (h.content i hij).trans (hknows.complete hq hq')
  claimed hq := by
    obtain ⟨hdirectory, hfinal⟩ := hknows.claimed hq
    constructor
    · rcases h.directory call.baselineId with hsame | ⟨hid, ⟨-, -, hnone, -⟩ | ⟨rfl, -⟩⟩
      · exact hsame ▸ hdirectory
      · simp [hdirectory] at hnone
      · exact absurd hid (hexclusive hq rfl)
    · rcases h.final call.baselineId with hsame | ⟨hid, rfl, -⟩
      · exact hsame.trans hfinal
      · exact absurd hid (hexclusive hq rfl)

/-- A call that has made the directory goes on until there is a file in it, or no directory. -/
theorem Moves.halfMade (h : Moves j other (fs, p) (fs', p')) (hp : p.isHalfMade) :
    p'.isHalfMade ∨ p' = .stopped ∨ (fs'.final other.baselineId).isSome ∨
      fs'.directory other.baselineId = false := by
  cases h with
  | changed => cases hp
  | refused => exact .inl rfl
  | stop => exact .inr (.inl rfl)
  | operation h =>
    cases p with
    | claimed =>
      simp only [advance] at h
      cases hstaging : fs.staging other.staging with
      | none =>
        simp only [hstaging] at h
        cases h
        exact .inl rfl
      | some file =>
        simp only [hstaging] at h
        split_ifs at h
        · cases h
          exact .inr (.inr (.inl (by simp)))
        · cases h
          exact .inl rfl
    | withdrawing =>
      simp only [advance] at h
      split_ifs at h with hlinked
      · cases h
        exact .inr (.inr (.inl hlinked))
      · cases h
        exact .inr (.inr (.inr fs.rmdir_directory_self))
    | checking | absent | writing | staged | linked | yielding | comparing | discarding
    | returned | raised | stopped => cases hp

end Effect

/-! ## Runs -/

structure World (ι : Type) where
  files : BaselineFiles ι
  progress : ι → Progress

def World.start {ι : Type} : World ι := ⟨Files.empty, fun _ => .checking⟩

section Runs

variable {validateManifest : V1BaselineManifest → Bool} {ι : Type} [DecidableEq ι]
  (calls : ι → Publication validateManifest)

/-- One call moves. -/
def Step (w w' : World ι) : Prop :=
  ∃ i fs p, Moves i (calls i) (w.files, w.progress i) (fs, p) ∧
    w' = ⟨fs, Function.update w.progress i p⟩

/-- One call moves, and does not stop between making a directory and linking a file into it. -/
def TidyStep (w w' : World ι) : Prop :=
  ∃ i fs p, Moves i (calls i) (w.files, w.progress i) (fs, p) ∧
    (p = .stopped → (w.progress i).isHalfMade = false) ∧
    w' = ⟨fs, Function.update w.progress i p⟩

abbrev Run : World ι → World ι → Prop := Relation.ReflTransGen (Step calls)

abbrev TidyRun : World ι → World ι → Prop := Relation.ReflTransGen (TidyStep calls)

structure Sound (w : World ι) : Prop where
  knows : ∀ i, Knows i (calls i) w.files (w.progress i)
  final : ∀ d i, w.files.final d = some i → (calls i).baselineId = d ∧
    w.files.content i = (calls i).payload ∧ (w.progress i).mayWrite = false
  directory : ∀ d, (w.files.final d).isSome → w.files.directory d
  exclusive : ∀ i j, (w.progress i).isHalfMade → (w.progress j).isHalfMade →
    (calls i).baselineId = (calls j).baselineId → i = j

/-- A directory without a file is one that a call is about to fill or to remove. -/
def Tidy (w : World ι) : Prop :=
  ∀ d, w.files.directory d → w.files.final d = none →
    ∃ i, (calls i).baselineId = d ∧ (w.progress i).isHalfMade

variable {calls} {w w' : World ι}

omit [DecidableEq ι] in
theorem sound_start : Sound calls .start where
  knows _ := .early rfl rfl
  final d i h := by cases h
  directory d h := by cases h
  exclusive i j h := by cases h

theorem Sound.step (hnames : Function.Injective fun i => (calls i).staging)
    (hsound : Sound calls w) (h : Step calls w w') : Sound calls w' := by
  obtain ⟨i, fs, p, hmove, rfl⟩ := h
  have heffect := hmove.effect
  have hother (j : ι) (hj : j ≠ i) : Function.update w.progress i p j = w.progress j :=
    Function.update_of_ne hj ..
  have hself : Function.update w.progress i p i = p := Function.update_self ..
  refine ⟨fun j => ?_, fun d f hf => ?_, fun d hd => ?_, ?_⟩
  · change Knows j (calls j) fs (Function.update w.progress i p j)
    by_cases hj : j = i
    · subst hj
      rw [hself]
      exact (hsound.knows j).moves (hsound.directory _) hmove
    · rw [hother j hj]
      exact (hsound.knows j).frame heffect hj (hnames.ne hj) fun hhalf hhalf' heq =>
        hj (hsound.exclusive j i hhalf hhalf' heq)
  · change fs.final d = some f at hf
    change (calls f).baselineId = d ∧ fs.content f = (calls f).payload ∧
      (Function.update w.progress i p f).mayWrite = false
    rcases heffect.final d with hsame | ⟨rfl, hclaimed, rfl, -, -, hlink⟩
    · obtain ⟨hid, hcontent, hwrites⟩ := hsound.final d f (hsame ▸ hf)
      refine ⟨hid, ?_⟩
      by_cases hfi : f = i
      · subst hfi
        obtain ⟨hcontent', hwrites'⟩ := heffect.written hwrites
        exact ⟨hcontent'.trans hcontent, by rwa [hself]⟩
      · exact ⟨(heffect.content f hfi).trans hcontent, (hother f hfi).symm ▸ hwrites⟩
    · have howned := (hsound.knows i).owned (by rw [hclaimed]; rfl)
      have hcomplete := (hsound.knows i).complete (by rw [hclaimed]; rfl) (by rw [hclaimed]; rfl)
      obtain rfl : i = f := Option.some.inj (howned.symm.trans (hlink.symm.trans hf))
      have hcontent := (heffect.written (by rw [hclaimed]; rfl)).1
      exact ⟨rfl, hcontent.trans hcomplete, by rw [hself]; rfl⟩
  · change (fs.final d).isSome at hd
    change fs.directory d
    rcases heffect.final d with hsame | ⟨hid, hclaimed, -, hdirectory, -, -⟩
    · have hold := hsound.directory d (hsame ▸ hd)
      rcases heffect.directory d with hsame' | ⟨-, ⟨-, -, -, hmade⟩ | ⟨-, -, hnone⟩⟩
      · rwa [hsame']
      · exact hmade
      · simp [hsame, hnone] at hd
    · rcases heffect.directory d with hsame' | ⟨-, ⟨hstaged, -⟩ | ⟨hwithdrawing, -⟩⟩
      · rwa [hsame']
      · simp [hclaimed] at hstaged
      · simp [hclaimed] at hwithdrawing
  · -- a call that has just made a directory is alone with it: there was none before
    have halone (j : ι) (hj : j ≠ i) (hhalf : p.isHalfMade) (hhalf' : (w.progress j).isHalfMade)
        (hid : (calls i).baselineId = (calls j).baselineId) : False := by
      rcases heffect.halfMade hhalf with hhalf | ⟨-, hnone⟩
      · exact hj (hsound.exclusive j i hhalf' hhalf hid.symm)
      · simp [hid, ((hsound.knows j).claimed hhalf').1] at hnone
    intro a b ha hb hid
    change (Function.update w.progress i p a).isHalfMade at ha
    change (Function.update w.progress i p b).isHalfMade at hb
    by_cases hai : a = i
    · by_cases hbi : b = i
      · rw [hai, hbi]
      · rw [hai, hself] at ha
        rw [hother b hbi] at hb
        exact (halone b hbi ha hb (hai ▸ hid)).elim
    · rw [hother a hai] at ha
      by_cases hbi : b = i
      · rw [hbi, hself] at hb
        exact (halone a hai hb ha (hbi ▸ hid.symm)).elim
      · rw [hother b hbi] at hb
        exact hsound.exclusive a b ha hb hid

/-- What is read under an identity stays. -/
theorem Sound.read_stays (hsound : Sound calls w) (h : Step calls w w') {d : Text} {content : Bytes}
    (hread : w.files.read d = some content) : w'.files.read d = some content := by
  obtain ⟨i, fs, p, hmove, rfl⟩ := h
  have heffect := hmove.effect
  obtain ⟨f, hf, hcontent⟩ := Option.map_eq_some_iff.mp hread
  obtain ⟨-, -, hwrites⟩ := hsound.final d f hf
  have hsame : fs.final d = w.files.final d := by
    rcases heffect.final d with hsame | ⟨-, -, -, -, hnone, -⟩
    · exact hsame
    · simp [hnone] at hf
  have hfile : fs.content f = w.files.content f := by
    by_cases hfi : f = i
    · subst hfi
      exact (heffect.written hwrites).1
    · exact heffect.content f hfi
  refine Option.map_eq_some_iff.mpr ⟨f, hsame.trans hf, hfile.trans hcontent⟩

omit [DecidableEq ι] in
theorem tidy_start : Tidy calls .start := fun _ h => by cases h

theorem Tidy.step (htidy : Tidy calls w) (h : TidyStep calls w w') : Tidy calls w' := by
  obtain ⟨i, fs, p, hmove, hstop, rfl⟩ := h
  have heffect := hmove.effect
  intro d hd hnone
  change fs.directory d at hd
  change fs.final d = none at hnone
  change ∃ j, (calls j).baselineId = d ∧ (Function.update w.progress i p j).isHalfMade
  rcases heffect.directory d with hsame | ⟨rfl, ⟨-, rfl, -, -⟩ | ⟨hwithdrawing, hp, -⟩⟩
  · have hnone' : w.files.final d = none := by
      rcases heffect.final d with hsame | ⟨-, -, -, -, hnone, -⟩
      · exact hsame ▸ hnone
      · exact hnone
    obtain ⟨j, rfl, hhalf⟩ := htidy d (hsame ▸ hd) hnone'
    refine ⟨j, rfl, ?_⟩
    by_cases hj : j = i
    · subst hj
      rw [Function.update_self]
      rcases hmove.halfMade hhalf with hhalf' | rfl | hlinked | hremoved
      · exact hhalf'
      · simp [hstop rfl] at hhalf
      · simp [hnone] at hlinked
      · simp [hd] at hremoved
    · rwa [Function.update_of_ne hj]
  · exact ⟨i, rfl, by rw [Function.update_self]; rfl⟩
  · rcases hmove.halfMade (by rw [hwithdrawing]; rfl) with hhalf' | hp' | hlinked | hremoved
    · simp [hp, Progress.isHalfMade] at hhalf'
    · simp [hp] at hp'
    · simp [hnone] at hlinked
    · simp [hd] at hremoved

theorem TidyStep.step (h : TidyStep calls w w') : Step calls w w' := by
  obtain ⟨i, fs, p, hmove, -, hw⟩ := h
  exact ⟨i, fs, p, hmove, hw⟩

theorem Sound.run (hnames : Function.Injective fun i => (calls i).staging)
    (hsound : Sound calls w) (h : Run calls w w') : Sound calls w' := by
  induction h with
  | refl => exact hsound
  | tail _ hstep ih => exact ih.step hnames hstep

theorem Sound.read_stays_run (hnames : Function.Injective fun i => (calls i).staging)
    (hsound : Sound calls w) (h : Run calls w w') {d : Text} {content : Bytes}
    (hread : w.files.read d = some content) : w'.files.read d = some content := by
  induction h with
  | refl => exact hread
  | tail hrun hstep ih => exact (hsound.run hnames hrun).read_stays hstep ih

theorem Tidy.run (htidy : Tidy calls w) (h : TidyRun calls w w') : Tidy calls w' := by
  induction h with
  | refl => exact htidy
  | tail _ hstep ih => exact ih.step hstep

theorem run_of_tidyRun (h : TidyRun calls w w') : Run calls w w' :=
  Relation.ReflTransGen.mono (fun _ _ hstep => hstep.step) _ _ h

end Runs

/-! ## A call that is not disturbed -/

section Undisturbed

variable {validateManifest : V1BaselineManifest → Bool} {ι : Type} [DecidableEq ι] (self : ι)
  {call : Publication validateManifest} {fs : BaselineFiles ι}

/-- The operations of one call, while no other call moves -/
abbrev Undisturbed (self : ι) (call : Publication validateManifest) :
    BaselineFiles ι × Progress → BaselineFiles ι × Progress → Prop :=
  Relation.ReflTransGen fun s s' => advance self call s.1 s.2 = some s'

theorem undisturbed_writing (call : Publication validateManifest) (rest : Bytes)
    (fs : BaselineFiles ι) :
    ∃ fs', Undisturbed self call (fs, .writing rest) (fs', .staged) ∧
      fs'.staging = fs.staging ∧ fs'.directory = fs.directory ∧ fs'.final = fs.final ∧
      fs'.content self = fs.content self ++ rest := by
  induction rest generalizing fs with
  | nil => exact ⟨fs, .single rfl, rfl, rfl, rfl, (List.append_nil _).symm⟩
  | cons b rest ih =>
    obtain ⟨fs', hrun, hstaging, hdirectory, hfinal, hcontent⟩ := ih (fs.append self b)
    refine ⟨fs', .head rfl hrun, hstaging, hdirectory, hfinal, ?_⟩
    rw [hcontent, Files.append_content_self, List.append_assoc, List.singleton_append]

theorem undisturbed_stages (hfresh : fs.staging call.staging = none)
    (hfinal : fs.final call.baselineId = none) :
    ∃ fs', Undisturbed self call (fs, .checking) (fs', .staged) ∧
      fs'.staging = Function.update fs.staging call.staging (some self) ∧
      fs'.directory = fs.directory ∧ fs'.final = fs.final ∧ fs'.content self = call.payload := by
  obtain ⟨fs', hwriting, hstaging, hdirectory, hfinal', hcontent⟩ :=
    undisturbed_writing self call call.payload (fs.create call.staging self)
  have habsent : advance self call fs .checking = some (fs, .absent) := by simp [advance, hfinal]
  have hcreate : advance self call fs .absent =
      some (fs.create call.staging self, .writing call.payload) := by
    simp [advance, hfresh]
  refine ⟨fs', .head habsent (.head hcreate hwriting), hstaging, hdirectory, hfinal', ?_⟩
  rw [hcontent, Files.create_content_self, List.nil_append]

theorem undisturbed_claims (hfresh : fs.staging call.staging = none)
    (hdirectory : fs.directory call.baselineId = false)
    (hfinal : fs.final call.baselineId = none) :
    ∃ fs', Undisturbed self call (fs, .checking) (fs', .claimed) ∧
      fs'.staging = Function.update fs.staging call.staging (some self) ∧
      fs'.directory call.baselineId ∧ fs'.final call.baselineId = none ∧
      fs'.content self = call.payload := by
  obtain ⟨staged, hrun, hstaging, hdirectory', hfinal', hcontent⟩ :=
    undisturbed_stages self hfresh hfinal
  have hclaim : advance self call staged .staged =
      some (staged.mkdir call.baselineId, .claimed) := by
    simp [advance, hdirectory', hdirectory]
  exact ⟨_, hrun.tail hclaim, hstaging, by simp, by simp [hfinal', hfinal], hcontent⟩

/-- Where there is neither a file nor a directory, a call publishes its payload. -/
theorem undisturbed_publishes (hfresh : fs.staging call.staging = none)
    (hdirectory : fs.directory call.baselineId = false)
    (hfinal : fs.final call.baselineId = none) :
    ∃ fs', Undisturbed self call (fs, .checking) (fs', .returned) ∧
      fs'.read call.baselineId = some call.payload := by
  obtain ⟨claimed, hrun, hstaging, hdirectory', hfinal', hcontent⟩ :=
    undisturbed_claims self hfresh hdirectory hfinal
  have hlink : advance self call claimed .claimed =
      some (claimed.link self call.baselineId, .linked) := by
    simp [advance, hstaging, hdirectory', hfinal']
  refine ⟨_, (hrun.tail hlink).tail rfl, ?_⟩
  simp [Files.read, hcontent]

theorem undisturbed_finds (h : fs.read call.baselineId = some call.payload) :
    Undisturbed self call (fs, .checking) (fs, .returned) := by
  have hsome : (fs.final call.baselineId).isSome := by
    obtain ⟨f, hf, -⟩ := Option.map_eq_some_iff.mp h
    simp [hf]
  refine .head
    (b := (fs, .comparing "existing finalized baseline cannot be overwritten")) ?_ (.single ?_)
  · simp [advance, hsome]
  · simp [advance, h]

end Undisturbed

/-! ## Identities -/

theorem isLiteral_minus {t : Text} (h : DecimalText.isNatText t) :
    JsonText.IsLiteral ('-'.codePoint :: t) := by
  obtain ⟨hnumber, hchars⟩ := DecimalText.isLiteral_of_isNatText h
  constructor
  · cases t with
    | nil => cases hnumber
    | cons c t =>
      have hc : c ≠ '-'.codePoint := by
        rintro rfl
        simp only [DecimalText.isNatText, List.all_cons, Bool.and_eq_true] at h
        exact absurd h.1.1 (by decide)
      simpa [JsonText.isNumber, hc] using hnumber
  · intro c hc
    rcases List.mem_cons.mp hc with rfl | hc
    · rfl
    · exact hchars c hc

theorem isLiteral_number (number : Python.Number Unit) : JsonText.IsLiteral number.literal := by
  cases number with
  | float x => exact ⟨rfl, List.all_eq_true.mp rfl⟩
  | int i =>
    rw [Python.Number.literal, Python.intText]
    split_ifs
    · exact isLiteral_minus (DecimalText.isNatText_natText _)
    · exact DecimalText.isLiteral_of_isNatText (DecimalText.isNatText_natText _)

/-- The canonical bytes of a document determine it up to the order of its members. -/
theorem literals_of_canonicalJsonBytes {document document' : Python.Value Unit} {content : Bytes}
    (h : canonicalJsonBytes document = some content)
    (h' : canonicalJsonBytes document' = some content) :
    document.sortKeys.map Python.Number.literal id =
      document'.sortKeys.map Python.Number.literal id := by
  have hliterals {document : Python.Value Unit} (hencodable : Encodable document) :
      (document.sortKeys.map Python.Number.literal id).All JsonText.IsLiteral
        JsonText.NoSplitPair := by
    rw [Doc.all_map, Doc.all_sortKeys]
    exact Doc.All.imp (fun number _ => isLiteral_number number)
      (fun _ hs => noSplitPair_of_isEncodable hs) _ hencodable
  rw [canonicalJsonBytes] at h h'
  split_ifs at h with hencodable
  split_ifs at h' with hencodable'
  refine JsonText.render_injective (fun c hc => of_decide_eq_true hc) (hliterals hencodable)
    (hliterals hencodable') (Utf8.utf8_injective ?_)
  exact Option.some.inj (h.trans h'.symm)

section Identities

variable {validateManifest : V1BaselineManifest → Bool}

/-- The digests of what two calls are identified by do not collide. -/
def NoCollision (call other : Publication validateManifest) : Prop :=
  ∀ content content', canonicalJsonBytes (.obj call.manifest.toIdentityDict) = some content →
    canonicalJsonBytes (.obj other.manifest.toIdentityDict) = some content' →
    bytesId content = bytesId content' → content = content'

theorem Publication.exists_identity (call : Publication validateManifest) :
    ∃ content, canonicalJsonBytes (.obj call.manifest.toIdentityDict) = some content ∧
      bytesId content = call.baselineId := by
  have hid : call.manifest.derivedId = some call.baselineId := by
    rw [call.derived, Publication.baselineId, Option.some_get]
  obtain ⟨content, hcontent, hbytes⟩ := Option.map_eq_some_iff.mp hid
  exact ⟨content, hcontent, hbytes⟩

theorem Publication.payload_eq (call : Publication validateManifest) :
    call.payload = Text.utf8 (JsonText.render (JsonText.escapeWith isPlain)
      ((Doc.obj call.manifest.toDict).sortKeys.map Python.Number.literal id)) := by
  have hencoded := call.encoded
  simp only [Publication.payload, canonicalJsonBytes] at hencoded ⊢
  split_ifs at hencoded ⊢
  · rfl
  · cases hencoded

/-- Manifests of one identity have one content. -/
theorem payload_eq_of_baselineId_eq {call other : Publication validateManifest}
    (hcollision : NoCollision call other) (hid : call.baselineId = other.baselineId) :
    call.payload = other.payload := by
  obtain ⟨content, hcontent, hbytes⟩ := call.exists_identity
  obtain ⟨content', hcontent', hbytes'⟩ := other.exists_identity
  obtain rfl := hcollision content content' hcontent hcontent'
    (hbytes.trans (hid.trans hbytes'.symm))
  have hidentity := literals_of_canonicalJsonBytes hcontent hcontent'
  rw [call.payload_eq, other.payload_eq]
  congr 2
  have hbaseline : call.manifest.baselineId = other.manifest.baselineId := by
    rw [← Option.some_get call.identified, ← Option.some_get other.identified]
    exact congrArg some hid
  rw [← Doc.sortKeys_map, ← Doc.sortKeys_map, Doc.map_obj, Doc.map_obj] at hidentity ⊢
  have hnames : V1BaselineManifest.identityNames.Nodup := by decide +kernel
  have hnames' : (V1BaselineManifest.identityNames ++ [text "baseline_id"]).Nodup := by
    decide +kernel
  have hvalues := (Doc.sortKeys_obj_eq_iff_map (show _ = V1BaselineManifest.identityNames from rfl)
    rfl hnames).mp hidentity
  refine (Doc.sortKeys_obj_eq_iff_map
    (show _ = V1BaselineManifest.identityNames ++ [text "baseline_id"] from rfl) rfl hnames').mpr ?_
  simp only [V1BaselineManifest.toDict, List.map_append, hbaseline, hvalues]

end Identities

/-! ## Publication survives crashes -/

section Survival

variable {validateManifest : V1BaselineManifest → Bool} {ι : Type} [DecidableEq ι]
  {calls : ι → Publication validateManifest} {w : World ι}

/-- Every call has not begun, has finished or has stopped. -/
def AtRest (w : World ι) : Prop :=
  ∀ i, w.progress i = .checking ∨ w.progress i = .returned ∨ w.progress i = .stopped ∨
    ∃ message, w.progress i = .raised message

omit [DecidableEq ι] in
theorem AtRest.not_halfMade (hrest : AtRest w) (i : ι) : (w.progress i).isHalfMade = false := by
  rcases hrest i with h | h | h | ⟨message, h⟩ <;> rw [h] <;> rfl

omit [DecidableEq ι] in
/-- What is read under the identity of a call is the payload of the call. -/
theorem Sound.read_eq (hsound : Sound calls w) (hcollision : ∀ i j, NoCollision (calls i) (calls j))
    {i : ι} {content : Bytes} (h : w.files.read (calls i).baselineId = some content) :
    content = (calls i).payload := by
  obtain ⟨f, hf, rfl⟩ := Option.map_eq_some_iff.mp h
  obtain ⟨hid, hcontent, -⟩ := hsound.final _ f hf
  exact hcontent.trans (payload_eq_of_baselineId_eq (hcollision f i) hid)

theorem Sound.publishes (hsound : Sound calls w) (htidy : Tidy calls w) (hrest : AtRest w)
    (hcollision : ∀ i j, NoCollision (calls i) (calls j)) {i : ι} (hi : w.progress i = .checking) :
    ∃ fs, Undisturbed i (calls i) (w.files, .checking) (fs, .returned) ∧
      fs.read (calls i).baselineId = some (calls i).payload := by
  cases hread : w.files.read (calls i).baselineId with
  | some content =>
    obtain rfl := hsound.read_eq hcollision hread
    exact ⟨w.files, undisturbed_finds i hread, hread⟩
  | none =>
    have hfinal : w.files.final (calls i).baselineId = none := Option.map_eq_none_iff.mp hread
    have hdirectory : w.files.directory (calls i).baselineId = false := by
      refine Bool.eq_false_iff.mpr fun hmade => ?_
      obtain ⟨j, -, hhalf⟩ := htidy _ hmade hfinal
      simp [hrest.not_halfMade j] at hhalf
    exact undisturbed_publishes i ((hsound.knows i).fresh (by rw [hi]; rfl)) hdirectory hfinal

theorem run_of_undisturbed {w : World ι} {i : ι} {s : BaselineFiles ι × Progress}
    (h : Undisturbed i (calls i) (w.files, w.progress i) s) :
    Run calls w ⟨s.1, Function.update w.progress i s.2⟩ := by
  induction h with
  | refl => rw [Function.update_eq_self]
  | @tail s s' _ hmove ih =>
    refine ih.tail ⟨i, s'.1, s'.2, ?_, ?_⟩
    · change Moves i (calls i) (s.1, Function.update w.progress i s.2 i) s'
      rw [Function.update_self]
      exact .operation hmove
    · rw [Function.update_idem]

/-- Under a directory without a file, a call raises. -/
theorem undisturbed_raises (i : ι) {call : Publication validateManifest} {fs : BaselineFiles ι}
    (hfresh : fs.staging call.staging = none) (hdirectory : fs.directory call.baselineId)
    (hfinal : fs.final call.baselineId = none) :
    ∃ fs', Undisturbed i call (fs, .checking) (fs', .raised
      "final baseline identity already has incomplete or different content") := by
  obtain ⟨staged, hrun, -, hdirectory', hfinal', -⟩ :=
    undisturbed_stages i hfresh hfinal
  have hyield : advance i call staged .staged = some (staged, .yielding) := by
    simp [advance, hdirectory', hdirectory]
  refine ⟨staged.unlink call.staging, ((hrun.tail hyield).tail rfl).tail ?_⟩
  simp [advance, Files.read, hfinal', hfinal]

/-- A call that is not disturbed does not both return and raise. -/
theorem not_undisturbed_returned {i : ι} {call : Publication validateManifest}
    {s : BaselineFiles ι × Progress} {fs : BaselineFiles ι} {message : String}
    (hraised : Undisturbed i call s (fs, .raised message)) (fs' : BaselineFiles ι) :
    ¬Undisturbed i call s (fs', .returned) := by
  intro hreturned
  have hunique : Relator.RightUnique fun s s' : BaselineFiles ι × Progress =>
      advance i call s.1 s.2 = some s' :=
    fun _ _ _ h h' => Option.some.inj (h.symm.trans h')
  rcases Relation.ReflTransGen.total_of_right_unique hunique hraised hreturned with h | h
  · rcases h.cases_head with heq | ⟨_, hmove, -⟩
    · cases heq
    · cases hmove
  · rcases h.cases_head with heq | ⟨_, hmove, -⟩
    · cases heq
    · cases hmove

/-- When a call stops after it has made the directory, no other call of its identity returns. -/
theorem exists_unpublishable (hnames : Function.Injective fun i => (calls i).staging) {i j : ι}
    (hij : j ≠ i) (hid : (calls j).baselineId = (calls i).baselineId) :
    ∃ w, Run calls .start w ∧ AtRest w ∧ w.progress j = .checking ∧
      ¬∃ fs, Undisturbed j (calls j) (w.files, .checking) (fs, .returned) := by
  obtain ⟨fs, hclaimed, hstaging, hdirectory, hfinal, -⟩ :=
    undisturbed_claims i (show Files.empty.staging (calls i).staging = none from rfl) rfl rfl
  have hsome : (advance i (calls i) fs .claimed).isSome := by
    simp [advance, hstaging, hdirectory, hfinal]
  have hstop : Step calls ⟨fs, Function.update World.start.progress i .claimed⟩
      ⟨fs, Function.update World.start.progress i .stopped⟩ := by
    refine ⟨i, fs, .stopped, ?_, ?_⟩
    · change Moves i (calls i) (fs, Function.update World.start.progress i .claimed i) _
      rw [Function.update_self]
      exact .stop hsome
    · rw [Function.update_idem]
  have hstopped (k : ι) (hk : k ≠ i) :
      Function.update World.start.progress i .stopped k = .checking := Function.update_of_ne hk ..
  have hfresh : fs.staging (calls j).staging = none := by
    rw [hstaging, Function.update_of_ne (hnames.ne hij)]
    rfl
  obtain ⟨fs', hraises⟩ := undisturbed_raises j hfresh
    (by rw [hid]; exact hdirectory) (by rw [hid]; exact hfinal)
  refine ⟨_, (run_of_undisturbed (w := .start) hclaimed).tail hstop, fun k => ?_,
    hstopped j hij, fun ⟨_, hreturned⟩ => not_undisturbed_returned hraises _ hreturned⟩
  by_cases hk : k = i
  · subst hk
    exact .inr (.inr (.inl (Function.update_self ..)))
  · exact .inl (hstopped k hk)

end Survival

/-! ## A baseline that can not be published any more -/

/-- A manifest of an empty project -/
def emptyProject : V1BaselineManifest where
  schemaVersion := text "V1BaselineManifest.v1"
  baselineId := none
  observedAt := text "2026-08-31T00:00:00Z"
  repository := .obj [(text "head", .null), (text "branch", .null), (text "status_sha256", .null),
    (text "status_verification", .str (text "unverifiable")),
    (text "ignored_status_sha256", .null),
    (text "ignored_status_verification", .str (text "unverifiable")),
    (text "dirty_overlays", .arr [])]
  entries := []
  authorizationEffect := text "none"

/-- Two calls that publish the manifest of an empty project -/
def twoCalls (second : Bool) : Publication fun _ => true where
  manifest := { emptyProject with baselineId := emptyProject.derivedId }
  staging := if second then text "baseline-1.json" else text "baseline-0.json"
  valid := rfl
  identified := by decide +kernel
  derived := rfl
  encoded := by decide +kernel

theorem twoCalls_noCollision (i j : Bool) : NoCollision (twoCalls i) (twoCalls j) :=
  fun _ _ h h' _ => Option.some.inj (h.symm.trans h')

theorem twoCalls_staging : Function.Injective fun i => (twoCalls i).staging := by decide +kernel

end Baseline

end TruthFingerprint.Evidence
