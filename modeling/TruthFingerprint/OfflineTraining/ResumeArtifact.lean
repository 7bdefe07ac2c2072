import Mathlib
import TruthFingerprint.Python.Equality
import TruthFingerprint.Python.Paths
import TruthFingerprint.Evidence.ConfigurationIdentity
import TruthFingerprint.OfflineTraining.AcademicDataset
import TruthFingerprint.OfflineTraining.PhaseAllocation

/-!
# Authentication of a completed cell

A cell that an earlier run completed counts only if it is the planned one and its predictions are
those that were published with it. The check compares the cell with its descriptor field by field,
reads the predictions again, row by row, and then the transaction that published both files.

What a call raises is the text of the error. The file system is a parameter, and so is what other
parts of the runner compute: the identity of the numerical core and the reconstruction of the
metrics from the rows.
-/

namespace TruthFingerprint.OfflineTraining

open Evidence.Configuration (splitlines)
open Python (Coercions FloatEq Members Path Value mapping nested)

/-- What the runner sees of the file system. Reading raises what the system says. -/
structure Disk where
  isSymlink : Path → Bool
  isFile : Path → Bool
  isDir : Path → Bool
  resolve : Path → Path
  /-- The `*.json` of a directory in order -/
  globJson : Path → List Path
  readText : Path → Except Text Text
  fileSha256 : Path → Except Text Text

/-- What `json.loads` raises -/
structure LoadsError where
  isDecodeError : Bool
  message : Text

/-- The parts of the runner and of its environment that authentication calls -/
structure Authenticator (F : Type) where
  disk : Disk
  loads : Text → Except LoadsError (Value F)
  numericalCoreIdentity : Members F → Except Text Text
  validateCellRawReconstruction : Members F → Members F → List (Members F) → Except Text Unit

section Checks

variable {F : Type} [Coercions F] [FloatEq F]

/-- `str(members.get(name, default))` -/
def strAt (members : Members F) (name default : Text) : Text :=
  ((members.lookup name).map Python.str).getD default

omit [Coercions F] [FloatEq F] in
/-- The value is that Boolean. -/
def isBool (value : Option (Value F)) (b : Bool) : Bool :=
  match value with
  | some (.bool b') => b = b'
  | _ => false

omit [Coercions F] [FloatEq F] in
/-- `_mapping` -/
def mappingAt (members : Members F) (name label : Text) : Except Text (Members F) :=
  orIssue ((members.lookup name).bind mapping) (label ++ text " must be an object.")

/-- `_read_json` -/
def Authenticator.readJson (a : Authenticator F) (path : Path) : Except Text (Members F) := do
  requires (¬a.disk.isSymlink path) (text "Refusing symlinked JSON artifact: " ++ path.toText)
  let t ← a.disk.readText path
  let value ← (a.loads t).mapError (·.message)
  orIssue (mapping value) (text "Expected JSON object in " ++ path.toText ++ text ".")

/-- Each of the fields is the same in both. -/
def checkFields (cell descriptor : Members F) (fields : List Text) (rule : Text) :
    Except Text Unit :=
  fields.forM fun field =>
    requires (Python.eq (Doc.get cell field) (Doc.get descriptor field))
      (text "completed cell " ++ field ++ rule)

def cellSchema (config : Members F) : Text :=
  if isV2 config then text "academic-cell-result-v2" else text "academic-cell-result-v1"

def missingPredictions : Text := text "prediction artifact is missing or has a mismatched SHA-256"

def unauthenticatedPayload : Text :=
  text "cell publication recovery payload is unauthenticated"

def plannedFields : List Text :=
  [text "cell_id", text "cell_identity", text "runner_protocol", text "config_identity",
    text "dataset_key", text "dataset", text "model", text "seed", text "deterministic",
    text "phase"]

def ledgerFields : List Text :=
  [text "seed_position", text "batch_id", text "batch_position", text "schedule_kind",
    text "schedule_identity", text "result_dataset_identity"]

/-! ## Predictions -/

omit [Coercions F] [FloatEq F] in
/-- Zero or one, and no Boolean -/
def isBinary : Value F → Bool
  | .num (.int i) => i = 0 || i = 1
  | _ => false

omit [FloatEq F] in
/-- The file has the digest that the members declare under the name. -/
def Authenticator.checkDigest (a : Authenticator F) (members : Members F) (name : Text)
    (path : Path) (message : Text) : Except Text Unit := do
  let digest ← a.disk.fileSha256 path
  requires (isText (members.lookup name) digest) message

omit [FloatEq F] in
def checkFinite (value : Value F) (message : Text) : Except Text Unit :=
  match value with
  | .num n => do
    let x ← orIssue (Python.float (.num n)) (text "int too large to convert to float")
    requires (Python.FloatOps.isFinite x) message
  | _ => .error message

def rowIssue (index : Nat) (rule : Text) : Text :=
  text "prediction row " ++ DecimalText.natText index ++ rule

/-- The rows that were read, each with its unit -/
abbrev PredictionRows (F : Type) := List (Text × Members F)

def Authenticator.predictionRow (a : Authenticator F) (descriptor : Members F)
    (rows : PredictionRows F) (line : Text × Nat) : Except Text (PredictionRows F) := do
  let issue := rowIssue line.2
  let value ← (a.loads line.1).mapError fun e =>
    if e.isDecodeError then issue (text " is invalid JSON") else e.message
  let row ← orIssue (mapping value) (issue (text " is not an object"))
  match row.lookup (text "unit_id") with
  | some (.str unitId) => do
    requires (unitId ≠ [] ∧ unitId ∉ rows.map Prod.fst)
      (issue (text " has a missing/duplicate unit identity"))
    requires (isText (row.lookup (text "evidence_origin")) (text "official_native"))
      (issue (text " has incompatible evidence_origin"))
    requires (Python.eq (Doc.get row (text "cell_identity")) (Doc.get descriptor (text "cell_identity")))
      (issue (text " has incompatible cell identity"))
    requires (isBinary (Doc.get row (text "truth"))) (issue (text " has a non-binary label"))
    requires (isBinary (Doc.get row (text "prediction")))
      (issue (text " has a non-binary label/prediction"))
    checkFinite (Doc.get row (text "score")) (issue (text " has invalid score"))
    checkFinite (Doc.get row (text "threshold")) (issue (text " has invalid threshold"))
    .ok (rows ++ [(unitId, row)])
  | _ => .error (issue (text " has a missing/duplicate unit identity"))

omit [Coercions F] [FloatEq F] in
/-- Where the artifact says that its predictions are -/
def predictionPath (disk : Disk) (artifact : Members F) (predictionsDir : Path) :
    Except Text Path :=
  match artifact.lookup (text "path") with
  | some (.str rawPath) => do
    requires (rawPath ≠ []) (text "prediction artifact path is missing")
    let rawPredictionPath := Path.ofText rawPath
    requires (¬disk.isSymlink rawPredictionPath)
      (text "prediction artifact path must not be a symlink")
    let path := disk.resolve rawPredictionPath
    requires (path.parent = disk.resolve predictionsDir)
      (text "prediction artifact path escapes the frozen predictions directory")
    .ok path
  | _ => .error (text "prediction artifact path is missing")

omit [Coercions F] [FloatEq F] in
/-- The number of rows that the artifact declares -/
def expectedRows (artifact : Members F) : Except Text Nat :=
  match artifact.lookup (text "rows") with
  | some (.num (.int rows)) => do
    requires (1 ≤ rows) (text "prediction artifact row count is invalid")
    .ok rows.toNat
  | _ => .error (text "prediction artifact row count is invalid")

omit [FloatEq F] in
/-- The predictions of a cell and their file -/
def Authenticator.predictionRows (a : Authenticator F) (cell descriptor : Members F)
    (predictionsDir : Path) : Except Text (Path × PredictionRows F) := do
  let artifact ← mappingAt cell (text "predictions_artifact") (text "predictions_artifact")
  let path ← predictionPath a.disk artifact predictionsDir
  requires (a.disk.isFile path) missingPredictions
  a.checkDigest artifact (text "sha256") path missingPredictions
  let expected ← expectedRows artifact
  let t ← a.disk.readText path
  let lines := splitlines t
  requires (lines.length = expected) (text "prediction artifact row count does not match")
  let metricSupport := nested (.obj cell)
    [text "test", text "operating", text "support", text "total"]
  requires (Python.eq metricSupport (.num (.int expected)))
    (text "prediction rows do not match test metric support")
  let rows ← (lines.zipIdx 1).foldlM (a.predictionRow descriptor) []
  .ok (path, rows)

/-! ## Publication -/

/-- `canonical_json_hash`, which raises on what cannot be written -/
def hashOf (members : Members F) : Except Text Text :=
  orIssue (canonicalJsonHash (.obj members)) (text "surrogates not allowed")

/-- One of the payloads from which an interrupted publication is recovered -/
def Authenticator.checkPayload (a : Authenticator F) (manifest : Members F)
    (transactionsDir : Path) (pathField hashField : Text) : Except Text Unit := do
  let payloadPath := Path.ofText (strAt manifest pathField [])
  requires (¬a.disk.isSymlink payloadPath) unauthenticatedPayload
  requires ((a.disk.resolve payloadPath).parent = a.disk.resolve transactionsDir)
    unauthenticatedPayload
  requires (a.disk.isFile payloadPath) unauthenticatedPayload
  a.checkDigest manifest hashField payloadPath unauthenticatedPayload

/-- `_validate_publication_transaction` -/
def Authenticator.validatePublicationTransaction (a : Authenticator F) (cell : Members F)
    (cellPath predictionPath : Path) : Except Text Unit := do
  let publication ← mappingAt cell (text "publication_transaction")
    (text "cell.publication_transaction")
  let cellId := strAt cell (text "cell_id") []
  let transactionsDir := cellPath.parent.parent.join (text "transactions")
  let expectedManifest := transactionsDir.join (cellId ++ text ".transaction.json")
  let transactionId := text "academic-cell-publication:" ++ cellId
  requires (isText (publication.lookup (text "transaction_id")) transactionId ∧
      isText (publication.lookup (text "manifest_path")) (a.disk.resolve expectedManifest).toText ∧
      ¬a.disk.isSymlink expectedManifest ∧ a.disk.isFile expectedManifest)
    (text "cell publication transaction is missing or incompatible")
  let manifest ← a.readJson expectedManifest
  let failed := text "cell publication transaction manifest failed authentication"
  let core := manifest.filter fun member => member.1 ≠ text "identity"
  requires (isText (manifest.lookup (text "schema_version"))
      (text "academic-cell-publication-transaction-v1") ∧
    isText (manifest.lookup (text "state")) (text "committed") ∧
    isText (manifest.lookup (text "transaction_id")) transactionId ∧
    isText (manifest.lookup (text "cell_id")) cellId) failed
  let identity ← hashOf core
  requires (isText (manifest.lookup (text "identity")) identity) failed
  let mismatch := text "cell publication transaction target/hash mismatch"
  requires (isText (manifest.lookup (text "cell_target_path")) (a.disk.resolve cellPath).toText ∧
    isText (manifest.lookup (text "prediction_target_path"))
      (a.disk.resolve predictionPath).toText) mismatch
  a.checkDigest manifest (text "cell_sha256") cellPath mismatch
  a.checkDigest manifest (text "prediction_sha256") predictionPath mismatch
  a.checkPayload manifest transactionsDir (text "cell_payload_path") (text "cell_sha256")
  a.checkPayload manifest transactionsDir (text "prediction_payload_path")
    (text "prediction_sha256")

/-! ## The check -/

/-- What a cell of the first schema is checked for too -/
def Authenticator.checkPlanned (a : Authenticator F) (config cell descriptor : Members F)
    (cellPath predictionsDir : Path) : Except Text Unit := do
  requires (¬a.disk.isSymlink cellPath ∧ (a.disk.resolve cellPath).parent =
      a.disk.resolve (predictionsDir.parent.join (text "cells")))
    (text "completed cell artifact path escapes the frozen cells directory")
  requires (isText (cell.lookup (text "schema_version")) (cellSchema config) ∧
      isText (cell.lookup (text "status")) (text "complete"))
    (text "completed cell schema/status is incompatible")
  checkFields cell descriptor plannedFields (text " does not match the planned descriptor")

/-- What a cell of the second schema declares besides its predictions -/
def Authenticator.checkLedger (a : Authenticator F) (config cell descriptor : Members F) :
    Except Text Unit := do
  checkFields cell descriptor ledgerFields (text " does not match the frozen trial ledger")
  requires (isText (cell.lookup (text "evidence_origin")) (text "official_native"))
    (text "v2 official cell lacks evidence_origin=official_native")
  requires (Python.eq (Doc.get cell (text "validation_role_assignment_identity"))
      (Doc.get descriptor (text "validation_role_assignment_identity")))
    (text "v2 validation-role assignment is stale or incompatible")
  let authority ← mappingAt cell (text "numeric_authority") (text "cell.numeric_authority")
  requires (isText (authority.lookup (text "accountability_outcome")) (text "accountable"))
    (text "v2 cell numeric authority is not accountable")
  let blindGate ← mappingAt cell (text "blind_test_gate") (text "cell.blind_test_gate")
  requires (isBool (blindGate.lookup (text "calibration_frozen_before_test_scoring")) true ∧
      isBool (blindGate.lookup
        (text "test_truth_used_for_fit_preprocessing_stopping_or_calibration")) false)
    (text "blind-test lifecycle gate is absent or invalid")
  let currentCore ← a.numericalCoreIdentity config
  requires (isText (cell.lookup (text "numerical_core_identity")) currentCore)
    (text "cell numerical-core identity is stale")

/-- `_validate_resume_artifact` -/
def Authenticator.validateResumeArtifact (a : Authenticator F)
    (config cell descriptor : Members F) (cellPath predictionsDir : Path) : Except Text Unit := do
  a.checkPlanned config cell descriptor cellPath predictionsDir
  if isV2 config then do
    a.checkLedger config cell descriptor
    let (path, rows) ← a.predictionRows cell descriptor predictionsDir
    a.validatePublicationTransaction cell cellPath path
    a.validateCellRawReconstruction cell config (rows.map Prod.snd)
  else .ok ()

end Checks

end TruthFingerprint.OfflineTraining
