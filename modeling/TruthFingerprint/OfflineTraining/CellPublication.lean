import TruthFingerprint.Lib.StoreProcs
import TruthFingerprint.OfflineTraining.JsonFiles
import TruthFingerprint.OfflineTraining.PhaseSummary

/-!
# Publication of a cell

A cell and its predictions are published together. Both are stored as payloads, a manifest commits
to them, and from the manifest anyone can write the two files that the phase is read from. Files are
created whole, and never replaced.

What a call raises is the text of the error.
-/

namespace TruthFingerprint.OfflineTraining

open Python
open WriteOnce (Proc)
open Evidence (bytesId)

section Bytes

variable {F : Type} [FloatOps F]

mutual
/-- `_json_safe` -/
def jsonSafe : Value F → Value F
  | .num (.float x) => if FloatOps.isFinite x then .num (.float x) else .null
  | .arr items => .arr (jsonSafeItems items)
  | .obj members => .obj (jsonSafeMembers members)
  | value => value
termination_by structural value => value

def jsonSafeItems : List (Value F) → List (Value F)
  | [] => []
  | value :: values => jsonSafe value :: jsonSafeItems values
termination_by structural values => values

def jsonSafeMembers : List (Text × Value F) → List (Text × Value F)
  | [] => []
  | member :: members => jsonSafeMember member :: jsonSafeMembers members
termination_by structural members => members

def jsonSafeMember : Text × Value F → Text × Value F
  | (name, value) => (name, jsonSafe value)
termination_by structural member => member
end

/-- `json.dumps` of what is safe, as bytes -/
def dumpsSafe (layout : JsonText.Layout) (value : Value F) : Except Text Bytes := do
  let t ← orIssue (dumpsAt layout (jsonSafe value)) (text "value cannot be written as JSON")
  .ok (t ++ text "\n").utf8

/-- `_json_bytes` -/
def jsonBytes (value : Value F) : Except Text Bytes := dumpsSafe (.indented 2) value

/-- `_jsonl_bytes` -/
def jsonlBytes (rows : List (Members F)) : Except Text Bytes := do
  let lines ← rows.mapM fun row => dumpsSafe .spaced (.obj row)
  .ok lines.flatten

end Bytes

/-! ## Files -/

abbrev FileProc (α : Type) := Proc Path Bytes Text α

/-- What the system does with the name of a file -/
structure FileNames where
  resolve : Path → Path

namespace FileNames

variable (fs : FileNames)

/-- `path.read_bytes()` -/
def readBytes (path : Path) : FileProc Bytes :=
  .read (fs.resolve path) fun content =>
    match content with
    | some content => .pure content
    | none => .raise (text "No such file or directory: " ++ path.toText)

def isFile (path : Path) : FileProc Bool :=
  .read (fs.resolve path) fun content => .pure content.isSome

/-- `file_sha256` -/
def fileSha256 (path : Path) : FileProc Text := do
  let content ← fs.readBytes path
  return bytesId content

/-- What an immutable file is written over -/
def compareBytes (path : Path) (existing payload : Bytes) : FileProc Unit :=
  if existing = payload then .pure () else .raise (text "Immutable artifact conflict: " ++ path.toText)

/-- `_atomic_write` of an immutable file: when another process links first, its bytes are compared
too. -/
def atomicWrite (path : Path) (payload : Bytes) : FileProc Unit :=
  .read (fs.resolve path) fun existing =>
    match existing with
    | some existing => compareBytes path existing payload
    | none => .create (fs.resolve path) payload fun linked =>
      if linked then .pure ()
      else do
        let existing ← fs.readBytes path
        compareBytes path existing payload

variable {F : Type} [Coercions F] [FloatEq F]

/-- `_read_json` -/
def readJson (path : Path) : FileProc (Members F) := do
  let content ← fs.readBytes path
  let value ← .ofExcept (orIssue (loadsBytes (F := F) content) (text "invalid JSON"))
  .ofExcept (orIssue (mapping value)
    (text "Expected JSON object in " ++ path.toText ++ text "."))

end FileNames

/-! ## Paths -/

/-- The paths of `academic_paths` below the root of an experiment -/
def phasePaths (root : Path) (phase : Phase) : AcademicPaths where
  root := root
  phase := root.join phase.label
  cells := (root.join phase.label).join (text "cells")
  predictions := (root.join phase.label).join (text "predictions")

namespace AcademicPaths

variable (paths : AcademicPaths)

def transactions : Path := paths.phase.join (text "transactions")

def manifestPath (cellId : Text) : Path :=
  paths.transactions.join (cellId ++ text ".transaction.json")

def cellTarget (cellId : Text) : Path := paths.cells.join (cellId ++ text ".json")

def predictionTarget (cellId : Text) : Path := paths.predictions.join (cellId ++ text ".jsonl")

def cellPayloadPath (cellId : Text) (payload : Bytes) : Path :=
  paths.transactions.join (cellId ++ text ".cell." ++ Sha256.hexDigest payload ++ text ".json")

def predictionPayloadPath (cellId : Text) (payload : Bytes) : Path :=
  paths.transactions.join
    (cellId ++ text ".prediction." ++ Sha256.hexDigest payload ++ text ".jsonl")

end AcademicPaths

def transactionSchema : Text := text "academic-cell-publication-transaction-v1"

def transactionId (cellId : Text) : Text := text "academic-cell-publication:" ++ cellId

/-! ## Recovery -/

namespace FileNames

variable {F : Type} [Coercions F] [FloatEq F] (fs : FileNames) (paths : AcademicPaths)

/-- A payload is a file of the transactions, with the digest that the manifest declares. -/
def checkPayload (payloadPath : Path) (expectedHash : Option (Value F)) : FileProc Unit := do
  let issue := text "Cell transaction payload is missing or unauthenticated: " ++ payloadPath.toText
  .ofExcept (requires ((fs.resolve payloadPath).parent = fs.resolve paths.transactions) issue)
  let found ← fs.isFile payloadPath
  .ofExcept (requires found issue)
  let digest ← fs.fileSha256 payloadPath
  .ofExcept (requires (isText expectedHash digest) issue)

/-- The cell of a committed manifest -/
def committedCellId (manifest : Members F) (manifestPath : Path) : Except Text Text :=
  let issue := text "Cell transaction is not a committed closed record: " ++ manifestPath.toText
  match manifest.lookup (text "cell_id") with
  | some (.str cellId) => do
    requires (isText (manifest.lookup (text "state")) (text "committed") ∧
      isText (manifest.lookup (text "transaction_id")) (transactionId cellId)) issue
    .ok cellId
  | _ => .error issue

/-- What is checked of a manifest before anything else is read -/
def checkManifest (manifest : Members F) (manifestPath : Path) : Except Text Text := do
  requires (isText (manifest.lookup (text "schema_version")) transactionSchema)
    (text "Unsupported cell transaction schema: " ++ manifestPath.toText)
  let identity ← hashOf (manifest.filter fun member => member.1 ≠ text "identity")
  requires (isText (manifest.lookup (text "identity")) identity)
    (text "Cell transaction identity mismatch: " ++ manifestPath.toText)
  let cellId ← committedCellId manifest manifestPath
  requires (fs.resolve manifestPath = fs.resolve (paths.manifestPath cellId))
    (text "Cell transaction manifest escapes its frozen directory.")
  requires (isText (manifest.lookup (text "cell_target_path"))
      (fs.resolve (paths.cellTarget cellId)).toText ∧
    isText (manifest.lookup (text "prediction_target_path"))
      (fs.resolve (paths.predictionTarget cellId)).toText)
    (text "Cell transaction target binding is inconsistent.")
  .ok cellId

/-- The target has the digest that the manifest declares. -/
def checkTarget (target : Path) (expectedHash : Option (Value F)) : FileProc Unit := do
  let digest ← fs.fileSha256 target
  .ofExcept (requires (isText expectedHash digest)
    (text "Recovered cell transaction failed final hash verification."))

/-- `_recover_cell_transaction` -/
def recoverCellTransaction (manifestPath : Path) : FileProc Unit := do
  let manifest ← fs.readJson (F := F) manifestPath
  let cellId ← .ofExcept (fs.checkManifest paths manifest manifestPath)
  let cellPayloadPath := Path.ofText (strAt manifest (text "cell_payload_path") [])
  let predictionPayloadPath := Path.ofText (strAt manifest (text "prediction_payload_path") [])
  let cellHash := manifest.lookup (text "cell_sha256")
  let predictionHash := manifest.lookup (text "prediction_sha256")
  fs.checkPayload paths cellPayloadPath cellHash
  fs.checkPayload paths predictionPayloadPath predictionHash
  let predictions ← fs.readBytes predictionPayloadPath
  fs.atomicWrite (paths.predictionTarget cellId) predictions
  let cell ← fs.readBytes cellPayloadPath
  fs.atomicWrite (paths.cellTarget cellId) cell
  fs.checkTarget (paths.predictionTarget cellId) predictionHash
  fs.checkTarget (paths.cellTarget cellId) cellHash

/-- The manifests of the transactions -/
def isManifest (path : Path) : Bool :=
  path.parent = fs.resolve paths.transactions ∧ text ".transaction.json" <:+ path.name

/-- `_recover_cell_transactions` -/
def recoverCellTransactions : FileProc Unit :=
  .list (fs.isManifest paths) fun manifests =>
    (manifests.insertionSort (·.name ≤ ·.name)).forM (fs.recoverCellTransaction (F := F) paths)

end FileNames

/-! ## Publication -/

/-- What is published of a cell -/
structure CellPublication where
  cellId : Text
  cellPayload : Bytes
  predictionPayload : Bytes
  predictionRows : ℕ
  isPart : Path.IsPart cellId

namespace CellPublication

variable {F : Type} (fs : FileNames) (paths : AcademicPaths) (p : CellPublication)

def manifestPath : Path := paths.manifestPath p.cellId

def cellPayloadPath : Path := paths.cellPayloadPath p.cellId p.cellPayload

def predictionPayloadPath : Path := paths.predictionPayloadPath p.cellId p.predictionPayload

/-- `manifest_core` -/
def manifestCore : Members F :=
  [(text "schema_version", .str transactionSchema),
    (text "state", .str (text "committed")),
    (text "transaction_id", .str (transactionId p.cellId)),
    (text "cell_id", .str p.cellId),
    (text "cell_target_path", .str (fs.resolve (paths.cellTarget p.cellId)).toText),
    (text "cell_payload_path", .str (fs.resolve (p.cellPayloadPath paths)).toText),
    (text "cell_sha256", .str (bytesId p.cellPayload)),
    (text "prediction_target_path", .str (fs.resolve (paths.predictionTarget p.cellId)).toText),
    (text "prediction_payload_path", .str (fs.resolve (p.predictionPayloadPath paths)).toText),
    (text "prediction_sha256", .str (bytesId p.predictionPayload)),
    (text "prediction_rows", .num (.int p.predictionRows))]

def manifest (identity : Text) : Members F :=
  p.manifestCore fs paths ++ [(text "identity", .str identity)]

variable (F) [Coercions F] in
/-- The bytes of the manifest -/
def manifestBytes : Except Text Bytes := do
  let identity ← hashOf (p.manifestCore (F := F) fs paths)
  jsonBytes (.obj (p.manifest (F := F) fs paths identity))

end CellPublication

namespace FileNames

variable {F : Type} [Coercions F] [FloatEq F] (fs : FileNames) (paths : AcademicPaths)

omit [FloatEq F] in
/-- A cell's identity that is the name of a file -/
def safeCellId (cell : Members F) : Except Text {cellId : Text // Path.IsPart cellId} :=
  let issue := text "Cell publication requires a safe immutable cell_id."
  match cell.lookup (text "cell_id") with
  | some (.str cellId) =>
    if h : cellId ≠ [] ∧ (Path.ofText cellId).name = cellId then
      .ok ⟨cellId, Path.isPart_of_name h.1 h.2⟩
    else .error issue
  | _ => .error issue

/-- What is published of a cell that is bound to its transaction and its predictions -/
def cellPublication (cell : Members F) (predictionRows : List (Members F)) :
    Except Text CellPublication := do
  let ⟨cellId, hcellId⟩ ← safeCellId cell
  let publication ← mappingAt cell (text "publication_transaction")
    (text "cell.publication_transaction")
  requires (isText (publication.lookup (text "transaction_id")) (transactionId cellId) ∧
      isText (publication.lookup (text "manifest_path"))
        (fs.resolve (paths.manifestPath cellId)).toText)
    (text "Cell publication transaction binding is inconsistent.")
  let predictionPayload ← jsonlBytes predictionRows
  let expected ← mappingAt cell (text "predictions_artifact") (text "cell.predictions_artifact")
  requires (isText (expected.lookup (text "path"))
        (fs.resolve (paths.predictionTarget cellId)).toText ∧
      isText (expected.lookup (text "sha256")) (bytesId predictionPayload) ∧
      Python.eq (Doc.get expected (text "rows")) (.num (.int predictionRows.length)))
    (text "Prediction payload does not match its cell binding.")
  let cellPayload ← jsonBytes (.obj cell)
  .ok ⟨cellId, cellPayload, predictionPayload, predictionRows.length, hcellId⟩

variable (F) in
/-- What is written for a publication: its payloads, and the manifest after them -/
def publish (p : CellPublication) : FileProc Unit := do
  fs.atomicWrite (p.predictionPayloadPath paths) p.predictionPayload
  fs.atomicWrite (p.cellPayloadPath paths) p.cellPayload
  let content ← .ofExcept (p.manifestBytes F fs paths)
  fs.atomicWrite (p.manifestPath paths) content
  fs.recoverCellTransaction (F := F) paths (p.manifestPath paths)

/-- `_publish_cell_transaction` -/
def publishCellTransaction (cell : Members F) (predictionRows : List (Members F)) :
    FileProc Unit := do
  let p ← .ofExcept (fs.cellPublication paths cell predictionRows)
  fs.publish F paths p

end FileNames

end TruthFingerprint.OfflineTraining
