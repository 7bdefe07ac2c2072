import Mathlib
import TruthFingerprint.Evidence.ManifestBytes

/-!
# Academic units and datasets

A unit is a trace, a recording or a block of rows, with the partition that it is assigned to before
any window is cut. Its identities are digests of canonical documents: those that a model may be
bound to leave out what the unit is labelled. A digest of a document with a string that cannot be
encoded raises, which is the result `none`.
-/

namespace TruthFingerprint.OfflineTraining

open Evidence (bytesId isEncodable isPlain)
open Python (FloatOps Number Value)

/-! ## Values -/

instance neZero_two : NeZero 2 := ⟨by decide⟩

/-- What a row holds: numbers, or the names of system calls -/
inductive FeatureValue (F : Type) where
  | number (x : F)
  | name (s : Text)
deriving DecidableEq

abbrev Row (F : Type) := List (FeatureValue F)

abbrev Rows (F : Type) := List (Row F)

section Hash

variable {F : Type} [FloatOps F]

/-- A float as `json` writes it, which has names of its own for those that are not finite -/
def jsonFloat (x : F) : Text :=
  if FloatOps.isFinite x then FloatOps.repr x
  else if FloatOps.repr x = text "inf" then text "Infinity"
  else if FloatOps.repr x = text "-inf" then text "-Infinity"
  else text "NaN"

def jsonLiteral : Number F → Text
  | .int i => Python.intText i
  | .float x => jsonFloat x

/-- `json` writes every float, and integers that are not too long. -/
def isWritable : Number F → Bool
  | .int i => i.natAbs < 10 ^ Python.maxStrDigits
  | .float _ => true

/-- The numbers of a document can be written, and its strings encoded. -/
def Hashable (document : Value F) : Prop := document.All (isWritable ·) (isEncodable ·)

instance : DecidablePred (Hashable (F := F)) :=
  fun document => inferInstanceAs (Decidable (document.All _ _))

/-- `canonical_json_hash` -/
def canonicalJsonHash (document : Value F) : Option Text :=
  if Hashable document then
    some (bytesId (JsonText.render (JsonText.escapeWith isPlain)
      (document.sortKeys.map jsonLiteral id)).utf8)
  else none

def FeatureValue.doc : FeatureValue F → Value F
  | .number x => .num (.float x)
  | .name s => .str s

def rowsDoc (rows : Rows F) : Value F := .arr (rows.map fun row => .arr (row.map (·.doc)))

def natDoc (n : Nat) : Value F := .num (.int n)

def textsDoc (ts : List Text) : Value F := .arr (ts.map .str)

end Hash

/-! ## Units -/

/-- `PARTITIONS` -/
inductive Partition where
  | train
  | validation
  | test
deriving DecidableEq

def Partition.label : Partition → Text
  | .train => text "train"
  | .validation => text "validation"
  | .test => text "test"

/-- `EVIDENCE_ORIGINS` -/
inductive EvidenceOrigin where
  | officialNative
  | authenticCapture
  | prototypeGenerated
  | mockParameterized
  | measured
  | testFixture
deriving DecidableEq

def EvidenceOrigin.value : EvidenceOrigin → Text
  | .officialNative => text "official_native"
  | .authenticCapture => text "authentic_capture"
  | .prototypeGenerated => text "prototype_generated"
  | .mockParameterized => text "mock_parameterized"
  | .measured => text "measured"
  | .testFixture => text "test_fixture"

structure AcademicUnit (F : Type) where
  unitId : Text
  groupId : Text
  nativePartition : Text
  assignedPartition : Partition
  label : Fin 2
  className : Text
  values : Rows F
  sourcePath : Text
  sourceSha256 : Text
  order : Int
  eventIds : List Text
  sampledSequences : List (Nat × Rows F)
  evidenceOrigin : EvidenceOrigin
  resamplingClusterId : Text
  unitId_ne : unitId ≠ []
  groupId_ne : groupId ≠ []
deriving DecidableEq

namespace AcademicUnit

variable {F : Type} (unit : AcademicUnit F)

def clusterId : Text := if unit.resamplingClusterId = [] then unit.unitId else unit.resamplingClusterId

/-- The document that `detector_input_identity` hashes -/
def detectorInputDoc : Value F :=
  .obj [(text "values", rowsDoc unit.values),
    (text "sampled_sequences", .arr (unit.sampledSequences.map fun sequence =>
      .obj [(text "start", natDoc sequence.1), (text "values", rowsDoc sequence.2)]))]

/-- The document that `detector_input_content_identity` hashes -/
def detectorInputContentDoc : Value F :=
  .obj [(text "values", rowsDoc unit.values),
    (text "sampled_sequences", .arr (unit.sampledSequences.map fun sequence => rowsDoc sequence.2))]

variable [FloatOps F]

def detectorInputIdentity : Option Text := canonicalJsonHash unit.detectorInputDoc

def detectorInputContentIdentity : Option Text := canonicalJsonHash unit.detectorInputContentDoc

def modelInputIdentityDict : Option (Value F) :=
  unit.detectorInputIdentity.map fun identity =>
    .obj [(text "unit_id", .str unit.unitId), (text "group_id", .str unit.groupId),
      (text "native_partition", .str unit.nativePartition),
      (text "assigned_partition", .str unit.assignedPartition.label),
      (text "detector_input_identity", .str identity),
      (text "sampled_sequence_starts",
        .arr (unit.sampledSequences.map fun sequence => natDoc sequence.1)),
      (text "evidence_origin", .str unit.evidenceOrigin.value)]

end AcademicUnit

/-! ## Datasets -/

/-- `OFFICIAL_DATASETS` -/
def officialDatasets : List Text := [text "adfa-ld", text "lid-ds-2021", text "hai-23.05"]

structure AcademicDataset (F : Type) where
  name : Text
  modality : Text
  protocol : Text
  units : List (AcademicUnit F)
  featureNames : List Text
  phase : Text
  evidenceOrigin : EvidenceOrigin
  official : name ∈ officialDatasets → evidenceOrigin = .officialNative
  origins : ∀ unit ∈ units, unit.evidenceOrigin = evidenceOrigin
  unitIds : (units.map AcademicUnit.unitId).Nodup

namespace AcademicDataset

variable {F : Type} (dataset : AcademicDataset F)

def partition (partition : Partition) : List (AcademicUnit F) :=
  dataset.units.filter fun unit => unit.assignedPartition = partition

variable [FloatOps F]

def modelInputIdentity : Option Text := do
  let units ← dataset.units.mapM (·.modelInputIdentityDict)
  canonicalJsonHash (.obj [(text "name", .str dataset.name),
    (text "modality", .str dataset.modality), (text "protocol", .str dataset.protocol),
    (text "phase", .str dataset.phase), (text "feature_names", textsDoc dataset.featureNames),
    (text "units", .arr units), (text "evidence_origin", .str dataset.evidenceOrigin.value)])

end AcademicDataset

end TruthFingerprint.OfflineTraining
